import OrderDesk.Proofs.Json.Free
import OrderDesk.Proofs.Json.Scanning

/-!
# Proofs/Json/Denotation — a text is taken for the value of its phrase

    text ──▸ p.lexemes ──▸ p.within 127 ──▸ p.value?

What a phrase says is said without the machine: `Phrase.value?` follows the phrase, and gives nothing
just where a string holds half of a surrogate pair or a number is beyond every double
(`Phrase.isSome_value?_iff`).  A text is taken for a value exactly if it is one of a phrase that has
this value and nests at most 127 arrays and objects (`Value.parse?_eq_some_iff`).  Of members with one
name the last one counts (`Document.lookup_insertAll`).
-/

namespace OrderDesk.Json

/-- Whether a lexeme has a value, or needs none: a string says something, and a number is not beyond
every double. -/
def Token.Legible : Token → Prop
  | .string none => False
  | .number l => (Document.ofLiteral l).toValue?.isSome = true
  | _ => True

namespace Phrase

/-! ## Depth and value -/

mutual

/-- How many arrays and objects stand inside each other, at most. -/
def depth : Phrase → Nat
  | .array items => itemsDepth items + 1
  | .object members => membersDepth members + 1
  | _ => 0

/-- The depth of the deepest item. -/
def itemsDepth : List Phrase → Nat
  | [] => 0
  | p :: ps => max p.depth (itemsDepth ps)

/-- The depth of the deepest member. -/
def membersDepth : List (Option String × Phrase) → Nat
  | [] => 0
  | (_, p) :: ms => max p.depth (membersDepth ms)

end

mutual

/-- **The value of a phrase.**  An object has its members in alphabetical order, of repeated ones the
last. -/
def value? : Phrase → Option Value
  | .null => some .null
  | .bool b => some (.bool b)
  | .number l => (Document.ofLiteral l).toValue?
  | .string s => s.map .string
  | .array items => (itemValues? items).map .array
  | .object members => (memberValues? members).map fun us => .object (Document.insertAll us [])

/-- The values of items. -/
def itemValues? : List Phrase → Option (List Value)
  | [] => some []
  | p :: ps =>
    match p.value?, itemValues? ps with
    | some v, some vs => some (v :: vs)
    | _, _ => none

/-- The members of an object with their values, as they stand in the text. -/
def memberValues? : List (Option String × Phrase) → Option (List (String × Value))
  | [] => some []
  | (none, _) :: _ => none
  | (some k, p) :: ms =>
    match p.value?, memberValues? ms with
    | some v, some us => some ((k, v) :: us)
    | _, _ => none

end

/-! ## Documents are read as the values of phrases -/

mutual

/-- **The document of a phrase is read as its value,** if there is room for it. -/
theorem toValue?_within : ∀ (p : Phrase) (room : Nat),
    (p.within room).toValue? = if p.depth ≤ room then p.value? else none
  | .null, room | .bool _, room | .string none, room | .string (some _), room => by
      simp [within, depth, value?, Document.toValue?]
  | .number l, room => by simp [within, depth, value?]
  | .array ps, 0 => by simp [within, depth, Document.toValue?]
  | .object ms, 0 => by simp [within, depth, Document.toValue?]
  | .array ps, room + 1 => by
      simp only [within, depth, value?, Document.toValue?, itemsToValues?_within ps room,
        Nat.add_le_add_iff_right]
      split <;> rfl
  | .object ms, room + 1 => by
      simp only [within, depth, value?, Document.toValue?, membersToValues?_within ms room,
        Nat.add_le_add_iff_right]
      split
      · rw [Option.map_map]; rfl
      · rfl

theorem itemsToValues?_within : ∀ (ps : List Phrase) (room : Nat),
    Document.itemsToValues? (itemsWithin ps room)
      = if itemsDepth ps ≤ room then itemValues? ps else none
  | [], room => by simp [itemsWithin, itemsDepth, itemValues?, Document.itemsToValues?]
  | p :: ps, room => by
      have hp := toValue?_within p room
      have hps := itemsToValues?_within ps room
      simp only [itemsWithin, itemsDepth, Nat.max_le]
      by_cases h : p.depth ≤ room ∧ itemsDepth ps ≤ room
      · rw [if_pos h.1] at hp
        rw [if_pos h.2] at hps
        cases hv : p.value? <;> cases hvs : itemValues? ps <;>
          simp [Document.itemsToValues?, itemValues?, h, hp, hps, hv, hvs]
      · rw [if_neg h]
        exact Document.itemsToValues?_cons_eq_none ((not_and_or.mp h).imp
          (fun h => by rw [hp, if_neg h]) fun h => by rw [hps, if_neg h])

theorem membersToValues?_within : ∀ (ms : List (Option String × Phrase)) (room : Nat)
    (sorted : List (String × Value)), Document.membersToValues? sorted (membersWithin ms room)
      = if membersDepth ms ≤ room then (memberValues? ms).map (Document.insertAll · sorted) else none
  | [], room, sorted => by
      simp [membersWithin, membersDepth, memberValues?, Document.membersToValues?, Document.insertAll]
  | (none, p) :: ms, room, sorted => by
      simp [membersWithin, memberValues?, Document.membersToValues?]
  | (some k, p) :: ms, room, sorted => by
      have hp := toValue?_within p room
      have hms := membersToValues?_within ms room
      simp only [membersWithin, membersDepth, Nat.max_le]
      by_cases h : p.depth ≤ room ∧ membersDepth ms ≤ room
      · rw [if_pos h.1] at hp
        simp only [if_pos h.2] at hms
        cases hv : p.value? <;> cases hvs : memberValues? ms <;>
          simp [Document.membersToValues?, memberValues?, Document.insertAll, h, hp, hms, hv, hvs]
      · rw [if_neg h]
        exact Document.membersToValues?_cons_eq_none ((not_and_or.mp h).imp
          (fun h => by rw [hp, if_neg h]) fun h sorted => by rw [hms, if_neg h])

end

/-! ## Which phrases have a value -/

mutual

/-- **A phrase has a value if all its lexemes are legible.** -/
theorem isSome_value?_iff : ∀ p : Phrase,
    p.value?.isSome = true ↔ ∀ t ∈ p.lexemes, t.Legible
  | .null | .bool _ | .string none | .string (some _) | .array [] | .object [] => by
      simp [value?, itemValues?, memberValues?, lexemes, Token.Legible]
  | .number l => by simp [value?, lexemes, Token.Legible]
  | .array (p :: ps) => by
      have hp := isSome_value?_iff p
      have hps := isSome_itemValues?_iff ps
      simp only [lexemes, List.forall_mem_cons, List.forall_mem_append, ← hp, ← hps]
      simp only [value?, itemValues?, Token.Legible]
      cases p.value? <;> cases itemValues? ps <;> simp
  | .object ((k, p) :: ms) => by
      have hp := isSome_value?_iff p
      have hms := isSome_memberValues?_iff ms
      simp only [lexemes, List.forall_mem_cons, List.forall_mem_append, ← hp, ← hms]
      cases k with
      | none => simp [value?, memberValues?, Token.Legible]
      | some k =>
        simp only [value?, memberValues?, Token.Legible]
        cases p.value? <;> cases memberValues? ms <;> simp

theorem isSome_itemValues?_iff : ∀ ps : List Phrase,
    (itemValues? ps).isSome = true ↔ ∀ t ∈ itemLexemes ps, t.Legible
  | [] => by simp [itemValues?, itemLexemes]
  | p :: ps => by
      have hp := isSome_value?_iff p
      have hps := isSome_itemValues?_iff ps
      simp only [itemLexemes, List.forall_mem_cons, List.forall_mem_append, ← hp, ← hps]
      simp only [itemValues?, Token.Legible]
      cases p.value? <;> cases itemValues? ps <;> simp

theorem isSome_memberValues?_iff : ∀ ms : List (Option String × Phrase),
    (memberValues? ms).isSome = true ↔ ∀ t ∈ memberLexemes ms, t.Legible
  | [] => by simp [memberValues?, memberLexemes]
  | (k, p) :: ms => by
      have hp := isSome_value?_iff p
      have hms := isSome_memberValues?_iff ms
      simp only [memberLexemes, List.forall_mem_cons, List.forall_mem_append, ← hp, ← hms]
      cases k with
      | none => simp [memberValues?, Token.Legible]
      | some k =>
        simp only [memberValues?, Token.Legible]
        cases p.value? <;> cases memberValues? ms <;> simp

end

variable {p : Phrase} {text : String} {v : Value}

/-- A value that a phrase has is free. -/
theorem isFree_of_value? (h : p.value? = some v) : v.IsFree := by
  have hwithin := toValue?_within p p.depth
  rw [if_pos (Nat.le_refl _), h] at hwithin
  exact Document.isFree_of_toValue? hwithin

/-! ## Texts -/

/-- **A text of a phrase is taken for the value of the phrase,** if that nests at most 127 arrays and
objects. -/
theorem IsText.parse?_eq (h : p.IsText text) :
    Value.parse? text = if p.depth ≤ Document.maxDepth then p.value? else none := by
  rw [Value.parse?, Document.read, isText_iff.mp h, Document.ofTokens_lexemes, ← toValue?_within]
  cases (p.within Document.maxDepth).toValue? <;> rfl

/-- **A text that is taken for a value is one of a phrase.** -/
theorem exists_isText (h : Value.parse? text = some v) : ∃ p : Phrase, p.IsText text := by
  simp only [Value.parse?] at h
  split at h
  · next hvalue =>
    split at h
    · next hcomplete =>
      obtain ⟨p, hp⟩ := Document.exists_lexemes_eq hcomplete hvalue
      exact ⟨p, isText_iff.mpr hp⟩
    · cases h
  · cases h

end Phrase

/-- **What a text is taken for.** -/
theorem Value.parse?_eq_some_iff {text : String} {v : Value} : parse? text = some v ↔
    ∃ p : Phrase, p.IsText text ∧ p.depth ≤ Document.maxDepth ∧ p.value? = some v := by
  constructor
  · intro h
    obtain ⟨p, hp⟩ := Phrase.exists_isText h
    rw [hp.parse?_eq] at h
    split at h
    · next hdepth => exact ⟨p, hp, hdepth, h⟩
    · cases h
  · rintro ⟨p, hp, hdepth, hvalue⟩
    rw [hp.parse?_eq, if_pos hdepth, hvalue]

/-! ## Members -/

namespace Document

variable {key name : String} {v : Value}

theorem lookup_cons_eq (k : String) (w : Value) (ms : List (String × Value)) :
    ((k, w) :: ms).lookup name = if name = k then some w else ms.lookup name := by
  by_cases h : name = k
  · rw [List.lookup_cons, if_pos h, h, beq_self_eq_true]
  · rw [List.lookup_cons, if_neg h, beq_false_of_ne h]

theorem lookup_insertMember (ms : List (String × Value)) :
    (insertMember key v ms).lookup name = if name = key then some v else ms.lookup name := by
  induction ms with
  | nil => exact lookup_cons_eq key v []
  | cons u us ih =>
    obtain ⟨k, w⟩ := u
    rw [insertMember]
    split
    next heq =>
      subst heq
      rw [lookup_cons_eq, lookup_cons_eq]
      split <;> rfl
    split
    next => exact lookup_cons_eq key v _
    next hne _ =>
      rw [lookup_cons_eq, ih, lookup_cons_eq]
      by_cases hk : name = k
      · rw [if_pos hk, if_neg fun h => hne (h.symm.trans hk), if_pos hk]
      · rw [if_neg hk, if_neg hk]

theorem lookup_filter_ne (ms : List (String × Value)) :
    (ms.filter (·.1 != key)).lookup name = if name = key then none else ms.lookup name := by
  induction ms with
  | nil => split <;> rfl
  | cons u us ih =>
    obtain ⟨k, w⟩ := u
    by_cases hk : k = key
    · subst hk
      rw [List.filter_cons_of_neg (by simp), ih, lookup_cons_eq]
      split <;> rfl
    · rw [List.filter_cons_of_pos (by simpa using hk), lookup_cons_eq, lookup_cons_eq, ih]
      by_cases hname : name = k
      · subst hname
        rw [if_pos rfl, if_neg hk, if_pos rfl]
      · rw [if_neg hname, if_neg hname]

/-- Among members in alphabetical order every one is found by its name. -/
theorem mem_iff_lookup {ms : List (String × Value)} (h : ms.Pairwise (·.1 < ·.1)) :
    (key, v) ∈ ms ↔ ms.lookup key = some v := by
  rw [List.lookup_eq_some_iff]
  constructor
  · intro hmem
    obtain ⟨us, ws, rfl⟩ := List.append_of_mem hmem
    refine ⟨us, ws, rfl, fun m hm => ?_⟩
    have hlt := (List.pairwise_append.mp h).2.2 m hm _ List.mem_cons_self
    simpa using (String.ne_of_lt hlt).symm
  · rintro ⟨us, ws, rfl, -⟩
    simp

/-- Members in alphabetical order are told by what is found by their names. -/
theorem eq_of_lookup_eq {us ws : List (String × Value)} (hu : us.Pairwise (·.1 < ·.1))
    (hw : ws.Pairwise (·.1 < ·.1)) (h : ∀ name, us.lookup name = ws.lookup name) : us = ws := by
  have nodup : ∀ {ms : List (String × Value)}, ms.Pairwise (·.1 < ·.1) → ms.Nodup := fun hms =>
    hms.imp fun hlt heq => String.ne_of_lt hlt (congrArg Prod.fst heq)
  have hperm : us.Perm ws := (List.perm_ext_iff_of_nodup (nodup hu) (nodup hw)).mpr fun m => by
    rw [mem_iff_lookup hu, mem_iff_lookup hw, h]
  exact hperm.eq_of_pairwise (fun _ _ _ _ hab hba => absurd hba (String.lt_asymm hab)) hu hw

/-- **Of members with one name the last one counts.** -/
theorem lookup_insertAll (us ms : List (String × Value)) :
    (insertAll us ms).lookup name = (us.reverse.lookup name).or (ms.lookup name) := by
  induction us generalizing ms with
  | nil => rfl
  | cons u us ih =>
    have hlast : (List.lookup name [u]).or (ms.lookup name)
        = if name = u.1 then some u.2 else ms.lookup name := by
      rw [lookup_cons_eq]
      split <;> rfl
    rw [List.reverse_cons, List.lookup_append, Option.or_assoc, hlast, ← lookup_insertMember]
    exact ih _

end Document

namespace Phrase

theorem exists_number_of_ofLiteral {l : Literal} {v : Value}
    (h : (Document.ofLiteral l).toValue? = some v) : ∃ n, v = .number n := by
  unfold Document.ofLiteral at h
  split at h
  · obtain ⟨n, -, rfl⟩ := Option.map_eq_some_iff.mp h
    exact ⟨n, rfl⟩
  · split at h
    · cases h
      exact ⟨_, rfl⟩
    · cases h

/-- **A member of a phrase:** the value of the last one with a name, if the phrase is an object. -/
def member? (name : String) : Phrase → Option Value
  | .object members => (memberValues? members).bind fun us => us.reverse.lookup name
  | _ => none

/-- The members of a value are those of its phrase. -/
theorem get?_of_value? {p : Phrase} {v : Value} (h : p.value? = some v) (name : String) :
    v.get? name = p.member? name := by
  cases p with
  | null | bool => cases h; rfl
  | string s =>
    obtain ⟨_, -, rfl⟩ := Option.map_eq_some_iff.mp h
    rfl
  | array items =>
    obtain ⟨_, -, rfl⟩ := Option.map_eq_some_iff.mp h
    rfl
  | number l =>
    obtain ⟨n, rfl⟩ := exists_number_of_ofLiteral h
    rfl
  | object members =>
    obtain ⟨us, hus, rfl⟩ := Option.map_eq_some_iff.mp h
    rw [Value.get?, member?, hus, Document.lookup_insertAll]
    exact Option.or_none

end Phrase

end OrderDesk.Json
