import Mathlib.Data.List.Perm.Basic
import OrderDesk.Json.Document
import OrderDesk.Proofs.Json.Reading

/-!
# Proofs/Json/Free — free values, and documents that spell a value

A free value holds the members of its objects in alphabetical order and its integers in 64 bits
(`Value.IsFree`); these are exactly the values that documents are read as (`isFree_iff`).

A document *spells* a value when it is that value with the members of its objects in any order.  The
document of a value spells it, and so does the document of its free form, provided that no name occurs
twice and all integers have 64 bits (`exists_free`): what is told apart by its members alone is not
changed by the way through a free value.
-/

namespace OrderDesk.Json

/-! ## Numbers -/

namespace Number

/-- Whether a number is an integer of at most so many bits, or a negative one of 64. -/
def Within (bits : Nat) : Number → Prop
  | .int z => -(Int.pow 2 63) ≤ z ∧ z < Int.pow 2 bits
  | .float _ => False

/-- Whether a free value holds a number as it is. -/
def IsFree : Number → Prop
  | .int z => -(Int.pow 2 63) ≤ z ∧ z < Int.pow 2 64
  | .float _ => True

variable {n m : Number}

theorem Within.isFree (h : n.Within 64) : n.IsFree := by
  cases n with
  | int z => exact h
  | float x => trivial

theorem Within.mono {bits bits' : Nat} (h : n.Within bits) (hb : bits ≤ bits') :
    n.Within bits' := by
  have hpow : ∀ k, Int.pow 2 k = ((Nat.pow 2 k : Nat) : Int) := by
    intro k
    exact (Int.natCast_pow 2 k).symm
  cases n with
  | int z =>
    obtain ⟨hlow, hhigh⟩ := h
    refine ⟨hlow, Int.lt_of_lt_of_le hhigh ?_⟩
    rw [hpow, hpow]
    exact Int.ofNat_le.mpr (Nat.pow_le_pow_right (by decide) hb)
  | float x => exact h

theorem freeNumber?_of_isFree (h : n.IsFree) : Document.freeNumber? n = some n := by
  cases n with
  | int z => exact if_pos h
  | float x => rfl

theorem isFree_of_freeNumber? (h : Document.freeNumber? n = some m) : m.IsFree := by
  cases n with
  | int z =>
    rw [Document.freeNumber?] at h
    split at h
    next hz => exact Option.some.inj h ▸ hz
    next =>
      obtain ⟨x, -, rfl⟩ := Option.map_eq_some_iff.mp h
      trivial
  | float x => exact Option.some.inj h ▸ trivial

/-- An integer of more than 64 bits becomes a double. -/
theorem exists_float_of_freeNumber? {z : Int} (hz : Int.pow 2 64 ≤ z)
    (h : Document.freeNumber? (.int z) = some m) : ∃ x, m = .float x := by
  rw [Document.freeNumber?, if_neg (fun hbounds => absurd hz (Int.not_le.mpr hbounds.2))] at h
  obtain ⟨x, -, rfl⟩ := Option.map_eq_some_iff.mp h
  exact ⟨x, rfl⟩

end Number

/-! ## Members in alphabetical order -/

namespace Document

variable {key : String} {v : Value} {ms us : List (String × Value)}

theorem mem_insertMember {m : String × Value} (h : m ∈ insertMember key v ms) :
    m = (key, v) ∨ m ∈ ms := by
  induction ms with
  | nil => exact .inl (List.mem_singleton.mp h)
  | cons u us ih =>
    rw [insertMember] at h
    split at h
    next =>
      rcases List.mem_cons.mp h with rfl | h
      · exact .inl rfl
      · exact .inr (List.mem_cons_of_mem _ h)
    split at h
    next => exact List.mem_cons.mp h
    next =>
      rcases List.mem_cons.mp h with rfl | h
      · exact .inr List.mem_cons_self
      · exact (ih h).imp_right fun h => List.mem_cons_of_mem _ h

/-- **A member put into its place leaves the members in order.** -/
theorem pairwise_insertMember (h : ms.Pairwise (·.1 < ·.1)) :
    (insertMember key v ms).Pairwise (·.1 < ·.1) := by
  induction ms with
  | nil => exact List.pairwise_singleton _ _
  | cons u us ih =>
    obtain ⟨hu, hus⟩ := List.pairwise_cons.mp h
    rw [insertMember]
    split
    next hk => exact List.pairwise_cons.mpr ⟨fun m hm => hk ▸ hu m hm, hus⟩
    split
    next hlt =>
      refine List.pairwise_cons.mpr ⟨fun m hm => ?_, h⟩
      rcases List.mem_cons.mp hm with rfl | hm
      · exact hlt
      · exact String.lt_trans hlt (hu m hm)
    next hne hlt =>
      refine List.pairwise_cons.mpr ⟨fun m hm => ?_, ih hus⟩
      rcases mem_insertMember hm with rfl | hm
      · exact Decidable.byContradiction fun h =>
          hne (String.le_antisymm (String.not_lt.mp h) (String.not_lt.mp hlt))
      · exact hu m hm

/-- A member with a new name is added to the members. -/
theorem perm_insertMember (h : key ∉ ms.map Prod.fst) : (insertMember key v ms).Perm ((key, v) :: ms) := by
  induction ms with
  | nil => exact .refl _
  | cons u us ih =>
    rw [List.map_cons, List.mem_cons, not_or] at h
    rw [insertMember, if_neg h.1]
    split
    · exact .refl _
    · exact ((ih h.2).cons u).trans (.swap _ _ _)

/-- Members put into their places one after the other. -/
def insertAll (us sorted : List (String × Value)) : List (String × Value) :=
  us.foldl (fun ms u => insertMember u.1 u.2 ms) sorted

theorem pairwise_insertAll (h : ms.Pairwise (·.1 < ·.1)) :
    (insertAll us ms).Pairwise (·.1 < ·.1) := by
  induction us generalizing ms with
  | nil => exact h
  | cons u us ih => exact ih (pairwise_insertMember h)

/-- Members with different names are all kept. -/
theorem perm_insertAll (h : ((us ++ ms).map Prod.fst).Nodup) : (insertAll us ms).Perm (us ++ ms) := by
  induction us generalizing ms with
  | nil => exact .refl _
  | cons u us ih =>
    rw [List.cons_append, List.map_cons, List.nodup_cons, List.map_append, List.mem_append, not_or] at h
    have hinsert := perm_insertMember (v := u.2) h.1.2
    have hperm : (us ++ insertMember u.1 u.2 ms).Perm (u :: (us ++ ms)) :=
      (hinsert.append_left us).trans List.perm_middle
    refine (ih ?_).trans hperm
    rw [(hperm.map _).nodup_iff, List.map_cons, List.nodup_cons, List.map_append, List.mem_append,
      not_or]
    exact h

/-- A member of a document with the free member that it is read as. -/
def ReadsAs (m : Option String × Document) (u : String × Value) : Prop :=
  m.1 = some u.1 ∧ m.2.toValue? = some u.2

theorem membersToValues?_eq_insertAll {ms : List (Option String × Document)}
    {us : List (String × Value)} (h : List.Forall₂ ReadsAs ms us) (sorted : List (String × Value)) :
    membersToValues? sorted ms = some (insertAll us sorted) := by
  induction h generalizing sorted with
  | nil => rfl
  | @cons m u ms us hm _ ih =>
    obtain ⟨key, d⟩ := m
    obtain ⟨rfl, hd⟩ := hm
    rw [membersToValues?, hd]
    exact ih _

end Document

/-! ## Free values -/

mutual

/-- **Whether a value is free:** members in alphabetical order, integers within 64 bits. -/
def Value.IsFree : Value → Prop
  | .number n => n.IsFree
  | .array items => itemsFree items
  | .object members => members.Pairwise (·.1 < ·.1) ∧ membersFree members
  | _ => True

/-- Whether all items are free. -/
def itemsFree : List Value → Prop
  | [] => True
  | v :: vs => v.IsFree ∧ itemsFree vs

/-- Whether the values of all members are free. -/
def membersFree : List (String × Value) → Prop
  | [] => True
  | (_, v) :: ms => v.IsFree ∧ membersFree ms

end

theorem itemsFree_iff {vs : List Value} : itemsFree vs ↔ ∀ v ∈ vs, v.IsFree := by
  induction vs with
  | nil => simp [itemsFree]
  | cons v vs ih => rw [itemsFree, ih, List.forall_mem_cons]

theorem membersFree_iff {ms : List (String × Value)} : membersFree ms ↔ ∀ m ∈ ms, m.2.IsFree := by
  induction ms with
  | nil => simp [membersFree]
  | cons m ms ih =>
    obtain ⟨k, v⟩ := m
    rw [membersFree, ih, List.forall_mem_cons]

namespace Document

mutual

/-- What a document is read as is free. -/
theorem isFree_of_toValue? : ∀ {d : Document} {v : Value}, d.toValue? = some v → v.IsFree
  | .null, _, h => by cases Option.some.inj h; trivial
  | .bool b, _, h => by cases Option.some.inj h; trivial
  | .string s, _, h => by cases Option.some.inj h; trivial
  | .number n, _, h => by
      obtain ⟨m, hm, rfl⟩ := Option.map_eq_some_iff.mp h
      exact Number.isFree_of_freeNumber? hm
  | .array items, _, h => by
      obtain ⟨vs, hvs, rfl⟩ := Option.map_eq_some_iff.mp h
      exact itemsFree_of_toValues? hvs
  | .object members, _, h => by
      obtain ⟨ms, hms, rfl⟩ := Option.map_eq_some_iff.mp h
      have := membersFree_of_toValues? hms List.Pairwise.nil trivial
      exact this
  | .unreadable, _, h => by cases h
  | .cut, _, h => by cases h

theorem itemsFree_of_toValues? : ∀ {ds : List Document} {vs : List Value},
    itemsToValues? ds = some vs → itemsFree vs
  | [], _, h => by cases Option.some.inj h; trivial
  | d :: ds, vs, h => by
      rw [itemsToValues?] at h
      split at h
      next v vs' hv hvs' =>
        cases Option.some.inj h
        exact ⟨isFree_of_toValue? hv, itemsFree_of_toValues? hvs'⟩
      next => cases h

theorem membersFree_of_toValues? : ∀ {ds : List (Option String × Document)}
    {sorted ms : List (String × Value)}, membersToValues? sorted ds = some ms →
    sorted.Pairwise (·.1 < ·.1) → membersFree sorted → ms.Pairwise (·.1 < ·.1) ∧ membersFree ms
  | [], sorted, ms, h, hsorted, hfree => by
      cases Option.some.inj h
      exact ⟨hsorted, hfree⟩
  | (none, d) :: ds, sorted, ms, h, _, _ => by cases h
  | (some key, d) :: ds, sorted, ms, h, hsorted, hfree => by
      rw [membersToValues?] at h
      split at h
      next v hv =>
        refine membersFree_of_toValues? h (pairwise_insertMember hsorted) (membersFree_iff.mpr ?_)
        intro m hm
        rcases mem_insertMember hm with rfl | hm
        · exact isFree_of_toValue? hv
        · exact membersFree_iff.mp hfree m hm
      next => cases h

end

end Document

/-! ## Spelling a value -/

mutual

/-- **A document spells a value:** it is the value, with the members of objects in any order. -/
inductive Spells : Document → Value → Prop
  | null : Spells .null .null
  | bool (b : Bool) : Spells (.bool b) (.bool b)
  | number (n : Number) : Spells (.number n) (.number n)
  | string (s : String) : Spells (.string s) (.string s)
  | array {ds : List Document} {vs : List Value} (items : SpellsItems ds vs) :
    Spells (.array ds) (.array vs)
  | object {ms' ms : List (Option String × Document)} {us : List (String × Value)}
    (order : ms'.Perm ms) (members : SpellsMembers ms us) : Spells (.object ms') (.object us)

/-- Documents spell items, each its own. -/
inductive SpellsItems : List Document → List Value → Prop
  | nil : SpellsItems [] []
  | cons {d : Document} {v : Value} {ds : List Document} {vs : List Value} (head : Spells d v)
    (tail : SpellsItems ds vs) : SpellsItems (d :: ds) (v :: vs)

/-- Members of a document spell members, each its own. -/
inductive SpellsMembers : List (Option String × Document) → List (String × Value) → Prop
  | nil : SpellsMembers [] []
  | cons {k : String} {d : Document} {v : Value} {ms : List (Option String × Document)}
    {us : List (String × Value)} (head : Spells d v) (tail : SpellsMembers ms us) :
    SpellsMembers ((some k, d) :: ms) ((k, v) :: us)

end

mutual

/-- The document of a value spells it. -/
theorem spells_ofValue : ∀ v : Value, Spells (.ofValue v) v
  | .null => .null
  | .bool b => .bool b
  | .number n => .number n
  | .string s => .string s
  | .array items => .array (spellsItems_ofItems items)
  | .object members => .object (.refl _) (spellsMembers_ofMembers members)

theorem spellsItems_ofItems : ∀ vs : List Value, SpellsItems (Document.ofItems vs) vs
  | [] => .nil
  | v :: vs => .cons (spells_ofValue v) (spellsItems_ofItems vs)

theorem spellsMembers_ofMembers : ∀ ms : List (String × Value),
    SpellsMembers (Document.ofMembers ms) ms
  | [] => .nil
  | (_, v) :: ms => .cons (spells_ofValue v) (spellsMembers_ofMembers ms)

end

namespace Spells

/-- Members in alphabetical order are told from any order of them. -/
theorem insertAll_eq {us us' : List (String × Value)} (h : us.Pairwise (·.1 < ·.1))
    (hperm : us'.Perm us) : Document.insertAll us' [] = us := by
  have hnodup : ((us' ++ []).map Prod.fst).Nodup := by
    rw [List.append_nil, (hperm.map _).nodup_iff, List.Nodup, List.pairwise_map]
    exact h.imp fun hlt => String.ne_of_lt hlt
  have hall : (Document.insertAll us' []).Perm us := by
    simpa using (Document.perm_insertAll hnodup).trans ((List.append_nil us').symm ▸ hperm)
  refine hall.eq_of_pairwise (fun a b _ _ hab hba => ?_) (Document.pairwise_insertAll .nil) h
  exact absurd hba (String.lt_asymm hab)

mutual

/-- **A document that spells a free value is read as it.** -/
theorem toValue? : ∀ {d : Document} {v : Value}, Spells d v → v.IsFree → d.toValue? = some v
  | _, _, .null, _ => rfl
  | _, _, .bool _, _ => rfl
  | _, _, .string _, _ => rfl
  | _, _, .number n, h => by
      rw [Document.toValue?, Number.freeNumber?_of_isFree h]
      rfl
  | _, _, .array items, h => by
      rw [Document.toValue?, toValues? items h]
      rfl
  | _, _, .object order members, h => by
      obtain ⟨us', hread, hperm⟩ := List.perm_comp_forall₂ order (readsAs members h.2)
      rw [Document.toValue?, Document.membersToValues?_eq_insertAll hread, insertAll_eq h.1 hperm]
      rfl

theorem toValues? : ∀ {ds : List Document} {vs : List Value}, SpellsItems ds vs → itemsFree vs →
    Document.itemsToValues? ds = some vs
  | _, _, .nil, _ => rfl
  | _, _, .cons head tail, h => by
      rw [Document.itemsToValues?, toValue? head h.1, toValues? tail h.2]

theorem readsAs : ∀ {ms : List (Option String × Document)} {us : List (String × Value)},
    SpellsMembers ms us → membersFree us → List.Forall₂ Document.ReadsAs ms us
  | _, _, .nil, _ => .nil
  | _, _, .cons head tail, h => .cons ⟨rfl, toValue? head h.1⟩ (readsAs tail h.2)

end

end Spells

namespace Value

/-- **The free values are the ones that documents are read as.** -/
theorem isFree_iff {v : Value} : v.IsFree ↔ ∃ d : Document, d.toValue? = some v :=
  ⟨fun h => ⟨_, (spells_ofValue v).toValue? h⟩, fun ⟨_, h⟩ => Document.isFree_of_toValue? h⟩

/-! ## Values that come through

`v.Fits bits room` says what a value must be like to come through a text: at most `room` arrays and
objects stand inside each other, there is no double, integers have at most `bits` bits, and no object
has a name twice. -/

/-- Whether a value comes through. -/
def Fits (bits : Nat) : (room : Nat) → Value → Prop
  | _, .number n => n.Within bits
  | room + 1, .array items => ∀ v ∈ items, v.Fits bits room
  | room + 1, .object members =>
    (members.map Prod.fst).Nodup ∧ ∀ m ∈ members, m.2.Fits bits room
  | 0, .array _ => False
  | 0, .object _ => False
  | _, _ => True

namespace Fits

variable {bits bits' : Nat}

theorem number_iff {room : Nat} {n : Number} : (Value.number n).Fits bits room ↔ n.Within bits := by
  cases room <;> rfl

theorem mono (hbits : bits ≤ bits') : ∀ {room room' : Nat} {v : Value}, room ≤ room' →
    v.Fits bits room → v.Fits bits' room'
  | _, room', .null, _, _ | _, room', .bool _, _, _ | _, room', .string _, _, _ => by
      cases room' <;> trivial
  | _, _, .number n, _, h => number_iff.mpr ((number_iff.mp h).mono hbits)
  | 0, _, .array _, _, h | 0, _, .object _, _, h => h.elim
  | room + 1, 0, _, hroom, _ => absurd hroom (Nat.not_succ_le_zero room)
  | room + 1, room' + 1, .array items, hroom, h => fun v hv =>
      mono hbits (Nat.le_of_succ_le_succ hroom) (h v hv)
  | room + 1, room' + 1, .object members, hroom, h => ⟨h.1, fun m hm =>
      mono hbits (Nat.le_of_succ_le_succ hroom) (h.2 m hm)⟩

/-! ### No doubles -/

theorem anyDouble_eq_false_iff {vs : List Value} :
    anyDouble vs = false ↔ ∀ v ∈ vs, v.hasDouble = false := by
  induction vs with
  | nil => simp [anyDouble]
  | cons v vs ih => rw [anyDouble, Bool.or_eq_false_iff, ih, List.forall_mem_cons]

theorem anyDoubleMember_eq_false_iff {ms : List (String × Value)} :
    anyDoubleMember ms = false ↔ ∀ m ∈ ms, m.2.hasDouble = false := by
  induction ms with
  | nil => simp [anyDoubleMember]
  | cons m ms ih => rw [anyDoubleMember, Bool.or_eq_false_iff, ih, List.forall_mem_cons]

theorem hasDouble : ∀ {room : Nat} {v : Value}, v.Fits bits room → v.hasDouble = false
  | _, .null, _ | _, .bool _, _ | _, .string _, _ | _, .number (.int _), _ => rfl
  | _, .number (.float _), h => (number_iff.mp h).elim
  | 0, .array _, h | 0, .object _, h => h.elim
  | _ + 1, .array _, h => anyDouble_eq_false_iff.mpr fun v hv => hasDouble (h v hv)
  | _ + 1, .object _, h => anyDoubleMember_eq_false_iff.mpr fun m hm => hasDouble (h.2 m hm)

/-! ### Depth -/

theorem itemsDepth_le_iff {vs : List Value} {room : Nat} :
    itemsDepth vs ≤ room ↔ ∀ v ∈ vs, v.depth ≤ room := by
  induction vs with
  | nil => simp [itemsDepth]
  | cons v vs ih => rw [itemsDepth, Nat.max_le, ih, List.forall_mem_cons]

theorem membersDepth_le_iff {ms : List (String × Value)} {room : Nat} :
    membersDepth ms ≤ room ↔ ∀ m ∈ ms, m.2.depth ≤ room := by
  induction ms with
  | nil => simp [membersDepth]
  | cons m ms ih => rw [membersDepth, Nat.max_le, ih, List.forall_mem_cons]

theorem depth_le : ∀ {room : Nat} {v : Value}, v.Fits bits room → v.depth ≤ room
  | _, .null, _ | _, .bool _, _ | _, .string _, _ | _, .number _, _ => Nat.zero_le _
  | 0, .array _, h | 0, .object _, h => h.elim
  | _ + 1, .array _, h => Nat.succ_le_succ (itemsDepth_le_iff.mpr fun v hv => depth_le (h v hv))
  | _ + 1, .object _, h =>
      Nat.succ_le_succ (membersDepth_le_iff.mpr fun m hm => depth_le (h.2 m hm))

/-! ### The way through a free value -/

/-- The free forms of items spell them. -/
theorem exists_freeItems {vs : List Value}
    (h : ∀ v ∈ vs, ∃ w, v.free? = some w ∧ Spells (.ofValue w) v) :
    ∃ ws, Document.itemsToValues? (Document.ofItems vs) = some ws
      ∧ SpellsItems (Document.ofItems ws) vs := by
  induction vs with
  | nil => exact ⟨[], rfl, .nil⟩
  | cons v vs ih =>
    rw [List.forall_mem_cons] at h
    obtain ⟨⟨w, hw, hspells⟩, hvs⟩ := h
    obtain ⟨ws, hws, hspellsAll⟩ := ih hvs
    rw [free?] at hw
    refine ⟨w :: ws, ?_, .cons hspells hspellsAll⟩
    rw [Document.ofItems, Document.itemsToValues?, hw, hws]

/-- The free forms of members spell them. -/
theorem exists_freeMembers {ms : List (String × Value)}
    (h : ∀ m ∈ ms, ∃ w, m.2.free? = some w ∧ Spells (.ofValue w) m.2) :
    ∃ us, List.Forall₂ Document.ReadsAs (Document.ofMembers ms) us
      ∧ SpellsMembers (Document.ofMembers us) ms ∧ us.map Prod.fst = ms.map Prod.fst := by
  induction ms with
  | nil => exact ⟨[], .nil, .nil, rfl⟩
  | cons m ms ih =>
    rw [List.forall_mem_cons] at h
    obtain ⟨⟨w, hw, hspells⟩, hms⟩ := h
    obtain ⟨us, hread, hspellsAll, hnames⟩ := ih hms
    refine ⟨(m.1, w) :: us, .cons ⟨rfl, hw⟩ hread, .cons hspells hspellsAll, ?_⟩
    rw [List.map_cons, List.map_cons, hnames]

theorem ofMembers_eq_map (ms : List (String × Value)) :
    Document.ofMembers ms = ms.map fun m => (some m.1, Document.ofValue m.2) := by
  induction ms with
  | nil => rfl
  | cons m ms ih => rw [Document.ofMembers, ih, List.map_cons]

/-- **What comes through has a free form, and the free form spells it.** -/
theorem exists_free : ∀ {room : Nat} {v : Value}, v.Fits 64 room →
    ∃ w, v.free? = some w ∧ Spells (.ofValue w) v
  | _, .null, _ => ⟨_, rfl, .null⟩
  | _, .bool b, _ => ⟨_, rfl, .bool b⟩
  | _, .string s, _ => ⟨_, rfl, .string s⟩
  | _, .number n, h => by
      have hn := Number.freeNumber?_of_isFree (number_iff.mp h).isFree
      refine ⟨.number n, ?_, .number n⟩
      rw [free?, Document.ofValue, Document.toValue?, hn, Option.map_some]
  | 0, .array _, h | 0, .object _, h => h.elim
  | room + 1, .array items, h => by
      obtain ⟨ws, hws, hspells⟩ := exists_freeItems fun v hv => exists_free (h v hv)
      refine ⟨.array ws, ?_, .array hspells⟩
      rw [free?, Document.ofValue, Document.toValue?, hws, Option.map_some]
  | room + 1, .object members, h => by
      obtain ⟨us, hread, hspells, hnames⟩ := exists_freeMembers fun m hm => exists_free (h.2 m hm)
      have hperm : (Document.insertAll us []).Perm us := by
        have hnodup : ((us ++ []).map Prod.fst).Nodup := by
          rw [List.append_nil, hnames]
          exact h.1
        have hall := Document.perm_insertAll hnodup
        rwa [List.append_nil] at hall
      refine ⟨.object (Document.insertAll us []), ?_, .object ?_ hspells⟩
      · rw [free?, Document.ofValue, Document.toValue?,
          Document.membersToValues?_eq_insertAll hread, Option.map_some]
      · rw [ofMembers_eq_map, ofMembers_eq_map]
        exact hperm.map _

/-- A free value without doubles comes through if it is not too deep. -/
theorem of_isFree : ∀ {room : Nat} {v : Value}, v.IsFree → v.hasDouble = false → v.depth ≤ room →
    v.Fits 64 room
  | room, .null, _, _, _ | room, .bool _, _, _, _ | room, .string _, _, _, _ => by
      cases room <;> trivial
  | _, .number (.int z), hfree, _, _ => number_iff.mpr hfree
  | _, .number (.float x), _, hdouble, _ => by simp [Value.hasDouble] at hdouble
  | 0, .array items, _, _, hdepth => by simp [depth] at hdepth
  | 0, .object members, _, _, hdepth => by simp [depth] at hdepth
  | room + 1, .array items, hfree, hdouble, hdepth => by
      rw [Value.hasDouble, anyDouble_eq_false_iff] at hdouble
      rw [depth, Nat.add_le_add_iff_right, itemsDepth_le_iff] at hdepth
      intro v hv
      exact of_isFree (itemsFree_iff.mp hfree v hv) (hdouble v hv) (hdepth v hv)
  | room + 1, .object members, hfree, hdouble, hdepth => by
      rw [Value.hasDouble, anyDoubleMember_eq_false_iff] at hdouble
      rw [depth, Nat.add_le_add_iff_right, membersDepth_le_iff] at hdepth
      obtain ⟨horder, hfree⟩ := hfree
      refine ⟨?_, fun m hm =>
        of_isFree (membersFree_iff.mp hfree m hm) (hdouble m hm) (hdepth m hm)⟩
      rw [List.Nodup, List.pairwise_map]
      exact horder.imp fun h => String.ne_of_lt h

end Fits

end Value

end OrderDesk.Json
