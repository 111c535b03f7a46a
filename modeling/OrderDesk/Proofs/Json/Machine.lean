import OrderDesk.Json.Document
import OrderDesk.Proofs.Json.Grammar

/-!
# Proofs/Json/Machine — the machine reads phrases, and nothing else

    p.lexemes ──run──▸ p.within 127

The machine comes back from the lexemes of a phrase with its document, except for the parts that
stand too deep: these it passes over (`run_lexemes`).  Conversely what it awaits, and what is open, say
how the lexemes must go on (`Owes`).  Every step passes the demand on (`owes_step`), so a run that does
not fail has met it, and the lexemes are those of a phrase (`exists_lexemes_eq`).
-/

namespace OrderDesk.Json

/-! ## Documents of phrases -/

namespace Phrase

mutual

/-- A phrase as a document, where no array or object is read that has no room: each takes one place
and leaves the others to what stands inside it. -/
def within : Phrase → Nat → Document
  | .null, _ => .null
  | .bool b, _ => .bool b
  | .number l, _ => Document.ofLiteral l
  | .string (some s), _ => .string s
  | .string none, _ => .unreadable
  | .array _, 0 => .unreadable
  | .array items, room + 1 => .array (itemsWithin items room)
  | .object _, 0 => .unreadable
  | .object members, room + 1 => .object (membersWithin members room)

/-- Items as documents. -/
def itemsWithin : List Phrase → Nat → List Document
  | [], _ => []
  | p :: ps, room => p.within room :: itemsWithin ps room

/-- Members as documents. -/
def membersWithin : List (Option String × Phrase) → Nat → List (Option String × Document)
  | [], _ => []
  | (k, p) :: ms, room => (k, p.within room) :: membersWithin ms room

end

end Phrase

namespace Document

/-- What is closed can be read if there is room for it. -/
theorem closed_eq (d : Document) (stack : List Frame) :
    closed d stack = if stack.length < maxDepth then d else .unreadable := by
  have h : (stack.drop (maxDepth - 1)).isEmpty = true ↔ stack.length < maxDepth := by
    rw [List.isEmpty_iff, List.drop_eq_nil_iff, maxDepth]
    omega
  simp only [closed, h]

theorem closed_items (items : List Phrase) (stack : List Frame) :
    closed (.array (Phrase.itemsWithin items (maxDepth - (stack.length + 1)))) stack
      = (Phrase.array items).within (maxDepth - stack.length) := by
  rw [closed_eq]
  split
  next h =>
    rw [show maxDepth - stack.length = maxDepth - (stack.length + 1) + 1 by omega, Phrase.within]
  next h => rw [show maxDepth - stack.length = 0 by omega, Phrase.within]

theorem closed_members (members : List (Option String × Phrase)) (stack : List Frame) :
    closed (.object (Phrase.membersWithin members (maxDepth - (stack.length + 1)))) stack
      = (Phrase.object members).within (maxDepth - stack.length) := by
  rw [closed_eq]
  split
  next h =>
    rw [show maxDepth - stack.length = maxDepth - (stack.length + 1) + 1 by omega, Phrase.within]
  next h => rw [show maxDepth - stack.length = 0 by omega, Phrase.within]

/-! ## Phrases are read -/

/-- A phrase begins with a lexeme that does not end an array. -/
theorem exists_lexemes_eq_cons (p : Phrase) :
    ∃ t ts, p.lexemes = t :: ts ∧ t ≠ .closeBracket := by
  cases p with
  | null | bool | number | string => simp [Phrase.lexemes]
  | array items => cases items <;> simp [Phrase.lexemes]
  | object members => cases members <;> simp [Phrase.lexemes]

/-- The first item of an array is awaited as every other. -/
theorem run_firstItem (p : Phrase) (ts : List Token) (stack : List Frame) :
    run (p.lexemes ++ ts) .firstItem stack = run (p.lexemes ++ ts) .value (.array [] :: stack) := by
  obtain ⟨t, ts', hts, ht⟩ := exists_lexemes_eq_cons p
  have hstep : step t .firstItem stack = step t .value (.array [] :: stack) := by
    simp only [step, if_neg ht]
  rw [hts, List.cons_append, run, run, hstep]

mutual

/-- **The machine comes back from the lexemes of a phrase with its document.** -/
theorem run_lexemes : ∀ (p : Phrase) (ts : List Token) (stack : List Frame),
    run (p.lexemes ++ ts) .value stack
      = run ts (.separator (p.within (maxDepth - stack.length))) stack
  | .null, ts, stack | .bool _, ts, stack | .number _, ts, stack | .string none, ts, stack
  | .string (some _), ts, stack => by
      rw [Phrase.lexemes, Phrase.within]
      rfl
  | .array [], ts, stack => by
      rw [Phrase.lexemes, ← closed_items, Phrase.itemsWithin]
      rfl
  | .array (p :: ps), ts, stack => by
      have hp := run_lexemes p (Phrase.itemLexemes ps ++ .closeBracket :: ts) (.array [] :: stack)
      have hps := run_itemLexemes ps ts [] (p.within (maxDepth - (stack.length + 1))) stack
      simp only [Phrase.lexemes, List.cons_append, List.append_assoc, List.nil_append]
      rw [run]
      change run _ .firstItem stack = _
      rw [run_firstItem, hp, List.length_cons, hps, ← closed_items, Phrase.itemsWithin]
      rfl
  | .object [], ts, stack => by
      rw [Phrase.lexemes, ← closed_members, Phrase.membersWithin]
      rfl
  | .object ((k, p) :: ms), ts, stack => by
      have hp := run_lexemes p (Phrase.memberLexemes ms ++ .closeBrace :: ts) (.object [] k :: stack)
      have hms := run_memberLexemes ms ts [] k (p.within (maxDepth - (stack.length + 1))) stack
      simp only [Phrase.lexemes, List.cons_append, List.append_assoc, List.nil_append]
      rw [run]
      change run _ .value (.object [] k :: stack) = _
      rw [hp, List.length_cons, hms, ← closed_members, Phrase.membersWithin]
      rfl

theorem run_itemLexemes : ∀ (ps : List Phrase) (ts : List Token) (items : List Document)
    (d : Document) (stack : List Frame),
    run (Phrase.itemLexemes ps ++ .closeBracket :: ts) (.separator d) (.array items :: stack)
      = run ts (.separator (closed (.array ((d :: items).reverse
          ++ Phrase.itemsWithin ps (maxDepth - (stack.length + 1)))) stack)) stack
  | [], ts, items, d, stack => by
      rw [Phrase.itemLexemes, Phrase.itemsWithin, List.append_nil]
      rfl
  | p :: ps, ts, items, d, stack => by
      have hp := run_lexemes p (Phrase.itemLexemes ps ++ .closeBracket :: ts)
        (.array (d :: items) :: stack)
      have hps := run_itemLexemes ps ts (d :: items) (p.within (maxDepth - (stack.length + 1))) stack
      simp only [Phrase.itemLexemes, List.cons_append, List.append_assoc]
      rw [run]
      change run _ .value (.array (d :: items) :: stack) = _
      rw [hp, List.length_cons, hps, Phrase.itemsWithin, List.reverse_cons, List.append_assoc,
        List.singleton_append]

theorem run_memberLexemes : ∀ (ms : List (Option String × Phrase)) (ts : List Token)
    (members : List (Option String × Document)) (key : Option String) (d : Document)
    (stack : List Frame),
    run (Phrase.memberLexemes ms ++ .closeBrace :: ts) (.separator d) (.object members key :: stack)
      = run ts (.separator (closed (.object (((key, d) :: members).reverse
          ++ Phrase.membersWithin ms (maxDepth - (stack.length + 1)))) stack)) stack
  | [], ts, members, key, d, stack => by
      rw [Phrase.memberLexemes, Phrase.membersWithin, List.append_nil]
      rfl
  | (k, p) :: ms, ts, members, key, d, stack => by
      have hp := run_lexemes p (Phrase.memberLexemes ms ++ .closeBrace :: ts)
        (.object ((key, d) :: members) k :: stack)
      have hms := run_memberLexemes ms ts ((key, d) :: members) k
        (p.within (maxDepth - (stack.length + 1))) stack
      simp only [Phrase.memberLexemes, List.cons_append, List.append_assoc]
      rw [run]
      change run _ .value (.object ((key, d) :: members) k :: stack) = _
      rw [hp, List.length_cons, hms, Phrase.membersWithin, List.reverse_cons, List.append_assoc,
        List.singleton_append]

end

/-- **The lexemes of a phrase are read as its document.** -/
theorem ofTokens_lexemes (p : Phrase) : ofTokens p.lexemes = ⟨p.within maxDepth, true⟩ := by
  have hrun := run_lexemes p [] []
  rw [List.append_nil] at hrun
  rw [ofTokens, hrun]
  rfl

/-! ## A failed run has no value -/

/-- A part that is no free value makes an array none. -/
theorem itemsToValues?_cons_eq_none {d : Document} {ds : List Document}
    (h : d.toValue? = none ∨ itemsToValues? ds = none) : itemsToValues? (d :: ds) = none := by
  rw [itemsToValues?]
  split
  next hd hds => rcases h with h | h <;> simp_all
  next => rfl

/-- A part that is no free value makes an object none. -/
theorem membersToValues?_cons_eq_none {sorted : List (String × Value)} {k : String} {d : Document}
    {ms : List (Option String × Document)}
    (h : d.toValue? = none ∨ ∀ sorted, membersToValues? sorted ms = none) :
    membersToValues? sorted ((some k, d) :: ms) = none := by
  rw [membersToValues?]
  split
  next hd => rcases h with h | h <;> simp_all
  next => rfl

theorem itemsToValues?_eq_none {d : Document} {ds : List Document} (hd : d.toValue? = none)
    (h : d ∈ ds) : itemsToValues? ds = none := by
  induction ds with
  | nil => cases h
  | cons e ds ih =>
    refine itemsToValues?_cons_eq_none ?_
    rcases List.mem_cons.mp h with rfl | h
    · exact .inl hd
    · exact .inr (ih h)

theorem membersToValues?_eq_none {m : Option String × Document}
    {ms : List (Option String × Document)} {sorted : List (String × Value)}
    (hm : m.2.toValue? = none) (h : m ∈ ms) : membersToValues? sorted ms = none := by
  induction ms generalizing sorted with
  | nil => cases h
  | cons u ms ih =>
    obtain ⟨key, d⟩ := u
    cases key with
    | none => rfl
    | some k =>
      refine membersToValues?_cons_eq_none ?_
      rcases List.mem_cons.mp h with rfl | h
      · exact .inl hm
      · exact .inr fun _ => ih h

theorem toValue?_cutOff (stack : List Frame) : (cutOff stack).toValue? = none := by
  unfold cutOff
  generalize hcut : Document.cut = inner
  have hinner : inner.toValue? = none := by rw [← hcut, toValue?]
  clear hcut
  induction stack generalizing inner with
  | nil => exact hinner
  | cons frame stack ih =>
    rw [List.foldl_cons]
    refine ih _ ?_
    cases frame with
    | array items =>
      have : itemsToValues? (inner :: items).reverse = none :=
        itemsToValues?_eq_none hinner (by simp)
      simp only [toValue?, this, Option.map_none]
    | object members key =>
      have : membersToValues? [] ((key, inner) :: members).reverse = none :=
        membersToValues?_eq_none (m := (key, inner)) hinner (by simp)
      simp only [toValue?, this, Option.map_none]

/-! ## What a run demands of its lexemes -/

/-- **The demand of what is open:** each array goes on with items up to its end, and each object with
members; behind the last end there is nothing. -/
def Closes : List Frame → List Token → Prop
  | [], ts => ts = []
  | .array _ :: stack, ts =>
    ∃ ps rest, ts = Phrase.itemLexemes ps ++ .closeBracket :: rest ∧ Closes stack rest
  | .object _ _ :: stack, ts =>
    ∃ ms rest, ts = Phrase.memberLexemes ms ++ .closeBrace :: rest ∧ Closes stack rest

/-- **The demand of what is awaited,** with what is open around it. -/
def Owes : Awaiting → List Frame → List Token → Prop
  | .value, stack, ts => ∃ p rest, ts = Phrase.lexemes p ++ rest ∧ Closes stack rest
  | .firstItem, stack, ts =>
    ∃ ps rest, .openBracket :: ts = (Phrase.array ps).lexemes ++ rest ∧ Closes stack rest
  | .firstKey, stack, ts =>
    ∃ ms rest, .openBrace :: ts = (Phrase.object ms).lexemes ++ rest ∧ Closes stack rest
  | .key members, stack, ts => Closes (.object members none :: stack) (.comma :: ts)
  | .colon members key, stack, ts =>
    Closes (.object members none :: stack) (.comma :: .string key :: ts)
  | .separator _, stack, ts => Closes stack ts

variable {t : Token} {ts : List Token} {awaiting awaiting' : Awaiting} {stack stack' : List Frame}

/-- A lexeme that is a document is a phrase. -/
theorem exists_lexemes_eq_singleton {d : Document} (h : ofToken? t = some d) :
    ∃ p : Phrase, p.lexemes = [t] := by
  cases t with
  | null => exact ⟨.null, rfl⟩
  | bool b => exact ⟨.bool b, rfl⟩
  | number l => exact ⟨.number l, rfl⟩
  | string s => exact ⟨.string s, rfl⟩
  | _ => cases h

/-- The lexeme with which a value begins meets the demand of a value. -/
theorem owes_begin (h : Step.begin t stack = .next awaiting' stack')
    (howes : Owes awaiting' stack' ts) : Owes .value stack (t :: ts) := by
  unfold Step.begin at h
  split at h
  · cases h
    obtain ⟨ps, rest, heq, hrest⟩ := howes
    exact ⟨.array ps, rest, heq, hrest⟩
  · cases h
    obtain ⟨ms, rest, heq, hrest⟩ := howes
    exact ⟨.object ms, rest, heq, hrest⟩
  · split at h
    · next d hd =>
      cases h
      obtain ⟨p, hp⟩ := exists_lexemes_eq_singleton hd
      exact ⟨p, ts, by rw [hp, List.singleton_append], howes⟩
    · cases h

/-- **A step passes the demand on:** what it leaves of it, together with its lexeme, is what it was. -/
theorem owes_step (h : step t awaiting stack = .next awaiting' stack')
    (howes : Owes awaiting' stack' ts) : Owes awaiting stack (t :: ts) := by
  cases awaiting with
  | value => exact owes_begin h howes
  | firstItem =>
    simp only [step] at h
    split at h
    next ht =>
      cases h
      exact ⟨[], ts, by rw [ht]; rfl, howes⟩
    next =>
      obtain ⟨p, _, hts, ps, rest, rfl, hrest⟩ := owes_begin h howes
      exact ⟨p :: ps, rest, by simp [hts, Phrase.lexemes], hrest⟩
  | firstKey =>
    simp only [step] at h
    split at h
    · cases h
      exact ⟨[], ts, rfl, howes⟩
    · next key =>
      cases h
      obtain ⟨ms, rest, heq, hrest⟩ := howes
      cases ms with
      | nil => cases heq
      | cons m ms =>
        simp only [Phrase.memberLexemes, List.cons_append, List.cons.injEq] at heq
        obtain ⟨-, hkey, hts⟩ := heq
        exact ⟨m :: ms, rest, by simp [hkey, hts, Phrase.lexemes], hrest⟩
    · cases h
  | key members =>
    simp only [step] at h
    split at h
    · cases h
      exact howes
    · cases h
  | colon members key =>
    simp only [step] at h
    split at h
    · cases h
      obtain ⟨p, _, rfl, ms, rest, rfl, hrest⟩ := howes
      exact ⟨(key, p) :: ms, rest, by simp [Phrase.memberLexemes], hrest⟩
    · cases h
  | separator d =>
    cases stack with
    | nil => cases h
    | cons frame stack =>
      cases frame with
      | array items =>
        simp only [step] at h
        split at h
        · cases h
          obtain ⟨p, _, rfl, ps, rest, rfl, hrest⟩ := howes
          exact ⟨p :: ps, rest, by simp [Phrase.itemLexemes], hrest⟩
        · cases h
          exact ⟨[], ts, rfl, howes⟩
        · cases h
      | object members key =>
        simp only [step] at h
        split at h
        · cases h
          exact howes
        · cases h
          exact ⟨[], ts, rfl, howes⟩
        · cases h

/-- A step that ends the reading has failed, or something follows the document. -/
theorem toValue?_of_stop {r : Reading} (h : step t awaiting stack = .stop r) :
    r.complete = false ∨ r.document.toValue? = none := by
  have begin : ∀ {stack : List Frame}, Step.begin t stack = .stop r → r.document.toValue? = none := by
    intro stack h
    unfold Step.begin at h
    split at h
    · cases h
    · cases h
    · split at h
      · cases h
      · cases h
        exact toValue?_cutOff stack
  cases awaiting with
  | value => exact .inr (begin h)
  | firstItem =>
    simp only [step] at h
    split at h
    · cases h
    · exact .inr (begin h)
  | firstKey | key | colon =>
    simp only [step] at h
    split at h <;> cases h
    exact .inr (toValue?_cutOff _)
  | separator d =>
    cases stack with
    | nil =>
      cases h
      exact .inl rfl
    | cons frame stack =>
      cases frame with
      | array | object =>
        simp only [step] at h
        split at h <;> cases h
        exact .inr (toValue?_cutOff _)

/-- **What is read whole meets the demand.** -/
theorem owes_of_run {v : Value} (hcomplete : (run ts awaiting stack).complete = true)
    (hvalue : (run ts awaiting stack).document.toValue? = some v) : Owes awaiting stack ts := by
  induction ts generalizing awaiting stack with
  | nil =>
    rw [run] at hvalue
    cases awaiting with
    | separator d =>
      cases stack with
      | nil => rfl
      | cons frame stack => cases frame <;> cases (toValue?_cutOff _).symm.trans hvalue
    | _ => cases (toValue?_cutOff _).symm.trans hvalue
  | cons t ts ih =>
    rw [run] at hcomplete hvalue
    cases hstep : step t awaiting stack with
    | next awaiting' stack' =>
      rw [hstep] at hcomplete hvalue
      exact owes_step hstep (ih hcomplete hvalue)
    | stop r =>
      rw [hstep] at hcomplete hvalue
      rcases toValue?_of_stop hstep with h | h
      · cases h.symm.trans hcomplete
      · cases h.symm.trans hvalue

/-- **Lexemes that are read whole are those of a phrase.** -/
theorem exists_lexemes_eq {v : Value} (hcomplete : (ofTokens ts).complete = true)
    (hvalue : (ofTokens ts).document.toValue? = some v) : ∃ p : Phrase, ts = p.lexemes := by
  obtain ⟨p, rest, rfl, rfl⟩ := owes_of_run hcomplete hvalue
  exact ⟨p, List.append_nil _⟩

end Document

end OrderDesk.Json
