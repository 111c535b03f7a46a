import OrderDesk.Proofs.Identifier.Forms

/-!
# Proofs/Identifier/Readings — one value, read as an asset and as an address on a chain

                 text     `Index`            `Address`     `address` and `chain`
    asset        same     an index           same          refused
    address      same     passed over        same          read

A text is read alike by both readings: what has an `@` is no numeral (`parse_eq_address_iff`).  An
object is read alike if it has an `Address` and no `Index`.  Beyond these the two part: an `Index`
comes before an `Address` for the one and is nothing to the other, and the bare lists of an address
are an address and no asset (`ofValue_eq_address_iff`).
-/

namespace OrderDesk

open Json (Value)

variable {v inner : Value} {a : ChainAddress} {n : UInt64} {s : String}

/-- An address on a chain has an `@` in its text. -/
theorem ChainAddress.at_mem_of_parse (h : parse s = .ok a) : '@' ∈ s.toList := by
  obtain ⟨front, back, htext, -⟩ := parse_eq_ok_iff.mp h
  rw [htext]
  exact List.mem_append_right _ List.mem_cons_self

namespace Asset

/-! ## Texts and numbers -/

/-- **A text is read alike.** -/
theorem parse_eq_address_iff : parse s = .ok (.address a) ↔ ChainAddress.parse s = .ok a := by
  by_cases hat : '@' ∈ s.toList
  · rw [parse_of_at hat]
    cases ChainAddress.parse s <;> simp [Except.map]
  · refine iff_of_false (fun h => ?_) fun h => hat (ChainAddress.at_mem_of_parse h)
    have hcontains : ¬ s.toList.contains '@' = true := fun h => hat (List.contains_iff_mem.mp h)
    simp only [parse, if_neg hcontains] at h
    split at h <;> split at h <;> cases h

theorem ofNumber_ne_address (m : Json.Number) : ofNumber m ≠ .ok (.address a) := by
  intro h
  rw [ofNumber.eq_def] at h
  split at h
  · split at h <;> cases h
  · cases h

/-! ## Objects -/

/-- Under `Index` stands no address… -/
theorem ofIndexMember_ne_address (inner : Value) : ofIndexMember inner ≠ .ok (.address a) := by
  intro h
  simp only [ofIndexMember] at h
  split at h
  · cases h
  · next hother => exact hother a h

/-- …but the index that a number or a text is. -/
theorem ofIndexMember_eq_index_iff : ofIndexMember inner = .ok (.index n)
    ↔ ((∃ m, inner = .number m) ∨ ∃ s, inner = .string s) ∧ ofValue inner = .ok (.index n) := by
  cases inner with
  | number m =>
    have hread : ofValue (.number m) = ofNumber m := rfl
    simp only [hread, ofIndexMember]
    split
    · next b hb => simp [hb]
    · simp
  | string s =>
    have hread : ofValue (.string s) = parse s := rfl
    simp only [hread, ofIndexMember]
    split
    · next b hb => simp [hb]
    · simp
  | _ => exact iff_of_false (fun h => by cases h) fun h => by simp at h

theorem ofValue_of_index (h : v.get? "Index" = some inner) : ofValue v = ofIndexMember inner := by
  cases v with
  | object members => simp only [ofValue, h]
  | _ => cases h

theorem ofValue_of_address (hnone : v.get? "Index" = none) (h : v.get? "Address" = some inner) :
    ofValue v = (ChainAddress.ofValue v).map .address := by
  cases v with
  | object members => simp only [ofValue, hnone, h, Option.isSome_some, if_true]
  | _ => cases h

/-! ## Shapes -/

/-- **Values that are read alike:** texts, and objects with an `Address` and without an `Index`. -/
inductive ReadsAlike : Value → Prop
  | text (s : String) : ReadsAlike (.string s)
  | tagged {v inner : Value} (hnone : v.get? "Index" = none) (h : v.get? "Address" = some inner) :
      ReadsAlike v

/-- They are an address to both readings, or to neither. -/
theorem ReadsAlike.agrees (h : ReadsAlike v) :
    ofValue v = .ok (.address a) ↔ ChainAddress.ofValue v = .ok a := by
  cases h with
  | text s => exact parse_eq_address_iff
  | tagged hnone h =>
    rw [ofValue_of_address hnone h]
    cases ChainAddress.ofValue v <;> simp [Except.map]

/-- **The shapes of an asset:** besides those that are read alike, a number, and what has an `Index`. -/
theorem shape_of_ofValue {x : Asset} (h : ofValue v = .ok x) :
    (∃ m, v = .number m) ∨ (∃ inner, v.get? "Index" = some inner) ∨ ReadsAlike v := by
  cases v with
  | number m => exact .inl ⟨m, rfl⟩
  | string s => exact .inr (.inr (.text s))
  | object members =>
    cases hindex : (Value.object members).get? "Index" with
    | some inner => exact .inr (.inl ⟨inner, rfl⟩)
    | none =>
      cases haddress : (Value.object members).get? "Address" with
      | some inner => exact .inr (.inr (.tagged hindex haddress))
      | none =>
        simp only [ofValue, hindex, haddress] at h
        cases h
  | _ => cases h

/-- No value beyond those that are read alike is an asset at an address. -/
theorem readsAlike_of_ofValue (h : ofValue v = .ok (.address a)) : ReadsAlike v := by
  rcases shape_of_ofValue h with ⟨m, rfl⟩ | ⟨inner, hindex⟩ | halike
  · exact absurd h (ofNumber_ne_address m)
  · rw [ofValue_of_index hindex] at h
    exact absurd h (ofIndexMember_ne_address inner)
  · exact halike

/-- What is an index to the one and an address to the other has an `Index`. -/
theorem exists_index_of_both (hn : ofValue v = .ok (.index n))
    (ha : ChainAddress.ofValue v = .ok a) : ∃ inner, v.get? "Index" = some inner := by
  rcases shape_of_ofValue hn with ⟨m, rfl⟩ | hindex | halike
  · cases ha
  · exact hindex
  · rw [halike.agrees.mpr ha] at hn
    cases hn

/-! ## Where the readings part -/

/-- **When the two readings of a value agree,** and what they make of it if not.  A value is an asset
at an address if and only if it is that address and one of those that are read alike; and it is an
index to the one and an address to the other if and only if it is an address and has an `Index` besides
that holds the index. -/
theorem ofValue_eq_address_iff (v : Value) (a : ChainAddress) :
    (ofValue v = .ok (.address a) ↔ ChainAddress.ofValue v = .ok a ∧ ReadsAlike v)
    ∧ ∀ n, ofValue v = .ok (.index n) ∧ ChainAddress.ofValue v = .ok a
      ↔ ChainAddress.ofValue v = .ok a ∧ ∃ inner, v.get? "Index" = some inner
        ∧ ((∃ m, inner = .number m) ∨ ∃ s, inner = .string s) ∧ ofValue inner = .ok (.index n) := by
  refine ⟨⟨fun h => ?_, fun h => h.2.agrees.mpr h.1⟩, fun n => ⟨?_, ?_⟩⟩
  · have halike := readsAlike_of_ofValue h
    exact ⟨halike.agrees.mp h, halike⟩
  · rintro ⟨hn, ha⟩
    obtain ⟨inner, hindex⟩ := exists_index_of_both hn ha
    rw [ofValue_of_index hindex] at hn
    exact ⟨ha, inner, hindex, ofIndexMember_eq_index_iff.mp hn⟩
  · rintro ⟨ha, inner, hindex, hinner⟩
    exact ⟨(ofValue_of_index hindex).trans (ofIndexMember_eq_index_iff.mpr hinner), ha⟩

/-- **The bare lists of an address are no asset,** whatever the address. -/
theorem ofValue_lists (a : ChainAddress) : ChainAddress.ofValue a.toStructured = .ok a
    ∧ ofValue a.toStructured = .error (.invalidIdentifier (.noIndexOrAddress a.toStructured)) :=
  ⟨a.holds_self.ofValue_eq a.address_ne_nil a.isContent_toStructured, rfl⟩

/-- **An index and an address in one object** are read as the one and as the other. -/
theorem ofValue_both (n : UInt64) (a : ChainAddress) :
    ofValue (.object [("Address", .string a.text), ("Index", .nat n.toNat)]) = .ok (.index n)
    ∧ ChainAddress.ofValue (.object [("Address", .string a.text), ("Index", .nat n.toNat)])
      = .ok a :=
  ⟨(ofValue_of_index rfl).trans (ofIndexMember_number (ofNumber_eq n)), a.parse_text⟩

/-- **The two readings do not always agree:** the lists of an address are an address and no asset, and
with an `Index` an `Address` is an index as well. -/
theorem not_ofValue_eq_address_iff :
    (¬ ∀ v a, ofValue v = .ok (.address a) ↔ ChainAddress.ofValue v = .ok a)
    ∧ ¬ ∀ v a n, ¬ (ofValue v = .ok (.index n) ∧ ChainAddress.ofValue v = .ok a) := by
  let a : ChainAddress := ⟨.zero, .evm ⟨1⟩⟩
  constructor
  · intro h
    obtain ⟨haddress, hasset⟩ := ofValue_lists a
    rw [(h _ a).mpr haddress] at hasset
    cases hasset
  · intro h
    exact h _ a 1 (ofValue_both 1 a)

end Asset

end OrderDesk
