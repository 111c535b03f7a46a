import Mathlib.Data.List.TakeWhile
import OrderDesk.Proofs.Wire.Texts

/-!
# Proofs/Identifier/Digits — which texts are read as which bytes

    0x ⌢ 0X ⌢ digits ──decodeHex──▸ bytes ──pad──▸ fixed width

Digits of either case spell bytes when in lower case they are what is written for them (`Spells`).
Reading bytes takes pairs of digits behind a marker and nothing else (`decode_eq_ok_iff`); where
readers that each pass over a marker follow one another, there may be more markers than one
(`decodeHex_eq_ok_iff`).
-/

namespace OrderDesk.Hex

variable {cs ds m : List Char} {bytes : List UInt8} {c : Char} {n : Nat}

/-! ## Digits of either case -/

/-- **Digits that spell bytes,** in either case. -/
def Spells (cs : List Char) (bytes : List UInt8) : Prop := cs.map Char.toLower = encode bytes

/-- The ASCII digits are those that are one of sixteen digits in lower case. -/
theorem value?_ofNat_eq_some_iff : ∀ k < 128, ∀ n < 16,
    value? (Char.ofNat k) = some n ↔ (Char.ofNat k).toLower = digit n := by decide +kernel

theorem toNat_digit_lt : ∀ n < 16, (digit n).toNat < 128 := by decide

theorem lt_of_value? (h : value? c = some n) : c.toNat < 128 ∧ n < 16 := by
  have hc := (le_of_isDigit (c := c) (by rw [isDigit, h]; rfl)).1
  simp only [value?] at h
  split at h
  · simp only [Option.some.injEq] at h
    omega
  · split at h <;> simp only [Option.ite_none_right_eq_some, Option.some.injEq] at h <;> omega

theorem toLower_of_le (h : 128 ≤ c.toNat) : c.toLower = c := by
  refine dif_neg ?_
  rintro ⟨-, hle⟩
  have hle : c.toNat ≤ 90 := UInt32.le_iff_toNat_le.mp hle
  omega

/-- **The value of a digit** is told by its lower case. -/
theorem value?_eq_some_iff : value? c = some n ↔ n < 16 ∧ c.toLower = digit n := by
  rcases Nat.lt_or_ge c.toNat 128 with hc | hc
  · have htable := value?_ofNat_eq_some_iff c.toNat hc
    rw [Char.ofNat_toNat] at htable
    exact ⟨fun h => ⟨(lt_of_value? h).2, (htable n (lt_of_value? h).2).mp h⟩,
      fun h => (htable n h.1).mpr h.2⟩
  · refine iff_of_false (fun h => ?_) fun h => ?_
    · have := (lt_of_value? h).1
      omega
    · have := toNat_digit_lt n h.1
      rw [← h.2, toLower_of_le hc] at this
      omega

theorem spells_cons {c' : Char} {b : UInt8} : Spells (c :: c' :: cs) (b :: bytes)
    ↔ value? c = some (b.toNat / 16) ∧ value? c' = some (b.toNat % 16) ∧ Spells cs bytes := by
  have hb := b.toNat_lt
  have hhigh : b.toNat / 16 < 16 := by omega
  have hlow : b.toNat % 16 < 16 := by omega
  rw [value?_eq_some_iff, value?_eq_some_iff, and_iff_right hhigh, and_iff_right hlow]
  have hencode : encode (b :: bytes)
      = digit (b.toNat / 16) :: digit (b.toNat % 16) :: encode bytes := rfl
  rw [Spells, hencode, List.map_cons, List.map_cons, List.cons.injEq, List.cons.injEq, Spells]

/-- **Pairs of digits are read as the bytes that they spell.** -/
theorem bytes?_eq_some_iff : ∀ {cs : List Char} {bytes : List UInt8},
    bytes? cs = some bytes ↔ Spells cs bytes
  | [], [] => iff_of_true rfl rfl
  | [], _ :: _ => iff_of_false (by simp [bytes?]) (by simp [Spells, encode, ofByte])
  | [_], [] => iff_of_false (by simp [bytes?]) (by simp [Spells, encode])
  | [_], _ :: _ => iff_of_false (by simp [bytes?]) (by simp [Spells, encode, ofByte])
  | c :: c' :: cs, [] => by
      refine iff_of_false (fun h => ?_) (by simp [Spells, encode])
      rw [bytes?] at h
      split at h <;> cases h
  | c :: c' :: cs, b :: bytes => by
      rw [spells_cons, ← bytes?_eq_some_iff, bytes?]
      constructor
      · intro h
        split at h
        · next high low bytes' hhigh hlow hrest =>
          obtain ⟨hbyte, rfl⟩ := List.cons.inj (Option.some.inj h)
          have hlt := (lt_of_value? hhigh).2
          have hlt' := (lt_of_value? hlow).2
          have hb : b.toNat = 16 * high + low := by
            rw [← hbyte, UInt8.toNat_ofNat']
            exact Nat.mod_eq_of_lt (by omega)
          refine ⟨hhigh.trans (congrArg some ?_), hlow.trans (congrArg some ?_), hrest⟩
          · omega
          · omega
        · contradiction
      · rintro ⟨hhigh, hlow, hrest⟩
        simp only [hhigh, hlow, hrest, Nat.div_add_mod, UInt8.ofNat_toNat]

/-- What spells bytes are digits… -/
theorem Spells.isDigit (h : Spells cs bytes) : ∀ c ∈ cs, isDigit c = true := by
  intro c hc
  have hmem : c.toLower ∈ encode bytes := h ▸ List.mem_map_of_mem hc
  obtain ⟨n, hn, heq⟩ := exists_digit_of_mem_encode hmem
  rw [Hex.isDigit, value?_eq_some_iff.mpr ⟨hn, heq⟩]
  rfl

/-- …two for each byte. -/
theorem Spells.length_eq (h : Spells cs bytes) : cs.length = 2 * bytes.length := by
  rw [← length_encode, ← h, List.length_map]

/-- **…and digits in pairs spell bytes.** -/
theorem exists_spells : ∀ {cs : List Char}, cs.length % 2 = 0 → (∀ c ∈ cs, isDigit c = true) →
    ∃ bytes, Spells cs bytes
  | [], _, _ => ⟨[], rfl⟩
  | [_], heven, _ => by
      rw [List.length_singleton] at heven
      contradiction
  | c :: c' :: cs, heven, hall => by
      rw [List.forall_mem_cons, List.forall_mem_cons] at hall
      obtain ⟨hc, hc', hall⟩ := hall
      have heven : cs.length % 2 = 0 := by
        rw [List.length_cons, List.length_cons] at heven
        omega
      obtain ⟨bytes, h⟩ := exists_spells heven hall
      obtain ⟨n, hn⟩ := Option.isSome_iff_exists.mp hc
      obtain ⟨n', hn'⟩ := Option.isSome_iff_exists.mp hc'
      refine ⟨UInt8.ofNat (16 * n + n') :: bytes, bytes?_eq_some_iff.mp ?_⟩
      simp only [bytes?, hn, hn', bytes?_eq_some_iff.mpr h]

/-- What is written for bytes spells them. -/
theorem spells_encode (bytes : List UInt8) : Spells (encode bytes) bytes :=
  bytes?_eq_some_iff.mp (bytes?_encode bytes)

theorem firstBad?_eq_none_iff : firstBad? cs = none ↔ ∀ c ∈ cs, isDigit c = true := by
  refine ⟨fun h => ?_, firstBad?_of_isDigit⟩
  rw [firstBad?] at h
  split at h
  · next hdrop => exact List.dropWhile_eq_nil_iff.mp hdrop
  · contradiction

/-- **Reading takes pairs of digits behind a marker of either case,** and nothing else. -/
theorem decode_eq_ok_iff : decode cs = .ok bytes ↔ Spells (dropAnyMarker cs) bytes := by
  constructor
  · intro h
    simp only [decode] at h
    split at h
    · contradiction
    · next heven =>
      split at h
      · contradiction
      · next hgood =>
        have hall := firstBad?_eq_none_iff.mp hgood
        rw [byteLength_of_isDigit hall] at heven
        obtain ⟨bytes', hspells⟩ := exists_spells (by omega) hall
        rw [bytes?_eq_some_iff.mpr hspells] at h
        exact Except.ok.inj h ▸ hspells
  · intro h
    have heven : ¬ byteLength (dropAnyMarker cs) % 2 = 1 := by
      rw [byteLength_of_isDigit h.isDigit, h.length_eq]
      omega
    simp only [decode, if_neg heven, firstBad?_of_isDigit h.isDigit, bytes?_eq_some_iff.mpr h,
      Option.getD_some]

/-! ## Markers -/

/-- Digits hold no marker, and none begins before them. -/
theorem append_ne_marker (hd : ∀ c ∈ ds, isDigit c = true) (hm : ¬ ['0', 'x'] <+: m)
    (rest : List Char) : m ++ ds ≠ '0' :: 'x' :: rest := by
  intro heq
  rcases m with _ | ⟨c, _ | ⟨c', m⟩⟩
  · have hx : 'x' ∈ ds := by
      rw [List.nil_append] at heq
      simp [heq]
    exact (le_of_isDigit (hd 'x' hx)).2.1 rfl
  · obtain ⟨-, rfl⟩ := List.cons.inj heq
    exact (le_of_isDigit (hd 'x' List.mem_cons_self)).2.1 rfl
  · obtain ⟨rfl, htail⟩ := List.cons.inj heq
    obtain ⟨rfl, -⟩ := List.cons.inj htail
    exact hm ⟨m, rfl⟩

/-- **Passing over `0x`** in front of what ends with digits. -/
theorem dropMarker_eq_append_iff (hd : ∀ c ∈ ds, isDigit c = true) :
    dropMarker cs = m ++ ds
      ↔ cs = '0' :: 'x' :: (m ++ ds) ∨ cs = m ++ ds ∧ ¬ ['0', 'x'] <+: m := by
  constructor
  · intro h
    unfold dropMarker at h
    split at h
    · exact .inl (by rw [h])
    · next hcs =>
      subst h
      refine .inr ⟨rfl, ?_⟩
      rintro ⟨rest, rfl⟩
      exact hcs (rest ++ ds) rfl
  · rintro (rfl | ⟨rfl, hm⟩)
    · rfl
    · unfold dropMarker
      split
      · next rest heq => exact absurd heq (append_ne_marker hd hm rest)
      · rfl

theorem dropAnyMarker_eq_iff (hd : ∀ c ∈ ds, isDigit c = true) :
    dropAnyMarker cs = ds ↔ cs = ds ∨ cs = '0' :: 'x' :: ds ∨ cs = '0' :: 'X' :: ds := by
  constructor
  · intro h
    unfold dropAnyMarker at h
    split at h
    · exact .inr (.inl (by rw [h]))
    · exact .inr (.inr (by rw [h]))
    · exact .inl h
  · rintro (rfl | rfl | rfl)
    · exact dropAnyMarker_of_isDigit hd
    · rfl
    · rfl

/-- The markers that are passed over in front of digits. -/
def markers : List (List Char) :=
  [[], ['0', 'x'], ['0', 'X'], ['0', 'x', '0', 'x'], ['0', 'x', '0', 'X']]

end OrderDesk.Hex

namespace OrderDesk

open Hex (Spells)

variable {cs : List Char} {bytes : List UInt8}

/-- Two readings in a row. -/
theorem bind_eq_ok_iff {ε α β : Type} {r : Except ε α} {read : α → Except ε β} {b : β} :
    (r >>= read) = .ok b ↔ ∃ a, r = .ok a ∧ read a = .ok b := by
  cases r with
  | error e => exact iff_of_false (fun h => by cases h) fun ⟨a, h, _⟩ => by cases h
  | ok a =>
    refine ⟨fun h => ⟨a, rfl, h⟩, ?_⟩
    rintro ⟨a', h, hread⟩
    rwa [← Except.ok.inj h] at hread

theorem decodeHex_eq_ok :
    decodeHex cs = .ok bytes ↔ Spells (Hex.dropAnyMarker (Hex.dropMarker cs)) bytes := by
  rw [← Hex.decode_eq_ok_iff, decodeHex]
  split
  · next bytes' h => simp [h]
  · next fault h => exact iff_of_false (by simp) (by simp [h])

/-- **Bytes are read from pairs of digits behind one marker, or two.** -/
theorem decodeHex_eq_ok_iff : decodeHex cs = .ok bytes
    ↔ ∃ m ∈ Hex.markers, ∃ ds, cs = m ++ ds ∧ Spells ds bytes := by
  have hmarkers : ∀ ds, (∀ c ∈ ds, Hex.isDigit c = true) →
      (Hex.dropAnyMarker (Hex.dropMarker cs) = ds ↔ ∃ m ∈ Hex.markers, cs = m ++ ds) := by
    intro ds hd
    have hnone : Hex.dropMarker cs = ds ↔ cs = '0' :: 'x' :: ds ∨ cs = ds := by
      simpa using Hex.dropMarker_eq_append_iff (m := []) hd
    have hlower : Hex.dropMarker cs = '0' :: 'x' :: ds ↔ cs = '0' :: 'x' :: '0' :: 'x' :: ds := by
      simpa using Hex.dropMarker_eq_append_iff (m := ['0', 'x']) hd
    have hupper : Hex.dropMarker cs = '0' :: 'X' :: ds
        ↔ cs = '0' :: 'x' :: '0' :: 'X' :: ds ∨ cs = '0' :: 'X' :: ds := by
      simpa using Hex.dropMarker_eq_append_iff (m := ['0', 'X']) hd
    rw [Hex.dropAnyMarker_eq_iff hd, hnone, hlower, hupper]
    simp only [Hex.markers, List.mem_cons, List.not_mem_nil, or_false, exists_eq_or_imp,
      exists_eq_left, List.cons_append, List.nil_append]
    grind
  rw [decodeHex_eq_ok]
  constructor
  · intro h
    obtain ⟨m, hm, heq⟩ := (hmarkers _ h.isDigit).mp rfl
    exact ⟨m, hm, _, heq, h⟩
  · rintro ⟨m, hm, ds, heq, h⟩
    rwa [(hmarkers ds h.isDigit).mpr ⟨m, hm, heq⟩]

end OrderDesk
