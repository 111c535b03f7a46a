import OrderDesk.Proofs.Identifier.AddressGrammar

/-!
# Proofs/Identifier/ChainIdGrammar — which texts are chain ids, and of which number

    digits          0x ⌢ digits          0 ⌢ digits

A numeral that is not decimal is read twice, the second time with a zero in front of its digits, so
that digits need not come in pairs.  What the second reading takes has an odd number of characters and
what the first one takes an even number, so that neither is in the way of the other
(`parseHex_eq_ok_iff`).  Markers are passed over in both readings: behind those that are not `0x`
digits are read in pairs, and there may be none (`parse_denotes`).
-/

namespace OrderDesk

open Hex (Spells)

variable {cs ds m : List Char} {bytes : List UInt8}

/-! ## The number of digits -/

namespace Hex

/-- A number with one more digit behind it. -/
def extend (n : Nat) (c : Char) : Nat := 16 * n + (value? c).getD 0

/-- The number that digits denote, the most significant first. -/
def number (ds : List Char) : Nat := ds.foldl extend 0

theorem foldl_extend : ∀ {ds : List Char} {bytes : List UInt8} (n : Nat), Spells ds bytes →
    ds.foldl extend n = bytes.foldl (fun n b => 256 * n + b.toNat) n
  | [], [], _, _ => rfl
  | [], _ :: _, _, h => absurd h.length_eq (by simp)
  | [_], bytes, _, h => absurd h.length_eq (by rw [List.length_singleton]; omega)
  | _ :: _ :: _, [], _, h => absurd h.length_eq (by simp)
  | c :: c' :: ds, b :: bytes, n, h => by
      obtain ⟨hhigh, hlow, hrest⟩ := spells_cons.mp h
      have hb : extend (extend n c) c' = 256 * n + b.toNat := by
        rw [extend, extend, hhigh, hlow, Option.getD_some, Option.getD_some]
        omega
      rw [List.foldl_cons, List.foldl_cons, hb, foldl_extend _ hrest, List.foldl_cons]

/-- **Digits denote the number of the bytes that they spell.** -/
theorem Spells.toNat_eq (h : Spells ds bytes) : Bytes.toNat bytes = number ds :=
  (foldl_extend 0 h).symm

end Hex

/-! ## Numbers of at most eight bytes -/

namespace Bytes

/-- Zeros in front do not count. -/
theorem toNat_dropWhile : ∀ bytes : List UInt8, toNat (bytes.dropWhile (· = 0)) = toNat bytes
  | [] => rfl
  | b :: bytes => by
      rw [List.dropWhile_cons]
      split
      · next h =>
        obtain rfl : b = 0 := of_decide_eq_true h
        exact toNat_dropWhile bytes
      · rfl

/-- A number has as many bytes as its first one says that is not zero. -/
theorem pow_le_toNat {b : UInt8} (hb : b ≠ 0) (bytes : List UInt8) :
    Nat.pow 256 bytes.length ≤ toNat (b :: bytes) := by
  induction bytes using List.reverseRecOn with
  | nil =>
    have hpos : b.toNat ≠ 0 := fun h => hb (UInt8.toNat_inj.mp h)
    change 1 ≤ 256 * 0 + b.toNat
    omega
  | append_singleton bytes b' ih =>
    have hpow : Nat.pow 256 (bytes.length + 1) = Nat.pow 256 bytes.length * 256 := rfl
    rw [← List.cons_append, toNat_append, List.length_append, List.length_singleton, hpow]
    omega

/-- Bytes without zeros in front are as few as their number needs. -/
theorem length_dropWhile_le {n : Nat} (h : toNat bytes < Nat.pow 256 n) :
    (bytes.dropWhile (· = 0)).length ≤ n := by
  rw [← toNat_dropWhile] at h
  rcases hdrop : bytes.dropWhile (· = 0) with _ | ⟨b, rest⟩
  · rw [hdrop]
    exact Nat.zero_le n
  · have hb := List.head?_dropWhile_not (· = 0) bytes
    rw [hdrop, List.head?_cons] at hb
    rw [hdrop] at h ⊢
    have hle := pow_le_toNat (of_decide_eq_false hb) rest
    exact (Nat.pow_lt_pow_iff_right (by decide)).mp (Nat.lt_of_le_of_lt hle h)

/-- The bytes of a number at a width are the fewer ones behind zeros. -/
theorem ofNat_toNat_of_le {n : Nat} (h : bytes.length ≤ n) :
    ofNat n (toNat bytes) = List.replicate (n - bytes.length) 0 ++ bytes := by
  have hwidth := FixedBytes.length_replicate_append h
  rw [← toNat_replicate_append (n - bytes.length) bytes]
  calc ofNat n (toNat (List.replicate (n - bytes.length) 0 ++ bytes))
      = ofNat (List.replicate (n - bytes.length) 0 ++ bytes).length
          (toNat (List.replicate (n - bytes.length) 0 ++ bytes)) := by rw [hwidth]
    _ = List.replicate (n - bytes.length) 0 ++ bytes := ofNat_toNat _

end Bytes

namespace ChainId

variable {c : ChainId} {text : String}

theorem toNat_toBytes (c : ChainId) : Bytes.toNat c.toBytes.toList = c.value.toNat :=
  Bytes.toNat_ofNat c.value.toNat_lt

theorem ofByteList_eq_ok_iff : ofByteList bytes = .ok c
    ↔ c.toBytes.toList = List.replicate (8 - bytes.length) 0 ++ bytes := by
  rw [← FixedBytes.padLeft?_eq_some_iff, ofByteList, padLeft]
  cases hpad : FixedBytes.padLeft? (n := 8) bytes with
  | none => exact iff_of_false (fun h => by cases h) (fun h => by cases h)
  | some padded =>
    rw [Option.some_inj]
    constructor
    · intro h
      rw [← Except.ok.inj h, toBytes_ofBytes]
    · rintro rfl
      exact congrArg Except.ok c.ofBytes_toBytes

/-- **Bytes without zeros in front are the chain id with their number.** -/
theorem ofByteList_dropWhile_eq_ok_iff :
    ofByteList (bytes.dropWhile (· = 0)) = .ok c ↔ c.value.toNat = Bytes.toNat bytes := by
  rw [ofByteList_eq_ok_iff, ← Bytes.toNat_dropWhile bytes]
  constructor
  · intro h
    rw [← toNat_toBytes, h, Bytes.toNat_replicate_append]
  · intro h
    have hlt : Bytes.toNat bytes < Nat.pow 256 8 := by
      rw [← Bytes.toNat_dropWhile bytes, ← h]
      exact c.value.toNat_lt
    rw [← Bytes.ofNat_toNat_of_le (Bytes.length_dropWhile_le hlt), ← h]
    rfl

/-! ## Two readings -/

/-- An optional marker does not make a number of characters odd or even. -/
theorem length_dropMarker (cs : List Char) : (Hex.dropMarker cs).length % 2 = cs.length % 2 := by
  unfold Hex.dropMarker
  split
  · rw [List.length_cons, List.length_cons]
    omega
  · rfl

theorem length_even_of_decodeHex (h : decodeHex cs = .ok bytes) : cs.length % 2 = 0 := by
  obtain ⟨m, hm, ds, rfl, hspells⟩ := decodeHex_eq_ok_iff.mp h
  have hmarker := Hex.length_even_of_mem_markers m hm
  rw [List.length_append, hspells.length_eq]
  omega

/-- What is read as it is cannot be read with a zero in front. -/
theorem decodeHex_zero_ne (h : decodeHex cs = .ok bytes) (bytes' : List UInt8) :
    decodeHex ('0' :: Hex.dropMarker cs) ≠ .ok bytes' := by
  intro hsecond
  have heven := length_even_of_decodeHex h
  have hodd := length_even_of_decodeHex hsecond
  have hdrop := length_dropMarker cs
  rw [List.length_cons] at hodd
  omega

/-- **A numeral is read as it is, or with a zero in front of its digits:** never can both be done. -/
theorem parseHex_eq_ok_iff : parseHex cs = .ok c
    ↔ ∃ bytes, (decodeHex cs = .ok bytes ∨ decodeHex ('0' :: Hex.dropMarker cs) = .ok bytes)
      ∧ c.value.toNat = Bytes.toNat bytes := by
  rw [parseHex]
  cases h : decodeHex cs with
  | error e =>
    simp only [reduceCtorEq, false_or, bind_eq_ok_iff, ofByteList_dropWhile_eq_ok_iff]
  | ok bytes =>
    simp only [decodeHex_zero_ne h, or_false, bind_eq_ok_iff, ofByteList_dropWhile_eq_ok_iff]

/-! ## The grammar and what is beyond it -/

/-- **The grammar of chain ids,** and the number of each: decimal digits alone, or else digits behind
an optional `0x`. -/
inductive Denotes (cs : List Char) (n : Nat) : Prop
  | decimal (hne : cs ≠ []) (hall : ∀ c ∈ cs, Numeral.isDigit c = true)
      (hn : n = Nat.ofDigitChars 10 cs 0)
  | hexadecimal (ds : List Char) (hmarks : Hex.Marks ds cs) (hne : ds ≠ [])
      (hall : ∀ c ∈ ds, Hex.isDigit c = true) (hmixed : ∃ c ∈ cs, Numeral.isDigit c = false)
      (hn : n = Hex.number ds)

/-- The markers beyond `0x` that the first reading passes over. -/
def firstMarkers : List (List Char) := [['0', 'X'], ['0', 'x', '0', 'x'], ['0', 'x', '0', 'X']]

/-- The markers that the second reading passes over: with its zero in front, also what is none. -/
def secondMarkers : List (List Char) :=
  ["x", "X", "x0x", "x0X", "0xx", "0xX", "0xx0x", "0xx0X"].map String.toList

/-- **Chain ids beyond the grammar:** pairs of digits behind a marker that is not `0x`, maybe none. -/
def Overmarked (cs : List Char) (n : Nat) : Prop :=
  ∃ m ∈ firstMarkers ++ secondMarkers, ∃ ds, cs = m ++ ds ∧ ds.length % 2 = 0
    ∧ (∀ c ∈ ds, Hex.isDigit c = true) ∧ n = Hex.number ds

/-- **The first reading** takes digits behind an optional `0x`, and what is behind its markers. -/
theorem decodeHex_iff : decodeHex cs = .ok bytes ↔ ∃ ds, Spells ds bytes
    ∧ (Hex.Marks ds cs ∨ ∃ m ∈ firstMarkers, cs = m ++ ds) := by
  have hmarkers : ∀ ds, (∃ m ∈ Hex.markers, cs = m ++ ds)
      ↔ Hex.Marks ds cs ∨ ∃ m ∈ firstMarkers, cs = m ++ ds := by
    intro ds
    simp [Hex.markers, Hex.Marks, firstMarkers, or_assoc]
  simp only [← hmarkers, decodeHex_eq_ok_iff]
  constructor
  · rintro ⟨m, hm, ds, heq, hspells⟩
    exact ⟨ds, hspells, m, hm, heq⟩
  · rintro ⟨ds, hspells, m, hm, heq⟩
    exact ⟨m, hm, ds, heq, hspells⟩

theorem exists_marker_zero_iff (hd : ∀ c ∈ ds, Hex.isDigit c = true) :
    (∃ m ∈ Hex.markers, '0' :: Hex.dropMarker cs = m ++ ds)
      ↔ (∃ ds', ds = '0' :: ds' ∧ Hex.Marks ds' cs) ∨ ∃ m ∈ secondMarkers, cs = m ++ ds := by
  have hnone : '0' :: Hex.dropMarker cs = ds ↔ ∃ ds', ds = '0' :: ds' ∧ Hex.Marks ds' cs := by
    constructor
    · rintro rfl
      rw [List.forall_mem_cons] at hd
      exact ⟨_, rfl, (Hex.marks_iff hd.2).mpr rfl⟩
    · rintro ⟨ds', rfl, hmarks⟩
      rw [List.forall_mem_cons] at hd
      rw [(Hex.marks_iff hd.2).mp hmarks]
  -- a marker that begins with the zero in front is no marker without it
  have hcut : ∀ m ∈ [['x'], ['X'], ['x', '0', 'x'], ['x', '0', 'X']],
      (Hex.dropMarker cs = m ++ ds ↔ cs = '0' :: 'x' :: (m ++ ds) ∨ cs = m ++ ds) := by
    have hmarkers : ∀ m ∈ [['x'], ['X'], ['x', '0', 'x'], ['x', '0', 'X']],
        ¬ ['0', 'x'] <+: m := by decide
    intro m hm
    rw [Hex.dropMarker_eq_append_iff hd, and_iff_left (hmarkers m hm)]
  simp only [List.forall_mem_cons, List.cons_append, List.nil_append] at hcut
  obtain ⟨hx, hX, hxx, hxX, -⟩ := hcut
  have hsecond : (∃ m ∈ secondMarkers, cs = m ++ ds)
      ↔ cs = 'x' :: ds ∨ cs = 'X' :: ds ∨ cs = 'x' :: '0' :: 'x' :: ds
        ∨ cs = 'x' :: '0' :: 'X' :: ds ∨ cs = '0' :: 'x' :: 'x' :: ds
        ∨ cs = '0' :: 'x' :: 'X' :: ds ∨ cs = '0' :: 'x' :: 'x' :: '0' :: 'x' :: ds
        ∨ cs = '0' :: 'x' :: 'x' :: '0' :: 'X' :: ds := by
    simp [secondMarkers]
  simp only [Hex.markers, List.mem_cons, List.not_mem_nil, or_false, exists_eq_or_imp,
    exists_eq_left, List.cons_append, List.nil_append, List.cons.injEq, true_and, hnone, hx, hX,
    hxx, hxX, hsecond]
  grind

/-- **The second reading** takes an odd number of digits, and pairs of them behind its markers. -/
theorem decodeHex_zero_iff : decodeHex ('0' :: Hex.dropMarker cs) = .ok bytes
    ↔ ∃ ds, Spells ds bytes ∧ ((∃ ds', ds = '0' :: ds' ∧ Hex.Marks ds' cs)
      ∨ ∃ m ∈ secondMarkers, cs = m ++ ds) := by
  rw [decodeHex_eq_ok_iff]
  constructor
  · rintro ⟨m, hm, ds, heq, hspells⟩
    exact ⟨ds, hspells, (exists_marker_zero_iff hspells.isDigit).mp ⟨m, hm, heq⟩⟩
  · rintro ⟨ds, hspells, hmarks⟩
    obtain ⟨m, hm, heq⟩ := (exists_marker_zero_iff hspells.isDigit).mpr hmarks
    exact ⟨m, hm, ds, heq, hspells⟩

/-- Digits behind an optional `0x` are taken by one of the readings: by the first if there are even as
many, or else by the second. -/
theorem exists_decodeHex (hmarks : Hex.Marks ds cs) (hd : ∀ c ∈ ds, Hex.isDigit c = true) :
    ∃ bytes, (decodeHex cs = .ok bytes ∨ decodeHex ('0' :: Hex.dropMarker cs) = .ok bytes)
      ∧ Bytes.toNat bytes = Hex.number ds := by
  rcases Nat.mod_two_eq_zero_or_one ds.length with heven | hodd
  · obtain ⟨bytes, hspells⟩ := Hex.exists_spells heven hd
    exact ⟨bytes, .inl (decodeHex_iff.mpr ⟨ds, hspells, .inl hmarks⟩), hspells.toNat_eq⟩
  · have heven : ('0' :: ds).length % 2 = 0 := by
      rw [List.length_cons]
      omega
    obtain ⟨bytes, hspells⟩ := Hex.exists_spells heven (List.forall_mem_cons.mpr ⟨by decide, hd⟩)
    exact ⟨bytes, .inr (decodeHex_zero_iff.mpr ⟨_, hspells, .inl ⟨ds, rfl, hmarks⟩⟩),
      hspells.toNat_eq⟩

/-- **What is read of a numeral that is not decimal.** -/
theorem parseHex_iff : parseHex cs = .ok c
    ↔ (∃ ds, Hex.Marks ds cs ∧ (∀ c ∈ ds, Hex.isDigit c = true) ∧ c.value.toNat = Hex.number ds)
      ∨ Overmarked cs c.value.toNat := by
  rw [parseHex_eq_ok_iff]
  constructor
  · rintro ⟨bytes, hread | hread, hvalue⟩
    · obtain ⟨ds, hspells, hread⟩ := decodeHex_iff.mp hread
      have hlength := hspells.length_eq
      rw [hspells.toNat_eq] at hvalue
      rcases hread with hmarks | ⟨m, hm, heq⟩
      · exact .inl ⟨ds, hmarks, hspells.isDigit, hvalue⟩
      · exact .inr ⟨m, List.mem_append_left _ hm, ds, heq, by omega, hspells.isDigit, hvalue⟩
    · obtain ⟨ds, hspells, hread⟩ := decodeHex_zero_iff.mp hread
      have hlength := hspells.length_eq
      rw [hspells.toNat_eq] at hvalue
      rcases hread with ⟨ds', rfl, hmarks⟩ | ⟨m, hm, heq⟩
      · exact .inl ⟨ds', hmarks, (List.forall_mem_cons.mp hspells.isDigit).2, hvalue⟩
      · exact .inr ⟨m, List.mem_append_right _ hm, ds, heq, by omega, hspells.isDigit, hvalue⟩
  · rintro (⟨ds, hmarks, hd, hvalue⟩ | ⟨m, hm, ds, heq, heven, hd, hvalue⟩)
    · obtain ⟨bytes, hread, hnumber⟩ := exists_decodeHex hmarks hd
      exact ⟨bytes, hread, hvalue.trans hnumber.symm⟩
    · obtain ⟨bytes, hspells⟩ := Hex.exists_spells heven hd
      have hvalue := hvalue.trans hspells.toNat_eq.symm
      rcases List.mem_append.mp hm with hm | hm
      · exact ⟨bytes, .inl (decodeHex_iff.mpr ⟨ds, hspells, .inr ⟨m, hm, heq⟩⟩), hvalue⟩
      · exact ⟨bytes, .inr (decodeHex_zero_iff.mpr ⟨ds, hspells, .inr ⟨m, hm, heq⟩⟩), hvalue⟩

/-- Neither no text nor `0x` is a chain id, by the grammar… -/
theorem Denotes.ne {n : Nat} (h : Denotes cs n) : ¬ (cs = [] ∨ cs = ['0', 'x']) := by
  rintro (rfl | rfl)
  · rcases h with ⟨hne, -, -⟩ | ⟨ds, hmarks, hne, -, -⟩
    · exact hne rfl
    · rcases hmarks with rfl | hmarks
      · exact hne rfl
      · cases hmarks
  · rcases h with ⟨-, hall, -⟩ | ⟨ds, hmarks, hne, hall, -⟩
    · exact absurd (hall 'x' (by decide)) (by decide)
    · rcases hmarks with rfl | hmarks
      · exact absurd (hall 'x' (by decide)) (by decide)
      · cases hmarks
        exact hne rfl

/-- …or beyond it… -/
theorem Overmarked.ne {n : Nat} (h : Overmarked cs n) : ¬ (cs = [] ∨ cs = ['0', 'x']) := by
  obtain ⟨m, hm, ds, rfl, -⟩ := h
  have hmore : ∀ m ∈ firstMarkers ++ secondMarkers, ¬ m <+: [] ∧ ¬ m <+: ['0', 'x'] := by decide
  rintro (heq | heq)
  · exact (hmore m hm).1 (heq ▸ List.prefix_append m ds)
  · exact (hmore m hm).2 (heq ▸ List.prefix_append m ds)

/-- …nor is a decimal numeral beyond it. -/
theorem Overmarked.mixed {n : Nat} (h : Overmarked cs n) :
    ∃ c ∈ cs, Numeral.isDigit c = false := by
  obtain ⟨m, hm, ds, rfl, -⟩ := h
  have hmixed : ∀ m ∈ firstMarkers ++ secondMarkers, m.all Numeral.isDigit = false := by decide
  obtain ⟨c, hc, hdigit⟩ := List.all_eq_false.mp (hmixed m hm)
  exact ⟨c, List.mem_append_left ds hc, by simpa using hdigit⟩

theorem parse_eq_ok_iff_of_decimal {n : Nat} (h : Numeral.decimal? text.toList = some n) :
    parse text = .ok c ↔ c.value.toNat = n := by
  have hne : ¬ (text.toList = [] ∨ text.toList = ['0', 'x']) := by
    rintro (heq | heq) <;> rw [heq] at h <;> cases h
  simp only [parse, if_neg hne, h]
  split
  · next hlt =>
    rw [Except.ok.injEq]
    constructor
    · rintro rfl
      exact UInt64.toNat_ofNat_of_lt hlt
    · rintro rfl
      rw [UInt64.ofNat_toNat]
  · next hlarge =>
    refine iff_of_false (fun h => by cases h) ?_
    rintro rfl
    exact hlarge c.value.toNat_lt

/-- **What is read as a chain id, and of which number:** the numerals of the grammar, and what stands
behind a marker beyond it, also if nothing does. -/
theorem parse_denotes (text : String) (c : ChainId) : parse text = .ok c
    ↔ Denotes text.toList c.value.toNat ∨ Overmarked text.toList c.value.toNat := by
  by_cases hdecimal : Numeral.isDecimal text.toList = true
  · have hn : Numeral.decimal? text.toList = some (Nat.ofDigitChars 10 text.toList 0) :=
      if_pos hdecimal
    obtain ⟨hne, hall⟩ := Numeral.isDecimal_iff.mp hdecimal
    have hpure : ¬ ∃ c ∈ text.toList, Numeral.isDigit c = false := by
      rintro ⟨c, hc, hdigit⟩
      exact absurd (hall c hc) (by simp [hdigit])
    rw [parse_eq_ok_iff_of_decimal hn]
    constructor
    · exact fun h => .inl (.decimal hne hall h)
    · rintro ((⟨-, -, h⟩ | ⟨ds, -, -, -, hmixed, -⟩) | h)
      · exact h
      · exact absurd hmixed hpure
      · exact absurd h.mixed hpure
  · have hn : Numeral.decimal? text.toList = none := if_neg hdecimal
    have hread : parse text = .ok c
        ↔ ¬ (text.toList = [] ∨ text.toList = ['0', 'x']) ∧ parseHex text.toList = .ok c := by
      simp only [parse, hn]
      split
      · next hnone => exact iff_of_false (fun h => by cases h) fun h => h.1 hnone
      · next hsome => exact (and_iff_right hsome).symm
    rw [hread, parseHex_iff]
    constructor
    · rintro ⟨hne, ⟨ds, hmarks, hd, h⟩ | h⟩
      · have hmixed : ∃ c ∈ text.toList, Numeral.isDigit c = false := by
          have hnil : text.toList ≠ [] := fun hnil => hne (.inl hnil)
          simpa only [Numeral.isDecimal_iff, hnil, ne_eq, not_false_eq_true, true_and, not_forall,
            Bool.not_eq_true, exists_prop] using hdecimal
        refine .inl (.hexadecimal ds hmarks ?_ hd hmixed h)
        rintro rfl
        exact hne hmarks
      · exact .inr h
    · rintro (h | h)
      · refine ⟨h.ne, ?_⟩
        rcases h with ⟨hne, hall, -⟩ | ⟨ds, hmarks, -, hd, -, h⟩
        · exact absurd (Numeral.isDecimal_iff.mpr ⟨hne, hall⟩) hdecimal
        · exact .inl ⟨ds, hmarks, hd, h⟩
      · exact ⟨h.ne, .inr h⟩

/-- **The grammar alone does not tell what is read:** `x12` is read as eighteen. -/
theorem not_parse_denotes :
    ¬ ∀ text c, parse text = .ok c → Denotes text.toList c.value.toNat := by
  intro h
  have hmem : ∀ ds, Hex.Marks ds "x12".toList → 'x' ∈ ds := by
    rintro ds (rfl | hmarks)
    · decide
    · cases hmarks
  rcases h "x12" ⟨18⟩ rfl with ⟨-, hall, -⟩ | ⟨ds, hmarks, -, hall, -⟩
  · exact absurd (hall 'x' (by decide)) (by decide)
  · exact absurd (hall 'x' (hmem ds hmarks)) (by decide)

end ChainId

end OrderDesk
