import OrderDesk.Amount.Rescale
import OrderDesk.Proofs.Identifier.Spellings

/-!
# Proofs/Amount/Numeral — which texts are amounts, and of which number

    0x ⌢ digits          0x ⌢ + ⌢ digits

An amount is spelled by digits behind an optional `0x`, and is the number that they denote, any zeros
in front included.  A number is too large as soon as the digits so far denote one that is, as more
digits never make it smaller (`le_foldl_extend`), so that reading takes exactly the digits of an amount
(`readDigits_eq_ok_iff`).  Beyond this grammar one plus sign is passed over before the digits
(`parse_eq_ok_iff`).
-/

namespace OrderDesk

open Json (Codec)

variable {cs ds : List Char} {n : Nat}

/-! ## Numbers that digits extend -/

/-- More digits do not make a number smaller. -/
theorem Hex.le_foldl_extend : ∀ (ds : List Char) (n : Nat), n ≤ ds.foldl extend n
  | [], n => Nat.le_refl n
  | c :: ds, n => by
      have hstep : n ≤ extend n c := by
        rw [extend]
        omega
      exact Nat.le_trans hstep (le_foldl_extend ds (extend n c))

namespace Amount

variable {a b : Amount} {s : String}

/-- **Reading takes the digits of an amount,** and nothing else. -/
theorem readDigits_eq_ok_iff : readDigits a ds = .ok b
    ↔ (∀ c ∈ ds, Hex.isDigit c = true) ∧ ds.foldl Hex.extend a.val = b.val := by
  induction ds generalizing a with
  | nil => simp [readDigits, Amount.ext_iff]
  | cons c ds ih =>
    rw [readDigits, List.forall_mem_cons, List.foldl_cons]
    split
    · next hc => simp [Hex.isDigit, hc]
    · next d hc =>
      have hdigit : Hex.isDigit c = true := by
        rw [Hex.isDigit, hc]
        rfl
      have hextend : Hex.extend a.val c = 16 * a.val + d := by
        rw [Hex.extend, hc]
        rfl
      rw [and_iff_right hdigit, hextend]
      split
      · next hn =>
        -- a number that is too large stays so
        refine iff_of_false (by simp) ?_
        rintro ⟨-, heq⟩
        have hle := Nat.le_trans (ofNat?_eq_none_iff.mp hn) (Hex.le_foldl_extend ds _)
        exact Nat.not_lt_of_le (heq ▸ hle) b.lt
      · next a' hn =>
        rw [← ofNat?_eq_some_iff.mp hn]
        exact ih

/-! ## Numerals with and without a sign -/

/-- **A numeral with a sign,** behind an optional `0x`, and its number. -/
def Spelled (sign cs : List Char) (n : Nat) : Prop :=
  ∃ ds, Hex.Marks (sign ++ ds) cs ∧ ds ≠ [] ∧ (∀ c ∈ ds, Hex.isDigit c = true) ∧ n = Hex.number ds

/-- **The grammar of amounts:** one or more digits behind an optional `0x`, with their number. -/
def Denotes (cs : List Char) (n : Nat) : Prop := Spelled [] cs n

/-- **Amounts beyond the grammar:** a plus sign stands before the digits. -/
def Signed (cs : List Char) (n : Nat) : Prop := Spelled ['+'] cs n

theorem readNumeral_of_digits (hd : ∀ c ∈ ds, Hex.isDigit c = true) (hne : ds ≠ []) :
    readNumeral ds = readDigits default ds := by
  unfold readNumeral
  split
  · next => exact absurd rfl hne
  · next => exact absurd (hd '+' (by simp)) (by decide)
  · next => exact absurd (hd '+' (by simp)) (by decide)
  · next => rfl

theorem readNumeral_signed (hne : ds ≠ []) : readNumeral ('+' :: ds) = readDigits default ds := by
  unfold readNumeral
  split
  · next heq => cases heq
  · next heq => exact absurd (List.cons.inj heq).2 hne
  · next heq => rw [(List.cons.inj heq).2]
  · next hplus => exact absurd rfl (hplus ds)

/-- **What is read of a numeral:** digits, also behind one plus sign. -/
theorem readNumeral_eq_ok_iff : readNumeral cs = .ok a
    ↔ ∃ sign ∈ [[], ['+']], ∃ ds, cs = sign ++ ds ∧ ds ≠ [] ∧ (∀ c ∈ ds, Hex.isDigit c = true)
      ∧ a.val = Hex.number ds := by
  constructor
  · intro h
    unfold readNumeral at h
    split at h
    · contradiction
    · contradiction
    · next ds hne =>
      obtain ⟨hd, hn⟩ := readDigits_eq_ok_iff.mp h
      refine ⟨['+'], by simp, ds, rfl, ?_, hd, hn.symm⟩
      rintro rfl
      exact hne rfl
    · next hne _ _ =>
      obtain ⟨hd, hn⟩ := readDigits_eq_ok_iff.mp h
      exact ⟨[], by simp, cs, rfl, hne, hd, hn.symm⟩
  · rintro ⟨sign, hsign, ds, rfl, hne, hd, hn⟩
    have hread : readDigits default ds = .ok a := readDigits_eq_ok_iff.mpr ⟨hd, hn.symm⟩
    rcases List.mem_pair.mp hsign with rfl | rfl
    · exact (readNumeral_of_digits hd hne).trans hread
    · exact (readNumeral_signed hne).trans hread

/-- Behind an optional `0x` stands what is left without it. -/
theorem marks_signed_iff {sign : List Char} (hsign : sign ∈ [[], ['+']])
    (hd : ∀ c ∈ ds, Hex.isDigit c = true) :
    Hex.Marks (sign ++ ds) cs ↔ Hex.dropMarker cs = sign ++ ds := by
  have hmarker : ∀ m ∈ [[], ['+']], ¬ ['0', 'x'] <+: m := by decide
  rw [Hex.dropMarker_eq_append_iff hd, and_iff_left (hmarker sign hsign), Hex.Marks, or_comm]

/-- **What is read of a text:** the numerals of the grammar, and those with a plus sign. -/
theorem parse_eq_ok_iff :
    parse s = .ok a ↔ Denotes s.toList a.val ∨ Signed s.toList a.val := by
  have hparse : parse s = .ok a ↔ readNumeral (Hex.dropMarker s.toList) = .ok a := by
    simp only [parse]
    split
    · next hnone =>
      rw [List.isEmpty_iff.mp hnone]
      exact iff_of_false (by simp) (by simp [readNumeral])
    · next => split <;> simp_all
  have hsigns : ∀ P : List Char → Prop, (∃ sign ∈ [[], ['+']], P sign) ↔ P [] ∨ P ['+'] := by simp
  rw [hparse, readNumeral_eq_ok_iff, Denotes, Signed, ← hsigns fun sign => Spelled sign _ _]
  constructor
  · rintro ⟨sign, hsign, ds, hdrop, hne, hd, hn⟩
    exact ⟨sign, hsign, ds, (marks_signed_iff hsign hd).mpr hdrop, hne, hd, hn⟩
  · rintro ⟨sign, hsign, ds, hmarks, hne, hd, hn⟩
    exact ⟨sign, hsign, ds, (marks_signed_iff hsign hd).mp hmarks, hne, hd, hn⟩

/-- A numeral with a plus sign is none of the grammar. -/
theorem Signed.not_denotes {m : Nat} (h : Signed cs n) : ¬ Denotes cs m := by
  rintro ⟨ds, hmarks, -, hd, -⟩
  obtain ⟨ds', hmarks', -, hd', -⟩ := h
  have hdrop := (marks_signed_iff (by simp) hd).mp hmarks
  rw [(marks_signed_iff (by simp) hd').mp hmarks'] at hdrop
  exact absurd (hd '+' (by rw [← List.nil_append ds, ← hdrop]; simp)) (by decide)

/-! ## What is written -/

/-- The digits that are written for a number are digits of it. -/
theorem isDigits_toDigits (n : Nat) : Hex.IsDigits n (Nat.toDigits 16 n) := by
  have hlower : ∀ m < 16, (Nat.digitChar m).toLower = Nat.digitChar m := by decide
  refine ⟨0, _, rfl, (List.map_congr_left fun c hc => ?_).trans (List.map_id _)⟩
  obtain ⟨m, hm, rfl⟩ := exists_digitChar_of_mem_toDigits hc
  exact hlower m hm

/-- What is written is of the grammar, bare… -/
theorem denotes_bareText (a : Amount) : Denotes a.bareText.toList a.val := by
  have hdigits := isDigits_toDigits a.val
  rw [toList_bareText]
  exact ⟨_, .inl rfl, hdigits.ne_nil, hdigits.isDigit, hdigits.number_eq.symm⟩

/-- …and with a prefix. -/
theorem denotes_prefixedText (a : Amount) : Denotes a.prefixedText.toList a.val := by
  have hdigits := isDigits_toDigits a.val
  rw [prefixedText, String.toList_append, toList_bareText]
  exact ⟨_, .inr rfl, hdigits.ne_nil, hdigits.isDigit, hdigits.number_eq.symm⟩

/-! ## Amounts in JSON -/

/-- **What a codec makes of texts:** it takes the numerals of amounts, those with a plus sign included,
and what is written, bare or with a prefix, is a numeral of the grammar that it takes back. -/
structure TakesNumerals (c : Codec Amount) : Prop where
  /-- A text, inside a document of either origin and by itself. -/
  text : ∀ s : String, ∃ r, (∀ o, c.decode o (.string s) = r) ∧ c.Takes (.string s) r
    ∧ ∀ a, r = .ok a ↔ Denotes s.toList a.val ∨ Signed s.toList a.val
  /-- What is written bare. -/
  bare : ∀ a, ∃ s : String, bareCodec.encode a = .string s ∧ Denotes s.toList a.val
    ∧ c.Takes (.string s) (.ok a)
  /-- What is written with a prefix. -/
  marked : ∀ a, ∃ s : String, prefixedCodec.encode a = .string s ∧ Denotes s.toList a.val
    ∧ c.Takes (.string s) (.ok a)

/-- All codecs that read a text as a numeral take it alike. -/
theorem takesNumerals {c : Codec Amount} (h : ∀ o s, c.decode o (.string s) = parse s) :
    TakesNumerals c where
  text s := ⟨parse s, fun o => h o s, Codec.takes_string fun o => h o s, fun _ => parse_eq_ok_iff⟩
  bare a := ⟨a.bareText, rfl, a.denotes_bareText,
    Codec.takes_string fun o => (h o _).trans a.parse_bareText⟩
  marked a := ⟨a.prefixedText, rfl, a.denotes_prefixedText,
    Codec.takes_string fun o => (h o _).trans a.parse_prefixedText⟩

/-- **Which texts are amounts, and of which number:** in either spelling, the texts of the grammar, and
those with one plus sign before the digits, up to 128 bits; each of them as the number that its digits
denote.  What is written in either spelling is taken back in both. -/
theorem codecs_takeNumerals {c : Codec Amount} (hc : c ∈ [prefixedCodec, bareCodec]) :
    TakesNumerals c := by
  rcases List.mem_pair.mp hc with rfl | rfl
  · exact takesNumerals fun _ _ => rfl
  · exact takesNumerals fun _ _ => rfl

/-- Zeros in front are passed over, and so is a prefix where none is written. -/
theorem codecs_takeNumerals_zeros : bareCodec ∈ [prefixedCodec, bareCodec]
    ∧ ∀ o, bareCodec.decode o (.string "0x00f") = .ok ⟨15, by decide⟩ := by
  have hbare : bareCodec ∈ [prefixedCodec, bareCodec] := by simp
  have hdigits : ∀ c ∈ ['0', '0', 'f'], Hex.isDigit c = true := List.all_eq_true.mp rfl
  have hdenotes : Denotes "0x00f".toList 15 := ⟨['0', '0', 'f'], .inr rfl, by simp, hdigits, rfl⟩
  obtain ⟨r, hdecode, -, htaken⟩ := (codecs_takeNumerals hbare).text "0x00f"
  exact ⟨hbare, fun o => (hdecode o).trans ((htaken ⟨15, by decide⟩).mpr (.inl hdenotes))⟩

/-- **The grammar alone does not tell what is read:** `+1` is read as one. -/
theorem not_codecs_takeGrammar :
    ¬ ∀ o s a, prefixedCodec.decode o (.string s) = .ok a → Denotes s.toList a.val := by
  intro h
  have hdigit : ∀ c ∈ ['1'], Hex.isDigit c = true := List.all_eq_true.mp rfl
  have hsigned : Signed "+1".toList 1 := ⟨['1'], .inl rfl, by simp, hdigit, rfl⟩
  exact hsigned.not_denotes (h .text "+1" ⟨1, by decide⟩ rfl)

end Amount

end OrderDesk
