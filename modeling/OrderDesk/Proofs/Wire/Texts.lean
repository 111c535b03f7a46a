import OrderDesk.Clearing.Request
import OrderDesk.Clearing.Approval
import OrderDesk.Proofs.Json.Lexemes

/-!
# Proofs/Wire/Texts — keys, addresses, assets and amounts are read back from their texts

A written text is at full width, so that nothing is filled up when it is read.  Assets share one
reading: what is written for an index is digits alone, and what is written for an address has an `@`.
-/

namespace OrderDesk

/-! ## Bytes -/

namespace FixedBytes

variable {n : Nat} (bytes : FixedBytes n)

theorem ofList?_eq {list : List UInt8} (h : list = bytes.toList) : ofList? list = some bytes := by
  subst h
  exact dif_pos bytes.length_eq

/-- Bytes at full width are not filled up, in front… -/
theorem padLeft?_toList : padLeft? bytes.toList = some bytes := by
  refine bytes.ofList?_eq ?_
  rw [bytes.length_eq, Nat.sub_self, List.replicate_zero, List.nil_append]

/-- …nor behind. -/
theorem padRight?_toList : padRight? bytes.toList = some bytes := by
  refine bytes.ofList?_eq ?_
  rw [bytes.length_eq, Nat.sub_self, List.replicate_zero, List.append_nil]

end FixedBytes

namespace Bytes

theorem toNat_append (bytes : List UInt8) (b : UInt8) :
    toNat (bytes ++ [b]) = 256 * toNat bytes + b.toNat := by
  rw [toNat, List.foldl_append]
  rfl

/-- **A number is read back from its bytes.** -/
theorem toNat_ofNat {width n : Nat} (h : n < Nat.pow 256 width) : toNat (ofNat width n) = n := by
  induction width generalizing n with
  | zero =>
    have : n = 0 := by
      change n < 1 at h
      omega
    rw [this]
    rfl
  | succ width ih =>
    have hdiv : n / 256 < Nat.pow 256 width := by
      rw [Nat.div_lt_iff_lt_mul (by decide)]
      exact h
    have hbyte : (UInt8.ofNat n).toNat = n % 256 := UInt8.toNat_ofNat'
    have hsplit : ofNat (width + 1) n = ofNat width (n / 256) ++ [UInt8.ofNat n] := by
      rw [ofNat, ofNatLittle, List.reverse_cons]
      rfl
    rw [hsplit, toNat_append, ih hdiv, hbyte]
    omega

end Bytes

/-- Bytes are read back from their digits. -/
theorem decodeHex_encode (bytes : List UInt8) : decodeHex (Hex.encode bytes) = .ok bytes := by
  have hall : ∀ c ∈ Hex.encode bytes, Hex.isDigit c = true := fun _ hc =>
    Hex.isDigit_of_mem_encode hc
  simp only [decodeHex, Hex.dropMarker_of_isDigit hall, Hex.decode_encode]

theorem readHexText_marked (bytes : List UInt8) :
    readHexText ("0x" ++ Hex.text bytes) = .ok bytes := by
  have hdigits : Hex.dropAnyMarker ("0x" ++ Hex.text bytes).toList = Hex.encode bytes := by
    have htext : (Hex.text bytes).toList = Hex.encode bytes := String.toList_ofList
    rw [String.toList_append, htext]
    rfl
  simp only [readHexText, Hex.decode_encode_of_dropAnyMarker hdigits]

/-! ## Keys -/

/-- **A key is read back from its text.** -/
theorem PublicKey.parse_text (k : PublicKey) : parse k.text = .ok k := by
  have hbytes : ofByteList k.bytes.toList = .ok k := by
    rw [ofByteList, padLeft, FixedBytes.padLeft?_toList]
    rfl
  rw [parse, text, Hex.text, String.toList_ofList, decodeHex_encode]
  exact hbytes

/-! ## Chains and addresses -/

/-- A chain id is read back from its bytes. -/
theorem ChainId.ofBytes_toBytes (c : ChainId) : ofBytes c.toBytes = c := by
  have h : Bytes.toNat (Bytes.ofNat 8 c.value.toNat) = c.value.toNat :=
    Bytes.toNat_ofNat c.value.toNat_lt
  rw [ofBytes, toBytes, h, UInt64.ofNat_toNat]

namespace RoutedChain

theorem ofBytes_toBytes (c : RoutedChain) : ofBytes c.toBytes = c := by
  obtain ⟨routing, chain⟩ := c
  exact congrArg (RoutedChain.mk routing) chain.ofBytes_toBytes

theorem ofByteList_toBytes (c : RoutedChain) : ofByteList c.toBytes.toList = .ok c := by
  simp only [ofByteList, FixedBytes.padLeft?_toList, ofBytes_toBytes]

/-- **A routed chain is read back from its text.** -/
theorem parse_text (c : RoutedChain) : parse c.text = .ok c := by
  have hall : ∀ c' ∈ Hex.encode c.toBytes.toList, Hex.isDigit c' = true := fun _ hc =>
    Hex.isDigit_of_mem_encode hc
  have hlength : Hex.byteLength (Hex.encode c.toBytes.toList) = 2 * width := by
    rw [Hex.byteLength_of_isDigit hall, Hex.length_encode, c.toBytes.length_eq]
    rfl
  rw [parse, text, Hex.text, String.toList_ofList, Hex.dropMarker_of_isDigit hall, if_pos hlength,
    decodeHex_encode]
  exact c.ofByteList_toBytes

end RoutedChain

namespace ChainAddress

/-- The text of an address is cut at its `@`. -/
theorem splitAt?_digits (bytes : List UInt8) (chain : List Char) :
    splitAt? (Hex.encode bytes ++ '@' :: chain) = some (Hex.encode bytes, chain) := by
  have hall : ∀ c ∈ Hex.encode bytes, (c ≠ '@' : Bool) = true := by
    intro c hc
    have hdigit := Hex.isDigit_of_mem_encode hc
    rw [decide_eq_true_eq]
    rintro rfl
    exact absurd hdigit (by decide)
  rw [splitAt?, List.dropWhile_append_of_pos hall, List.takeWhile_append_of_pos hall]
  simp

theorem padAddress_toList (address : FixedBytes 32) : padAddress address.toList = .ok address := by
  rw [padAddress, FixedBytes.padRight?_toList]

theorem toList_text (a : ChainAddress) :
    a.text.toList = Hex.encode a.address.toList ++ '@' :: a.chain.text.toList := by
  rw [text, String.toList_append, String.toList_append, Hex.text, String.toList_ofList,
    List.append_assoc]
  rfl

/-- **An address is read back from its text.** -/
theorem parse_text (a : ChainAddress) : parse a.text = .ok a := by
  have hall : ∀ c ∈ Hex.encode a.address.toList, Hex.isDigit c = true := fun _ hc =>
    Hex.isDigit_of_mem_encode hc
  have hempty : ¬ (Hex.encode a.address.toList).isEmpty = true := by
    rw [List.isEmpty_iff_length_eq_zero, Hex.length_encode, a.address.length_eq]
    decide
  have hpad : (Except.ok a.address.toList >>= padAddress) = .ok a.address :=
    padAddress_toList a.address
  simp only [parse, a.toList_text, splitAt?_digits, Hex.dropMarker_of_isDigit hall, if_neg hempty,
    String.ofList_toList, RoutedChain.parse_text, decodeHex_encode, hpad]
  rfl

end ChainAddress

/-! ## Numerals -/

namespace Numeral

theorem isDecimal_iff {cs : List Char} :
    isDecimal cs = true ↔ cs ≠ [] ∧ ∀ c ∈ cs, isDigit c = true := by
  rw [isDecimal, Bool.and_eq_true, Bool.not_eq_true', List.isEmpty_eq_false_iff, List.all_eq_true]

/-- Zeros in front of digits are digits too. -/
theorem isDecimal_replicate_append (k n : Nat) :
    isDecimal (List.replicate k '0' ++ Nat.toDigits 10 n) = true := by
  refine isDecimal_iff.mpr ⟨List.append_ne_nil_of_right_ne_nil _ Nat.toDigits_ne_nil, fun c hc => ?_⟩
  rcases List.mem_append.mp hc with hc | hc
  · rw [List.eq_of_mem_replicate hc]
    rfl
  · exact isDigit_of_mem_toDigits hc

/-- **A number is read back from its decimal numeral,** behind any number of zeros. -/
theorem decimal?_replicate_append (k n : Nat) :
    decimal? (List.replicate k '0' ++ Nat.toDigits 10 n) = some n := by
  rw [decimal?, if_pos (isDecimal_replicate_append k n), Nat.ofDigitChars_append,
    Nat.ofDigitChars_replicate_zero, Nat.mul_zero, Nat.ofDigitChars_toDigits (by decide) (by decide)]

theorem decimal?_toDigits (n : Nat) : decimal? (Nat.toDigits 10 n) = some n :=
  decimal?_replicate_append 0 n

/-- A text with a character that is no digit is no decimal numeral. -/
theorem decimal?_eq_none {cs : List Char} {c : Char} (hc : c ∈ cs) (h : isDigit c = false) :
    decimal? cs = none := by
  rw [decimal?, if_neg]
  rw [isDecimal_iff]
  rintro ⟨-, hall⟩
  exact absurd (hall c hc) (by simp [h])

end Numeral

/-! ## Assets -/

/-- **An asset is read back from its text.** -/
theorem Asset.parse_text (a : Asset) : parse a.text = .ok a := by
  cases a with
  | index n =>
    have hlt : n.toNat < Nat.pow 2 64 := n.toNat_lt
    simp only [parse, text, Numeral.decimal, String.toList_ofList, Numeral.decimal?_toDigits,
      if_pos hlt, UInt64.ofNat_toNat]
  | address a =>
    have hat : '@' ∈ a.text.toList := by
      rw [a.toList_text]
      exact List.mem_append_right _ List.mem_cons_self
    have hcontains : a.text.toList.contains '@' = true := List.contains_iff_mem.mpr hat
    simp only [parse, text, Numeral.decimal?_eq_none hat (by decide), if_pos hcontains,
      ChainAddress.parse_text]
    rfl

/-! ## Amounts -/

namespace Amount

theorem value?_digitChar : ∀ n < 16, Hex.value? (Nat.digitChar n) = some n := by decide

/-- The digits of a number are sixteen. -/
theorem exists_digitChar_of_mem_toDigits {n : Nat} {c : Char} (h : c ∈ Nat.toDigits 16 n) :
    ∃ m < 16, c = Nat.digitChar m := by
  induction n using Nat.strongRecOn with
  | _ n ih =>
    by_cases hn : n < 16
    · rw [Nat.toDigits_of_lt_base hn] at h
      exact ⟨n, hn, List.mem_singleton.mp h⟩
    · rw [Nat.toDigits_of_base_le (by decide) (by omega), List.mem_append] at h
      rcases h with h | h
      · exact ih (n / 16) (by omega) h
      · exact ⟨n % 16, Nat.mod_lt _ (by decide), List.mem_singleton.mp h⟩

theorem isDigit_of_mem_toDigits {n : Nat} {c : Char} (h : c ∈ Nat.toDigits 16 n) :
    Hex.isDigit c = true := by
  obtain ⟨m, hm, rfl⟩ := exists_digitChar_of_mem_toDigits h
  rw [Hex.isDigit, value?_digitChar m hm]
  rfl

/-- **Digits extend a number by the number that they denote.** -/
theorem readDigits_append {a b : Amount} {cs ds : List Char} (h : readDigits a cs = .ok b) :
    readDigits a (cs ++ ds) = readDigits b ds := by
  induction cs generalizing a with
  | nil =>
    rw [readDigits] at h
    rw [List.nil_append, Except.ok.inj h]
  | cons c cs ih =>
    rw [List.cons_append, readDigits]
    rw [readDigits] at h
    split at h
    next => cases h
    next d hd =>
      split at h
      next => cases h
      next a' ha' =>
        exact ih h

theorem readDigits_toDigits {n : Nat} (h : n < Nat.pow 2 128) :
    readDigits default (Nat.toDigits 16 n) = .ok ⟨n, h⟩ := by
  induction n using Nat.strongRecOn with
  | _ n ih =>
    have hlast : ∀ a : Amount, 16 * a.val + n % 16 = n →
        readDigits a [Nat.digitChar (n % 16)] = .ok ⟨n, h⟩ := by
      intro a ha
      rw [readDigits, value?_digitChar _ (Nat.mod_lt _ (by decide))]
      simp only [ofNat?, ha, dif_pos h]
      rfl
    by_cases hn : n < 16
    · rw [Nat.toDigits_of_lt_base hn]
      have := hlast default (by rw [Nat.mod_eq_of_lt hn]; exact Nat.zero_add n)
      rwa [Nat.mod_eq_of_lt hn] at this
    · have hdiv : n / 16 < Nat.pow 2 128 := Nat.lt_of_le_of_lt (Nat.div_le_self _ _) h
      rw [Nat.toDigits_of_base_le (by decide) (by omega),
        readDigits_append (ih (n / 16) (by omega) hdiv)]
      exact hlast _ (Nat.div_add_mod n 16)

theorem readNumeral_toDigits (a : Amount) : readNumeral (Nat.toDigits 16 a.val) = .ok a := by
  have hsign : ∀ cs, Nat.toDigits 16 a.val ≠ '+' :: cs := by
    intro cs heq
    have hplus := isDigit_of_mem_toDigits (n := a.val) (c := '+') (by rw [heq]; simp)
    exact absurd hplus (by decide)
  have hread := readDigits_toDigits a.lt
  unfold readNumeral
  split
  next heq => exact absurd heq Nat.toDigits_ne_nil
  next heq => exact absurd heq (hsign _)
  next heq => exact absurd heq (hsign _)
  next => exact hread

theorem toList_bareText (a : Amount) : a.bareText.toList = Nat.toDigits 16 a.val :=
  String.toList_ofList

/-- A text whose digits are an amount's is read as the amount. -/
theorem parse_of_dropMarker {a : Amount} {s : String}
    (h : Hex.dropMarker s.toList = Nat.toDigits 16 a.val) : parse s = .ok a := by
  have hempty : ¬ (Nat.toDigits 16 a.val).isEmpty = true := by
    rw [List.isEmpty_iff]
    exact Nat.toDigits_ne_nil
  simp only [parse, h, if_neg hempty, readNumeral_toDigits]

/-- **An amount is read back from its text, bare…** -/
theorem parse_bareText (a : Amount) : parse a.bareText = .ok a := by
  refine parse_of_dropMarker ?_
  rw [toList_bareText]
  exact Hex.dropMarker_of_isDigit fun c hc => isDigit_of_mem_toDigits hc

/-- **…and with a prefix.** -/
theorem parse_prefixedText (a : Amount) : parse a.prefixedText = .ok a := by
  refine parse_of_dropMarker ?_
  rw [prefixedText, String.toList_append, toList_bareText]
  rfl

end Amount

end OrderDesk
