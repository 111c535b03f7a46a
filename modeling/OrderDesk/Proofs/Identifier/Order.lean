import OrderDesk.Proofs.Identifier.Forms

/-!
# Proofs/Identifier/Order — the order of addresses is that of their canonical texts

    address ⌢ routing id ⌢ number ──▸ 41 bytes ──▸ 82 digits around an `@`

A digit of a greater value is a greater character, and all codes of a byte are of one length, so that
digits are ordered as their bytes are (`flatMap_lt_flatMap_iff`).  Bytes of one length are ordered as
their numbers are, so that the nine bytes of a chain are ordered by its routing id and then its number.
Both sides meet in the number of all 41 bytes, the *rank* (`before_iff_rank`, `text_lt_text_iff`), by
which addresses are sorted.
-/

namespace OrderDesk

/-! ## Lists in lexicographic order -/

namespace Lexicographic

section Codes

variable {α β : Type} [LT α] [LT β] {as bs cs ds : List α}

/-- Between lists that begin with parts of one length, the first difference is in these parts or
behind them. -/
theorem append_lt_append_iff (h : as.length = bs.length) :
    as ++ cs < bs ++ ds ↔ as < bs ∨ as = bs ∧ cs < ds := by
  induction as generalizing bs with
  | nil =>
    rw [List.eq_nil_of_length_eq_zero h.symm]
    simp
  | cons a as ih =>
    obtain ⟨b, bs, rfl⟩ := List.exists_cons_of_length_eq_add_one h.symm
    rw [List.cons_append, List.cons_append, List.cons_lt_cons_iff, List.cons_lt_cons_iff,
      ih (Nat.succ.inj h), List.cons.injEq]
    tauto

/-- **Codes of one length that keep an order keep that of lists.** -/
theorem flatMap_lt_flatMap_iff {f : α → List β} (hne : ∀ x, f x ≠ [])
    (hlength : ∀ x y, (f x).length = (f y).length) (hlt : ∀ x y, f x < f y ↔ x < y)
    (hinj : ∀ x y, f x = f y → x = y) : as.flatMap f < bs.flatMap f ↔ as < bs := by
  induction as generalizing bs with
  | nil =>
    cases bs with
    | nil => simp
    | cons b bs =>
      obtain ⟨c, cs, hcode⟩ := List.exists_cons_of_ne_nil (hne b)
      simp [hcode]
  | cons a as ih =>
    cases bs with
    | nil => simp
    | cons b bs =>
      rw [List.flatMap_cons, List.flatMap_cons, append_lt_append_iff (hlength a b), hlt, ih,
        List.cons_lt_cons_iff]
      exact or_congr_right (and_congr_left' ⟨hinj a b, congrArg f⟩)

end Codes

section Repetitions

variable {α : Type}

-- the loop carries what it has passed over from its end
theorem eraseRepsBy_loop (r : α → α → Bool) (a : α) (as acc : List α) :
    List.eraseRepsBy.loop r a as acc = acc.reverse ++ List.eraseRepsBy.loop r a as [] := by
  induction as generalizing a acc with
  | nil => simp [List.eraseRepsBy.loop]
  | cons b as ih =>
    simp only [List.eraseRepsBy.loop]
    split
    · exact ih a acc
    · rw [ih b (a :: acc), ih b [a]]
      simp

variable [BEq α]

theorem eraseReps_cons_cons (a b : α) (as : List α) : (a :: b :: as).eraseReps
    = if a == b then (a :: as).eraseReps else a :: (b :: as).eraseReps := by
  simp only [List.eraseReps, List.eraseRepsBy, List.eraseRepsBy.loop]
  cases a == b
  · exact eraseRepsBy_loop _ b as [a]
  · rfl

variable [LawfulBEq α] {x : α}

theorem mem_eraseReps : ∀ {as : List α}, x ∈ as.eraseReps ↔ x ∈ as
  | [] => Iff.rfl
  | [_] => Iff.rfl
  | a :: b :: as => by
      rw [eraseReps_cons_cons]
      split
      · next h =>
        rw [mem_eraseReps, eq_of_beq h]
        simp
      · rw [List.mem_cons, mem_eraseReps, List.mem_cons (a := x) (b := a)]

/-- **Without repetitions, what does not decrease increases.** -/
theorem pairwise_eraseReps {f : α → Nat} (hinj : ∀ x y, f x = f y → x = y) :
    ∀ {as : List α}, as.Pairwise (f · ≤ f ·) → as.eraseReps.Pairwise (f · < f ·)
  | [], _ => .nil
  | [_], _ => List.pairwise_singleton _ _
  | a :: b :: as, h => by
      obtain ⟨ha, hrest⟩ := List.pairwise_cons.mp h
      rw [eraseReps_cons_cons]
      split
      · next heq =>
        rw [eq_of_beq heq]
        exact pairwise_eraseReps hinj hrest
      · next hne =>
        have hlt : f a < f b :=
          Nat.lt_of_le_of_ne (ha b List.mem_cons_self) fun heq => hne (by simp [hinj a b heq])
        refine List.pairwise_cons.mpr ⟨fun x hx => ?_, pairwise_eraseReps hinj hrest⟩
        rcases List.mem_cons.mp (mem_eraseReps.mp hx) with rfl | hx
        · exact hlt
        · exact Nat.lt_of_lt_of_le hlt ((List.pairwise_cons.mp hrest).1 x hx)

end Repetitions

end Lexicographic

open Lexicographic

/-! ## Bytes -/

namespace Bytes

variable {as bs : List UInt8} {m n width : Nat}

theorem eq_of_toNat (hlength : as.length = bs.length) (h : toNat as = toNat bs) : as = bs := by
  rw [← ofNat_toNat as, ← ofNat_toNat bs, hlength, h]

/-- **Bytes of one length are ordered as their numbers.** -/
theorem lt_iff_toNat_lt (hlength : as.length = bs.length) : as < bs ↔ toNat as < toNat bs := by
  induction as using List.reverseRecOn generalizing bs with
  | nil =>
    rw [List.eq_nil_of_length_eq_zero hlength.symm]
    simp
  | append_singleton as a ih =>
    obtain rfl | ⟨bs, b, rfl⟩ := bs.eq_nil_or_concat'
    · simp at hlength
    · have hlength : as.length = bs.length := by simpa using hlength
      have heq : as = bs ↔ toNat as = toNat bs := ⟨congrArg toNat, eq_of_toNat hlength⟩
      have hsingle : [a] < [b] ↔ a.toNat < b.toNat := by
        simp [List.cons_lt_cons_iff, UInt8.lt_iff_toNat_lt]
      have ha := a.toNat_lt
      have hb := b.toNat_lt
      rw [append_lt_append_iff hlength, ih hlength, heq, hsingle, toNat_append, toNat_append]
      omega

theorem ofNat_lt_ofNat_iff (hm : m < Nat.pow 256 width) (hn : n < Nat.pow 256 width) :
    ofNat width m < ofNat width n ↔ m < n := by
  rw [lt_iff_toNat_lt (by rw [length_ofNat, length_ofNat]), toNat_ofNat hm, toNat_ofNat hn]

theorem ofString_append (s t : String) : ofString (s ++ t) = ofString s ++ ofString t := by
  rw [ofString, String.toList_append, List.flatMap_append]
  rfl

end Bytes

/-! ## Digits -/

namespace Hex

/-- The bytes of the two digits of a byte. -/
def code (b : UInt8) : List UInt8 := (ofByte b).flatMap String.utf8EncodeChar

theorem ofString_text (bytes : List UInt8) : Bytes.ofString (text bytes) = bytes.flatMap code := by
  rw [Bytes.ofString, text, String.toList_ofList, encode, List.flatMap_assoc]
  rfl

/-- A digit of a greater value is a greater byte. -/
theorem utf8EncodeChar_digit_lt_iff : ∀ m < 16, ∀ n < 16,
    String.utf8EncodeChar (digit m) < String.utf8EncodeChar (digit n) ↔ m < n := by decide +kernel

theorem utf8EncodeChar_digit_inj : ∀ m < 16, ∀ n < 16,
    String.utf8EncodeChar (digit m) = String.utf8EncodeChar (digit n) ↔ m = n := by decide +kernel

theorem length_utf8EncodeChar_digit : ∀ n < 16,
    (String.utf8EncodeChar (digit n)).length = 1 := by decide +kernel

section Code

variable (b b' : UInt8)

theorem code_eq : code b = String.utf8EncodeChar (digit (b.toNat / 16))
    ++ String.utf8EncodeChar (digit (b.toNat % 16)) := by
  simp [code, ofByte]

theorem length_code : (code b).length = 2 := by
  have hb := b.toNat_lt
  rw [code_eq, List.length_append, length_utf8EncodeChar_digit _ (by omega),
    length_utf8EncodeChar_digit _ (by omega)]

theorem code_lt_code_iff : code b < code b' ↔ b < b' := by
  have hb := b.toNat_lt
  have hb' := b'.toNat_lt
  have hhigh : b.toNat / 16 < 16 ∧ b'.toNat / 16 < 16 := by omega
  have hlow : b.toNat % 16 < 16 ∧ b'.toNat % 16 < 16 := by omega
  have hlength : (String.utf8EncodeChar (digit (b.toNat / 16))).length
      = (String.utf8EncodeChar (digit (b'.toNat / 16))).length := by
    rw [length_utf8EncodeChar_digit _ hhigh.1, length_utf8EncodeChar_digit _ hhigh.2]
  rw [code_eq, code_eq, append_lt_append_iff hlength,
    utf8EncodeChar_digit_lt_iff _ hhigh.1 _ hhigh.2, utf8EncodeChar_digit_inj _ hhigh.1 _ hhigh.2,
    utf8EncodeChar_digit_lt_iff _ hlow.1 _ hlow.2, UInt8.lt_iff_toNat_lt]
  omega

theorem code_ne_nil : code b ≠ [] := List.ne_nil_of_length_pos (by rw [length_code]; decide)

theorem code_inj (h : code b = code b') : b = b' := by
  have hnot : ∀ x y, code x = code y → ¬ x < y := fun x y hcode hlt =>
    List.lt_irrefl (code y) (hcode ▸ (code_lt_code_iff x y).mpr hlt)
  have hle := hnot b b' h
  have hge := hnot b' b h.symm
  rw [UInt8.lt_iff_toNat_lt] at hle hge
  exact UInt8.toNat_inj.mp (by omega)

end Code

/-- **Digits are ordered as their bytes.** -/
theorem ofString_text_lt_iff {as bs : List UInt8} :
    Bytes.ofString (text as) < Bytes.ofString (text bs) ↔ as < bs := by
  rw [ofString_text, ofString_text]
  exact flatMap_lt_flatMap_iff code_ne_nil (fun x y => by rw [length_code, length_code])
    code_lt_code_iff code_inj

theorem ofString_text_inj {as bs : List UInt8} :
    Bytes.ofString (text as) = Bytes.ofString (text bs) ↔ as = bs := by
  refine Bytes.ofString_inj.trans ⟨fun h => ?_, congrArg text⟩
  have hdigits := congrArg (bytes? ·.toList) h
  simpa only [text, String.toList_ofList, bytes?_encode, Option.some.injEq] using hdigits

theorem length_ofString_text (bytes : List UInt8) :
    (Bytes.ofString (text bytes)).length = 2 * bytes.length := by
  rw [ofString_text, List.length_flatMap]
  simp [length_code, Nat.mul_comm]

end Hex

/-! ## Chains and addresses -/

/-- **The bytes of a chain are ordered by its routing id, then by its number.** -/
theorem RoutedChain.toBytes_lt_toBytes_iff {c c' : RoutedChain} :
    c.toBytes.toList < c'.toBytes.toList
      ↔ c.routing < c'.routing ∨ c.routing = c'.routing ∧ c.chain.value < c'.chain.value := by
  have hnumber : c.chain.toBytes.toList < c'.chain.toBytes.toList
      ↔ c.chain.value < c'.chain.value :=
    Bytes.ofNat_lt_ofNat_iff c.chain.value.toNat_lt c'.chain.value.toNat_lt
  rw [toBytes, toBytes, List.cons_lt_cons_iff, hnumber]

namespace ChainAddress

variable {a b : ChainAddress} {as : List ChainAddress}

/-- The 41 bytes of an address on a chain. -/
def toBytes (a : ChainAddress) : List UInt8 := a.address.toList ++ a.chain.toBytes.toList

theorem length_toBytes (a : ChainAddress) : a.toBytes.length = 41 := by
  rw [toBytes, List.length_append, a.address.length_eq, a.chain.toBytes.length_eq]

theorem toBytes_lt_toBytes_iff : a.toBytes < b.toBytes
    ↔ a.address.toList < b.address.toList
      ∨ a.address.toList = b.address.toList ∧ a.chain.toBytes.toList < b.chain.toBytes.toList :=
  append_lt_append_iff (a.address.length_eq.trans b.address.length_eq.symm)

/-- **The number of all bytes of an address on a chain.** -/
def rank (a : ChainAddress) : Nat := Bytes.toNat a.toBytes

theorem toBytes_lt_iff_rank : a.toBytes < b.toBytes ↔ rank a < rank b :=
  Bytes.lt_iff_toNat_lt (a.length_toBytes.trans b.length_toBytes.symm)

theorem rank_inj : rank a = rank b ↔ a = b := by
  refine ⟨fun h => ?_, congrArg rank⟩
  have hbytes := Bytes.eq_of_toNat (a.length_toBytes.trans b.length_toBytes.symm) h
  obtain ⟨haddress, hchain⟩ :=
    List.append_inj hbytes (a.address.length_eq.trans b.address.length_eq.symm)
  have hchain := congrArg RoutedChain.ofBytes (FixedBytes.ext_toList hchain)
  rw [RoutedChain.ofBytes_toBytes, RoutedChain.ofBytes_toBytes] at hchain
  cases a
  cases b
  exact congrArg₂ ChainAddress.mk (FixedBytes.ext_toList haddress) hchain

/-- **Addresses are ordered by their bytes…** -/
theorem before_iff_rank : before a b = true ↔ rank a < rank b := by
  have haddress : a.address = b.address ↔ a.address.toList = b.address.toList :=
    ⟨congrArg _, FixedBytes.ext_toList⟩
  rw [← toBytes_lt_iff_rank, toBytes_lt_toBytes_iff, RoutedChain.toBytes_lt_toBytes_iff,
    ← haddress]
  simp [before]

theorem ofString_text (a : ChainAddress) : Bytes.ofString a.text
    = Bytes.ofString (Hex.text a.address.toList)
      ++ (64 :: Bytes.ofString (Hex.text a.chain.toBytes.toList)) := by
  rw [text, Bytes.ofString_append, Bytes.ofString_append, List.append_assoc]
  rfl

/-- **…and so are their canonical texts.** -/
theorem text_lt_text_iff : Bytes.ofString a.text < Bytes.ofString b.text ↔ rank a < rank b := by
  have hlength : (Bytes.ofString (Hex.text a.address.toList)).length
      = (Bytes.ofString (Hex.text b.address.toList)).length := by
    rw [Hex.length_ofString_text, Hex.length_ofString_text, a.address.length_eq,
      b.address.length_eq]
  rw [ofString_text, ofString_text, append_lt_append_iff hlength, Hex.ofString_text_lt_iff,
    Hex.ofString_text_inj, List.cons_lt_cons_self, Hex.ofString_text_lt_iff,
    ← toBytes_lt_iff_rank, toBytes_lt_toBytes_iff]

theorem ofString_text_inj : Bytes.ofString a.text = Bytes.ofString b.text ↔ a = b :=
  Bytes.ofString_inj.trans text_inj

/-! ## Sorting -/

/-- Addresses that are not in decreasing order. -/
theorem not_before_iff : (!before b a) = true ↔ rank a ≤ rank b := by
  rw [Bool.not_eq_true', ← Bool.not_eq_true, before_iff_rank, Nat.not_lt]

theorem pairwise_mergeSort (as : List ChainAddress) :
    (as.mergeSort fun a b => !before b a).Pairwise (rank · ≤ rank ·) := by
  have htrans : ∀ a b c : ChainAddress, (!before b a) = true → (!before c b) = true →
      (!before c a) = true := fun a b c hab hbc =>
    not_before_iff.mpr (Nat.le_trans (not_before_iff.mp hab) (not_before_iff.mp hbc))
  have htotal : ∀ a b : ChainAddress, (!before b a || !before a b) = true := by
    intro a b
    rw [Bool.or_eq_true, not_before_iff, not_before_iff]
    exact Nat.le_total _ _
  exact (List.pairwise_mergeSort htrans htotal as).imp not_before_iff.mp

/-- **A sorted list holds each address once, in strictly increasing order…** -/
theorem pairwise_sortDistinct (as : List ChainAddress) :
    (sortDistinct as).Pairwise (rank · < rank ·) :=
  Lexicographic.pairwise_eraseReps (fun _ _ => rank_inj.mp) (pairwise_mergeSort as)

/-- **…and no other than were given.** -/
theorem mem_sortDistinct : a ∈ sortDistinct as ↔ a ∈ as := by
  rw [sortDistinct, Lexicographic.mem_eraseReps, List.mem_mergeSort]

/-- **A list of texts that are the canonical ones of what was read,** in strictly increasing order of
their bytes. -/
structure Lists (forms : List String) (read : ChainAddress → Prop) : Prop where
  increasing : (forms.map Bytes.ofString).Pairwise (· < ·)
  exact : ∀ form, form ∈ forms ↔ ∃ a, read a ∧ a.text = form

theorem lists_sortDistinct {read : ChainAddress → Prop} (h : ∀ a, a ∈ as ↔ read a) :
    Lists ((sortDistinct as).map text) read where
  increasing := by
    rw [List.map_map, List.pairwise_map]
    exact (pairwise_sortDistinct as).imp text_lt_text_iff.mpr
  exact form := by
    simp only [List.mem_map, mem_sortDistinct, h]

theorem mem_of_mapM {α : Type} {read : α → Except Error ChainAddress} {spellings : List α}
    (h : spellings.mapM read = .ok as) (a : ChainAddress) :
    a ∈ as ↔ ∃ s ∈ spellings, read s = .ok a := by
  induction spellings generalizing as with
  | nil =>
    obtain rfl : [] = as := Except.ok.inj h
    simp
  | cons s spellings ih =>
    rw [List.mapM_cons] at h
    obtain ⟨b, hb, h⟩ := bind_eq_ok_iff.mp h
    obtain ⟨bs, hbs, h⟩ := bind_eq_ok_iff.mp h
    obtain rfl : b :: bs = as := Except.ok.inj h
    simp [ih hbs, hb, eq_comm]

/-- **Sorting addresses sorts their canonical texts.**  One address is before another exactly if its
canonical text is before the other's in the order of bytes, and the same exactly if the texts are.
However a list of addresses is spelled, in texts or in JSON: once they are read, sorted and repetitions
are dropped, their canonical texts are in strictly increasing order and are those of what was spelled,
no more and no fewer. -/
theorem sorts_texts :
    (∀ a b, (before a b = true ↔ Bytes.ofString a.text < Bytes.ofString b.text)
      ∧ (a = b ↔ Bytes.ofString a.text = Bytes.ofString b.text)
      ∧ (before b a = true ↔ Bytes.ofString b.text < Bytes.ofString a.text))
    ∧ (∀ (texts : List String) as, texts.mapM parse = .ok as →
        Lists ((sortDistinct as).map text) fun a => ∃ s ∈ texts, parse s = .ok a)
    ∧ ∀ (values : List Json.Value) as, values.mapM ofValue = .ok as →
        Lists ((sortDistinct as).map text) fun a => ∃ v ∈ values, ofValue v = .ok a := by
  refine ⟨fun a b => ⟨?_, ofString_text_inj.symm, ?_⟩, fun texts as h => ?_, fun values as h => ?_⟩
  · exact before_iff_rank.trans text_lt_text_iff.symm
  · exact before_iff_rank.trans text_lt_text_iff.symm
  · exact lists_sortDistinct (mem_of_mapM h)
  · exact lists_sortDistinct (mem_of_mapM h)

/-- An address that is spelled twice, behind a greater one and before it. -/
theorem sorts_texts_spelledTwice :
    let texts := ["0x01@000000000000000001", "02@0x000000000000000001", "0100@000000000000000001"]
    ∃ as, texts.mapM parse = .ok as ∧ as.length = 3
      ∧ Lists ((sortDistinct as).map text) fun a => ∃ s ∈ texts, parse s = .ok a := by
  intro texts
  have hread : ∃ as, texts.mapM parse = .ok as ∧ as.length = 3 := ⟨_, rfl, rfl⟩
  obtain ⟨as, hread, hlength⟩ := hread
  exact ⟨as, hread, hlength, sorts_texts.2.1 texts as hread⟩

end ChainAddress

end OrderDesk
