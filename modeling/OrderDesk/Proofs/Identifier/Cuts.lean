import OrderDesk.Proofs.Identifier.AddressGrammar

/-!
# Proofs/Identifier/Cuts — texts cut by their bytes

    characters    0     x     é        @     1
    bytes         30    78    c3  a9   40    31
    offsets     0     1     2        4     5     6

A text is held in UTF-8 and cut at offsets of its bytes, and not every offset is between two
characters.  What is in ASCII takes one byte, and no byte of another character is in its range
(`le_of_mem_utf8EncodeChar`).  So a marker and an `@` are found among the bytes where they are among
the characters, and every cut beside them comes out (`unmarked?_eq`, `splitSign?_eq`).
-/

namespace OrderDesk

variable {cs ds m front back : List Char} {c d : Char} {b : UInt8} {s : String}

/-! ## Characters as bytes -/

theorem utf8EncodeChar_of_le (h : c.toNat ≤ 127) :
    String.utf8EncodeChar c = [UInt8.ofNat c.toNat] := if_pos h

/-- **Beyond ASCII no byte is in its range.** -/
theorem le_of_mem_utf8EncodeChar (h : 127 < c.toNat) (hb : b ∈ String.utf8EncodeChar c) :
    128 ≤ b.toNat := by
  have hv : ¬ c.val.toNat ≤ 127 := Nat.not_le.mpr h
  simp only [String.utf8EncodeChar, if_neg hv] at hb
  split_ifs at hb <;> simp only [List.mem_cons, List.not_mem_nil, or_false] at hb
  · rcases hb with rfl | rfl <;> rw [UInt8.toNat_ofNat'] <;> omega
  · rcases hb with rfl | rfl | rfl <;> rw [UInt8.toNat_ofNat'] <;> omega
  · rcases hb with rfl | rfl | rfl | rfl <;> rw [UInt8.toNat_ofNat'] <;> omega

section Ascii

variable (hc : c.toNat ≤ 127)
include hc

/-- The byte of an ASCII character is in no other character. -/
theorem mem_utf8EncodeChar_iff : UInt8.ofNat c.toNat ∈ String.utf8EncodeChar d ↔ d = c := by
  have hbyte : (UInt8.ofNat c.toNat).toNat = c.toNat := by
    rw [UInt8.toNat_ofNat']
    omega
  constructor
  · intro h
    by_cases hd : d.toNat ≤ 127
    · rw [utf8EncodeChar_of_le hd, List.mem_singleton, ← UInt8.toNat_inj, hbyte,
        UInt8.toNat_ofNat', Nat.mod_eq_of_lt (by omega)] at h
      exact Char.toNat_inj.mp h.symm
    · have hle := le_of_mem_utf8EncodeChar (Nat.lt_of_not_le hd) h
      omega
  · rintro rfl
    rw [utf8EncodeChar_of_le hc]
    exact List.mem_singleton_self _

theorem mem_flatMap_utf8EncodeChar_iff :
    UInt8.ofNat c.toNat ∈ cs.flatMap String.utf8EncodeChar ↔ c ∈ cs := by
  simp only [List.mem_flatMap, mem_utf8EncodeChar_iff hc, exists_eq_right]

end Ascii

/-- **What is in ASCII stands in front of the bytes where it stands in front of the characters.** -/
theorem flatMap_utf8EncodeChar_prefix_iff (hm : ∀ c ∈ m, c.toNat ≤ 127) :
    m.flatMap String.utf8EncodeChar <+: cs.flatMap String.utf8EncodeChar ↔ m <+: cs := by
  induction m generalizing cs with
  | nil => exact iff_of_true List.nil_prefix List.nil_prefix
  | cons a m ih =>
    rw [List.forall_mem_cons] at hm
    obtain ⟨ha, hm⟩ := hm
    rw [List.flatMap_cons, utf8EncodeChar_of_le ha, List.singleton_append]
    cases cs with
    | nil => simp
    | cons d cs =>
      -- the first byte of `d` is in none but `a`
      obtain ⟨b, bs, hd⟩ := List.exists_cons_of_ne_nil (String.utf8EncodeChar_ne_nil (c := d))
      rw [List.flatMap_cons, hd, List.cons_append, List.cons_prefix_cons, List.cons_prefix_cons]
      by_cases heq : d = a
      · subst heq
        obtain ⟨rfl, rfl⟩ := List.cons.inj (hd.symm.trans (utf8EncodeChar_of_le ha))
        simp only [List.nil_append, true_and, ih hm]
      · have hb : UInt8.ofNat a.toNat ≠ b := by
          rintro rfl
          exact heq ((mem_utf8EncodeChar_iff ha).mp (hd ▸ List.mem_cons_self))
        exact iff_of_false (fun h => hb h.1) fun h => heq h.1.symm

/-! ## Cuts -/

namespace Text

/-- A text in two at an offset of its bytes, if both sides are texts. -/
def cut? (offset : Nat) (s : String) : Option (String × String) :=
  let bytes := Bytes.ofString s
  if offset ≤ bytes.length then do
    let front ← Bytes.toString? (bytes.take offset)
    let back ← Bytes.toString? (bytes.drop offset)
    some (front, back)
  else none

/-- **Between two characters every cut comes out.** -/
theorem cut?_append (front back : List Char) :
    cut? (Hex.byteLength front) (String.ofList (front ++ back))
      = some (String.ofList front, String.ofList back) := by
  have hbytes : Bytes.ofString (String.ofList (front ++ back))
      = Bytes.ofString (String.ofList front) ++ Bytes.ofString (String.ofList back) := by
    simp only [Bytes.ofString, String.toList_ofList, List.flatMap_append]
  have hlength : (Bytes.ofString (String.ofList front)).length = Hex.byteLength front := by
    rw [Bytes.ofString, String.toList_ofList, Hex.byteLength]
  have hle : Hex.byteLength front
      ≤ (Bytes.ofString (String.ofList front) ++ Bytes.ofString (String.ofList back)).length := by
    rw [List.length_append, hlength]
    exact Nat.le_add_right _ _
  simp only [cut?, hbytes, if_pos hle, List.take_left' hlength, List.drop_left' hlength,
    Bytes.toString?_ofString, Option.bind_eq_bind, Option.bind_some]

example : cut? 1 "é" = none := by rfl

/-! ### Behind a marker -/

/-- A text without one leading `0x`, which is found and cut off by its bytes. -/
def unmarked? (s : String) : Option String :=
  let marker := Bytes.ofString "0x"
  if marker.isPrefixOf (Bytes.ofString s) then (cut? marker.length s).map Prod.snd else some s

/-- **The cut behind a marker comes out.** -/
theorem unmarked?_eq (s : String) :
    unmarked? s = some (String.ofList (Hex.dropMarker s.toList)) := by
  have hascii : ∀ c ∈ ['0', 'x'], c.toNat ≤ 127 :=
    List.forall_mem_cons.mpr ⟨by decide, List.forall_mem_singleton.mpr (by decide)⟩
  have hmarker : (Bytes.ofString "0x").isPrefixOf (Bytes.ofString s) = true
      ↔ ['0', 'x'] <+: s.toList :=
    List.isPrefixOf_iff_prefix.trans (flatMap_utf8EncodeChar_prefix_iff hascii)
  unfold Hex.dropMarker
  split
  · next rest hs =>
    have hcut := cut?_append ['0', 'x'] rest
    rw [List.cons_append, List.cons_append, List.nil_append, ← hs, String.ofList_toList] at hcut
    have hpos : ['0', 'x'] <+: s.toList := ⟨rest, hs.symm⟩
    rw [unmarked?, if_pos (hmarker.mpr hpos)]
    exact congrArg (Option.map Prod.snd) hcut
  · next hs =>
    have hneg : ¬ ['0', 'x'] <+: s.toList := fun ⟨rest, h⟩ => hs rest h.symm
    rw [unmarked?, if_neg (mt hmarker.mp hneg), String.ofList_toList]

/-! ### At an `@` -/

/-- What stands first behind others is found there. -/
theorem idxOf?_append_cons {α : Type} [BEq α] [LawfulBEq α] {a : α} {xs ys : List α}
    (h : a ∉ xs) : (xs ++ a :: ys).idxOf? a = some xs.length := by
  have hnone : xs.idxOf? a = none := List.idxOf?_eq_none_iff.mpr h
  rw [List.idxOf?] at hnone ⊢
  rw [List.findIdx?_append, hnone, List.findIdx?_cons, beq_self_eq_true]
  simp

/-- The texts before and behind the first `@`, which is found and cut out by its bytes. -/
def splitSign? (s : String) : Option (Option (String × String)) :=
  match (Bytes.ofString s).idxOf? (UInt8.ofNat '@'.toNat) with
  | none => some none
  | some offset => do
    let (front, rest) ← cut? offset s
    let (_, back) ← cut? 1 rest
    some (some (front, back))

/-- **The cuts beside an `@` come out.** -/
theorem splitSign?_eq (s : String) :
    splitSign? s = some ((ChainAddress.splitAt? s.toList).map
      fun (front, back) => (String.ofList front, String.ofList back)) := by
  have hsign : ('@').toNat ≤ 127 := by decide
  cases hsplit : ChainAddress.splitAt? s.toList with
  | none =>
    have hnone : '@' ∉ s.toList := by
      intro hmem
      obtain ⟨front, back, hs, hfront⟩ := List.eq_append_cons_of_mem hmem
      rw [ChainAddress.splitAt?_eq_some_iff.mpr ⟨hs, hfront⟩] at hsplit
      contradiction
    have hbytes : (Bytes.ofString s).idxOf? (UInt8.ofNat '@'.toNat) = none :=
      List.idxOf?_eq_none_iff.mpr (mt (mem_flatMap_utf8EncodeChar_iff hsign).mp hnone)
    simp only [splitSign?, hbytes, Option.map_none]
  | some parts =>
    obtain ⟨front, back⟩ := parts
    obtain ⟨hs, hfront⟩ := ChainAddress.splitAt?_eq_some_iff.mp hsplit
    have hoffset : (Bytes.ofString s).idxOf? (UInt8.ofNat '@'.toNat)
        = some (Hex.byteLength front) := by
      have hnone := mt (mem_flatMap_utf8EncodeChar_iff hsign).mp hfront
      rw [Bytes.ofString, hs, List.flatMap_append, List.flatMap_cons, utf8EncodeChar_of_le hsign,
        List.singleton_append]
      exact idxOf?_append_cons hnone
    have hbefore := cut?_append front ('@' :: back)
    rw [← hs, String.ofList_toList] at hbefore
    have hbehind : cut? 1 (String.ofList ('@' :: back))
        = some (String.ofList ['@'], String.ofList back) := cut?_append ['@'] back
    simp only [splitSign?, hoffset, hbefore, hbehind, Option.bind_eq_bind, Option.bind_some,
      Option.map_some]

end Text

end OrderDesk
