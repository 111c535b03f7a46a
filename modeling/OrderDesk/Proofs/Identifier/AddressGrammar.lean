import OrderDesk.Proofs.Identifier.Digits
import OrderDesk.Proofs.Identifier.Width

/-!
# Proofs/Identifier/AddressGrammar — which texts are chains, and which are addresses on chains

    0x ⌢ digits ⌢ @ ⌢ 0x ⌢ digits

A chain is eighteen digits and an address is up to 32 pairs of them, each behind an optional `0x`.
More texts than these are read, since a marker is passed over three times.  What is passed over
beyond the first `0x` counts as digits, so that a chain with such a marker has fewer than eighteen and
is filled up, and an address may be without any (`parse_grammar`).
-/

namespace OrderDesk

open Hex (Spells)

variable {cs ds m front back : List Char} {bytes : List UInt8} {text : String}

/-! ## Markers in front of digits -/

namespace Hex

/-- Digits behind an optional `0x`. -/
def Marks (ds cs : List Char) : Prop := cs = ds ∨ cs = '0' :: 'x' :: ds

/-- **Digits behind a marker beyond the grammar:** it stands behind the optional `0x`, or is `0X`. -/
def Overmarks (m ds cs : List Char) : Prop :=
  m ∈ markers ∧ m ≠ [] ∧ (cs = '0' :: 'x' :: (m ++ ds) ∨ cs = m ++ ds ∧ m = ['0', 'X'])

theorem marks_iff (hd : ∀ c ∈ ds, isDigit c = true) : Marks ds cs ↔ dropMarker cs = ds := by
  have h : dropMarker cs = [] ++ ds ↔ _ := dropMarker_eq_append_iff hd
  rw [List.nil_append, and_iff_left (by decide)] at h
  rw [h, Marks, or_comm]

theorem exists_dropMarker_iff (hd : ∀ c ∈ ds, isDigit c = true) {P : List Char → Prop} :
    (∃ m ∈ markers, dropMarker cs = m ++ ds ∧ P m)
      ↔ (Marks ds cs ∧ P []) ∨ ∃ m, Overmarks m ds cs ∧ P m := by
  have hmarker : ∀ m ∈ markers, m ≠ [] → (¬ ['0', 'x'] <+: m ↔ m = ['0', 'X']) := by decide
  constructor
  · rintro ⟨m, hm, heq, hP⟩
    have heq := (dropMarker_eq_append_iff hd).mp heq
    rcases eq_or_ne m [] with rfl | hne
    · exact .inl ⟨heq.symm.imp And.left id, hP⟩
    · exact .inr ⟨m, ⟨hm, hne, heq.imp_right (.imp_right (hmarker m hm hne).mp)⟩, hP⟩
  · rintro (⟨heq, hP⟩ | ⟨m, ⟨hm, hne, heq⟩, hP⟩)
    · refine ⟨[], by decide, (dropMarker_eq_append_iff hd).mpr ?_, hP⟩
      exact heq.symm.imp id fun h => ⟨h, by decide⟩
    · refine ⟨m, hm, (dropMarker_eq_append_iff hd).mpr ?_, hP⟩
      exact heq.imp_right (.imp_right (hmarker m hm hne).mpr)

theorem byteLength_append (cs ds : List Char) :
    byteLength (cs ++ ds) = byteLength cs + byteLength ds := by
  rw [byteLength, List.flatMap_append, List.length_append, byteLength, byteLength]

theorem length_even_of_mem_markers : ∀ m ∈ markers, m.length % 2 = 0 := by decide

theorem byteLength_of_mem_markers : ∀ m ∈ markers, byteLength m = m.length := by decide

end Hex

/-! ## Chains -/

namespace RoutedChain

variable {c : RoutedChain}

/-- **The grammar of chains:** eighteen digits behind an optional `0x`. -/
def IsForm (cs : List Char) : Prop :=
  ∃ ds, Hex.Marks ds cs ∧ ds.length = 18 ∧ ∀ c ∈ ds, Hex.isDigit c = true

/-- **Chains beyond the grammar:** the characters of a marker count as digits. -/
def IsOvermarked (cs : List Char) : Prop :=
  ∃ m ds, Hex.Overmarks m ds cs ∧ m.length + ds.length = 18 ∧ ∀ c ∈ ds, Hex.isDigit c = true

/-- **Eighteen characters are read as a chain,** markers and digits together. -/
theorem parse_eq_ok_iff : parse text = .ok c
    ↔ ∃ m ∈ Hex.markers, ∃ ds bytes, Hex.dropMarker text.toList = m ++ ds
      ∧ m.length + ds.length = 18 ∧ Spells ds bytes
      ∧ c.toBytes.toList = List.replicate (9 - bytes.length) 0 ++ bytes := by
  have hlength : ∀ m ∈ Hex.markers, ∀ ds bytes, Spells ds bytes →
      Hex.byteLength (m ++ ds) = m.length + ds.length := fun m hm ds bytes h => by
    rw [Hex.byteLength_append, Hex.byteLength_of_mem_markers m hm,
      Hex.byteLength_of_isDigit h.isDigit]
  simp only [← ofByteList_eq_ok_iff]
  rw [parse]
  constructor
  · intro h
    split at h
    · next hwidth =>
      obtain ⟨bytes, hbytes, h⟩ := bind_eq_ok_iff.mp h
      obtain ⟨m, hm, ds, heq, hspells⟩ := decodeHex_eq_ok_iff.mp hbytes
      rw [heq, hlength m hm ds bytes hspells] at hwidth
      exact ⟨m, hm, ds, bytes, heq, hwidth, hspells, h⟩
    · contradiction
  · rintro ⟨m, hm, ds, bytes, heq, hwidth, hspells, h⟩
    have hbytes := decodeHex_eq_ok_iff.mpr ⟨m, hm, ds, heq, hspells⟩
    have hwidth : Hex.byteLength (Hex.dropMarker text.toList) = 2 * width := by
      rw [heq, hlength m hm ds bytes hspells, hwidth]
      rfl
    rw [if_pos hwidth]
    exact bind_eq_ok_iff.mpr ⟨bytes, hbytes, h⟩

/-- **A text is a chain if it is of the grammar, or overmarked.** -/
theorem exists_parse_iff :
    (∃ c, parse text = .ok c) ↔ IsForm text.toList ∨ IsOvermarked text.toList := by
  constructor
  · rintro ⟨c, h⟩
    obtain ⟨m, hm, ds, bytes, heq, hwidth, hspells, -⟩ := parse_eq_ok_iff.mp h
    have hmarks := (Hex.exists_dropMarker_iff hspells.isDigit
      (P := fun m => m.length + ds.length = 18)).mp ⟨m, hm, heq, hwidth⟩
    rcases hmarks with ⟨hmarks, hwidth⟩ | ⟨m, hmarks, hwidth⟩
    · rw [List.length_nil, Nat.zero_add] at hwidth
      exact .inl ⟨ds, hmarks, hwidth, hspells.isDigit⟩
    · exact .inr ⟨m, ds, hmarks, hwidth, hspells.isDigit⟩
  · intro h
    obtain ⟨ds, hd, m, hm, heq, hwidth⟩ : ∃ ds, (∀ c ∈ ds, Hex.isDigit c = true)
        ∧ ∃ m ∈ Hex.markers, Hex.dropMarker text.toList = m ++ ds ∧ m.length + ds.length = 18 := by
      rcases h with ⟨ds, hmarks, hwidth, hd⟩ | ⟨m, ds, hmarks, hwidth, hd⟩
      · refine ⟨ds, hd, (Hex.exists_dropMarker_iff hd).mpr (.inl ⟨hmarks, ?_⟩)⟩
        rw [List.length_nil, Nat.zero_add, hwidth]
      · exact ⟨ds, hd, (Hex.exists_dropMarker_iff hd).mpr (.inr ⟨m, hmarks, hwidth⟩)⟩
    have heven := Hex.length_even_of_mem_markers m hm
    obtain ⟨bytes, hspells⟩ := Hex.exists_spells (by omega) hd
    have hlength := hspells.length_eq
    obtain ⟨c, hc⟩ := exists_toBytes_eq bytes (by omega)
    exact ⟨c, parse_eq_ok_iff.mpr ⟨m, hm, ds, bytes, heq, hwidth, hspells, hc⟩⟩

end RoutedChain

/-! ## Addresses -/

namespace ChainAddress

variable {a : ChainAddress}

/-- **The grammar of addresses:** up to 32 pairs of digits behind an optional `0x`, at least one. -/
def IsPart (cs : List Char) : Prop :=
  ∃ ds, Hex.Marks ds cs ∧ ds ≠ [] ∧ ds.length % 2 = 0 ∧ ds.length ≤ 64
    ∧ ∀ c ∈ ds, Hex.isDigit c = true

/-- **Addresses beyond the grammar:** behind a marker there may be no digits. -/
def IsOvermarkedPart (cs : List Char) : Prop :=
  ∃ m ds, Hex.Overmarks m ds cs ∧ ds.length % 2 = 0 ∧ ds.length ≤ 64
    ∧ ∀ c ∈ ds, Hex.isDigit c = true

/-- A text is cut at its first `@`. -/
theorem splitAt?_eq_some_iff :
    splitAt? cs = some (front, back) ↔ cs = front ++ '@' :: back ∧ '@' ∉ front := by
  constructor
  · intro h
    rw [splitAt?] at h
    split at h
    · contradiction
    · next c chain hdrop =>
      obtain ⟨rfl, rfl⟩ := Prod.mk.inj (Option.some.inj h)
      have hc := List.head?_dropWhile_not (· ≠ '@') cs
      rw [hdrop, List.head?_cons] at hc
      obtain rfl : c = '@' := by simpa using hc
      refine ⟨?_, fun hmem => by simpa using List.mem_takeWhile_imp hmem⟩
      rw [← hdrop, List.takeWhile_append_dropWhile]
  · rintro ⟨rfl, hfront⟩
    have hall : ∀ c ∈ front, (c ≠ '@' : Bool) = true := by
      intro c hc
      rw [decide_eq_true_eq]
      rintro rfl
      exact hfront hc
    rw [splitAt?, List.dropWhile_append_of_pos hall, List.takeWhile_append_of_pos hall]
    simp

/-- Markers and digits hold no `@`. -/
theorem at_notMem (hm : m ∈ Hex.markers) (hd : ∀ c ∈ ds, Hex.isDigit c = true)
    (h : Hex.dropMarker front = m ++ ds) : '@' ∉ front := by
  have hmarkers : ∀ m ∈ Hex.markers, '@' ∉ m := by decide
  have hmember : '@' ∉ m ++ ds := by
    rw [List.mem_append]
    rintro (h | h)
    · exact hmarkers m hm h
    · exact absurd (hd _ h) (by decide)
  rcases (Hex.dropMarker_eq_append_iff hd).mp h with rfl | ⟨rfl, -⟩
  · simpa using hmember
  · exact hmember

/-- **An address and a chain are read from both sides of an `@`.** -/
theorem parse_eq_ok_iff : parse text = .ok a
    ↔ ∃ front back, text.toList = front ++ '@' :: back
      ∧ RoutedChain.parse (String.ofList back) = .ok a.chain
      ∧ ∃ m ∈ Hex.markers, ∃ ds bytes, Hex.dropMarker front = m ++ ds ∧ m ++ ds ≠ []
        ∧ Spells ds bytes ∧ a.address.toList = bytes ++ List.replicate (32 - bytes.length) 0 := by
  simp only [← padAddress_eq_ok_iff]
  constructor
  · intro h
    simp only [parse] at h
    split at h
    · contradiction
    · next front back hsplit =>
      obtain ⟨htext, -⟩ := splitAt?_eq_some_iff.mp hsplit
      split at h
      · contradiction
      · next hne =>
        obtain ⟨c, hchain, h⟩ := bind_eq_ok_iff.mp h
        obtain ⟨address, hpad, h⟩ := bind_eq_ok_iff.mp h
        obtain ⟨bytes, hbytes, hpad⟩ := bind_eq_ok_iff.mp hpad
        obtain rfl := Except.ok.inj h
        obtain ⟨m, hm, ds, heq, hspells⟩ := decodeHex_eq_ok_iff.mp hbytes
        rw [heq, List.isEmpty_iff] at hne
        exact ⟨front, back, htext, hchain, m, hm, ds, bytes, heq, hne, hspells, hpad⟩
  · rintro ⟨front, back, htext, hchain, m, hm, ds, bytes, heq, hne, hspells, hpad⟩
    have hbytes := decodeHex_eq_ok_iff.mpr ⟨m, hm, ds, heq, hspells⟩
    have hsplit := splitAt?_eq_some_iff.mpr ⟨htext, at_notMem hm hspells.isDigit heq⟩
    have hempty : ¬ (Hex.dropMarker front).isEmpty = true := by
      rwa [heq, List.isEmpty_iff]
    have hread : (decodeHex (Hex.dropMarker front) >>= padAddress) = .ok a.address :=
      bind_eq_ok_iff.mpr ⟨bytes, hbytes, hpad⟩
    simp only [parse, hsplit, if_neg hempty, hchain, hread]
    rfl

/-- **An address on a chain is what is of the grammar, or overmarked,** on either side. -/
theorem exists_parse_iff : (∃ a, parse text = .ok a)
    ↔ ∃ front back, text.toList = front ++ '@' :: back
      ∧ (IsPart front ∨ IsOvermarkedPart front)
      ∧ (RoutedChain.IsForm back ∨ RoutedChain.IsOvermarked back) := by
  constructor
  · rintro ⟨a, h⟩
    obtain ⟨front, back, htext, hchain, m, hm, ds, bytes, heq, hne, hspells, hpad⟩ :=
      parse_eq_ok_iff.mp h
    refine ⟨front, back, htext, ?_, by simpa using RoutedChain.exists_parse_iff.mp ⟨_, hchain⟩⟩
    have hlength := hspells.length_eq
    have hwidth : bytes.length ≤ 32 := by
      have := congrArg List.length hpad
      rw [a.address.length_eq, List.length_append] at this
      omega
    have hmarks := (Hex.exists_dropMarker_iff hspells.isDigit (P := fun m => m ++ ds ≠ [])).mp
      ⟨m, hm, heq, hne⟩
    rcases hmarks with ⟨hmarks, hne⟩ | ⟨m, hmarks, -⟩
    · exact .inl ⟨ds, hmarks, hne, by omega, by omega, hspells.isDigit⟩
    · exact .inr ⟨m, ds, hmarks, by omega, by omega, hspells.isDigit⟩
  · rintro ⟨front, back, htext, hfront, hback⟩
    obtain ⟨c, hchain⟩ : ∃ c, RoutedChain.parse (String.ofList back) = .ok c :=
      RoutedChain.exists_parse_iff.mpr (by simpa using hback)
    obtain ⟨ds, hd, heven, hle, m, hm, heq, hne⟩ : ∃ ds, (∀ c ∈ ds, Hex.isDigit c = true)
        ∧ ds.length % 2 = 0 ∧ ds.length ≤ 64
        ∧ ∃ m ∈ Hex.markers, Hex.dropMarker front = m ++ ds ∧ m ++ ds ≠ [] := by
      rcases hfront with ⟨ds, hmarks, hne, heven, hle, hd⟩ | ⟨m, ds, hmarks, heven, hle, hd⟩
      · exact ⟨ds, hd, heven, hle, (Hex.exists_dropMarker_iff hd).mpr (.inl ⟨hmarks, hne⟩)⟩
      · refine ⟨ds, hd, heven, hle, (Hex.exists_dropMarker_iff hd).mpr (.inr ⟨m, hmarks, ?_⟩)⟩
        exact List.append_ne_nil_of_left_ne_nil hmarks.2.1 ds
    obtain ⟨bytes, hspells⟩ := Hex.exists_spells heven hd
    have hlength := hspells.length_eq
    obtain ⟨address, haddress⟩ := exists_address_eq bytes (by omega)
    exact ⟨⟨address, c⟩, parse_eq_ok_iff.mpr
      ⟨front, back, htext, hchain, m, hm, ds, bytes, heq, hne, hspells, haddress⟩⟩

end ChainAddress

/-! ## What overmarked texts are read as -/

/-- Behind a marker beyond the grammar the digits are read. -/
theorem Hex.Overmarks.dropMarker_eq (h : Hex.Overmarks m ds cs)
    (hd : ∀ c ∈ ds, Hex.isDigit c = true) : Hex.dropMarker cs = m ++ ds := by
  obtain ⟨m', -, heq, rfl⟩ := (Hex.exists_dropMarker_iff hd (P := (· = m))).mpr (.inr ⟨m, h, rfl⟩)
  exact heq

/-- What is read behind a marker is told by the text. -/
theorem Hex.Overmarks.eq_of_dropMarker {m' ds' : List Char} {bytes' : List UInt8}
    (h : Hex.Overmarks m ds cs) (hspells : Spells ds bytes) (hm' : m' ∈ Hex.markers)
    (heq : Hex.dropMarker cs = m' ++ ds') (hspells' : Spells ds' bytes') :
    bytes' = bytes ∧ m'.length = m.length := by
  have hdrop := h.dropMarker_eq hspells.isDigit
  have hbytes := decodeHex_eq_ok_iff.mpr ⟨m, h.1, ds, hdrop, hspells⟩
  have hbytes' := decodeHex_eq_ok_iff.mpr ⟨m', hm', ds', heq, hspells'⟩
  obtain rfl := Except.ok.inj (hbytes'.symm.trans hbytes)
  have hlength := congrArg List.length (heq.symm.trans hdrop)
  rw [List.length_append, List.length_append, hspells.length_eq, hspells'.length_eq] at hlength
  exact ⟨rfl, by omega⟩

/-- **An overmarked chain has fewer than nine bytes and is filled up.** -/
theorem RoutedChain.toBytes_of_overmarks {c : RoutedChain} (h : Hex.Overmarks m ds text.toList)
    (hspells : Spells ds bytes) (hc : parse text = .ok c) :
    bytes.length < 9 ∧ c.toBytes.toList = List.replicate (9 - bytes.length) 0 ++ bytes := by
  obtain ⟨m', hm', ds', bytes', heq, hwidth, hspells', hchain⟩ := parse_eq_ok_iff.mp hc
  obtain ⟨rfl, hlength⟩ := h.eq_of_dropMarker hspells hm' heq hspells'
  have hpos := List.length_pos_iff.mpr h.2.1
  have := hspells'.length_eq
  exact ⟨by omega, hchain⟩

/-- **An overmarked address is read from its digits,** also if there are none. -/
theorem ChainAddress.address_of_overmarks {a : ChainAddress} (h : Hex.Overmarks m ds front)
    (htext : text.toList = front ++ '@' :: back) (hspells : Spells ds bytes)
    (ha : parse text = .ok a) :
    a.address.toList = bytes ++ List.replicate (32 - bytes.length) 0 := by
  obtain ⟨front', back', htext', -, m', hm', ds', bytes', heq, -, hspells', haddress⟩ :=
    parse_eq_ok_iff.mp ha
  have hat := at_notMem h.1 hspells.isDigit (h.dropMarker_eq hspells.isDigit)
  have hsplit := splitAt?_eq_some_iff.mpr ⟨htext, hat⟩
  have hsplit' := splitAt?_eq_some_iff.mpr ⟨htext', at_notMem hm' hspells'.isDigit heq⟩
  obtain ⟨rfl, -⟩ := Prod.mk.inj (Option.some.inj (hsplit'.symm.trans hsplit))
  obtain ⟨rfl, -⟩ := h.eq_of_dropMarker hspells hm' heq hspells'
  exact haddress

/-! ## The grammar and what is beyond it -/

namespace ChainAddress

/-- **What is read as a chain, and what as an address on a chain:** the texts of the grammar and
those with markers beyond it.  The latter have fewer digits than they should: such a chain is filled
up by zeros in front, and so is such an address behind. -/
theorem parse_grammar (text : String) :
    ((∃ c, RoutedChain.parse text = .ok c)
        ↔ RoutedChain.IsForm text.toList ∨ RoutedChain.IsOvermarked text.toList)
      ∧ ((∃ a, parse text = .ok a) ↔ ∃ front back, text.toList = front ++ '@' :: back
        ∧ (IsPart front ∨ IsOvermarkedPart front)
        ∧ (RoutedChain.IsForm back ∨ RoutedChain.IsOvermarked back))
      ∧ (∀ m ds bytes c, Hex.Overmarks m ds text.toList → Spells ds bytes →
        RoutedChain.parse text = .ok c →
        bytes.length < 9 ∧ c.toBytes.toList = List.replicate (9 - bytes.length) 0 ++ bytes)
      ∧ ∀ m ds bytes front back a, Hex.Overmarks m ds front →
        text.toList = front ++ '@' :: back → Spells ds bytes → parse text = .ok a →
        a.address.toList = bytes ++ List.replicate (32 - bytes.length) 0 :=
  ⟨RoutedChain.exists_parse_iff, exists_parse_iff,
    fun _ _ _ _ h hspells hc => RoutedChain.toBytes_of_overmarks h hspells hc,
    fun _ _ _ _ _ _ h htext hspells ha => address_of_overmarks h htext hspells ha⟩

theorem parse_grammar_overmarks :
    (∃ c, RoutedChain.parse "0Xaaaaaaaaaaaaaaaa" = .ok c
        ∧ c.toBytes.toList = 0 :: List.replicate 8 0xaa)
      ∧ ∃ a, parse "0x0x@000000000000aa36a7" = .ok a
        ∧ a.address.toList = List.replicate 32 0 := by
  constructor
  · have hmarks : Hex.Overmarks ['0', 'X'] (List.replicate 16 'a') "0Xaaaaaaaaaaaaaaaa".toList :=
      ⟨by decide, by decide, .inr ⟨rfl, rfl⟩⟩
    exact ⟨_, rfl, ((parse_grammar "0Xaaaaaaaaaaaaaaaa").2.2.1 _ _ (List.replicate 8 0xaa) _ hmarks
      rfl rfl).2⟩
  · have hmarks : Hex.Overmarks ['0', 'x'] [] "0x0x".toList := ⟨by decide, by decide, .inl rfl⟩
    exact ⟨_, rfl, (parse_grammar "0x0x@000000000000aa36a7").2.2.2 _ _ [] _
      "000000000000aa36a7".toList _ hmarks rfl rfl rfl⟩

/-- **The grammar alone does not tell what is read:** a chain of sixteen digits is read behind `0X`,
and an address without digits behind `0x0x`. -/
theorem not_parse_grammar :
    (¬ ∀ text, (∃ c, RoutedChain.parse text = .ok c) ↔ RoutedChain.IsForm text.toList)
      ∧ ¬ ∀ text, (∃ a, parse text = .ok a) ↔ ∃ front back, text.toList = front ++ '@' :: back
        ∧ IsPart front ∧ RoutedChain.IsForm back := by
  constructor
  · intro h
    obtain ⟨ds, hmarks, hlength, hd⟩ := (h "0Xaaaaaaaaaaaaaaaa").mp ⟨_, rfl⟩
    rcases hmarks with hmarks | hmarks
    · exact absurd (hd 'X' (hmarks ▸ by decide)) (by decide)
    · cases hmarks
  · intro h
    obtain ⟨front, back, htext, ⟨ds, hmarks, hne, -, -, hd⟩, -⟩ :=
      (h "0x0x@000000000000aa36a7").mp ⟨_, rfl⟩
    have hat : '@' ∉ front := by
      have hds : '@' ∉ ds := fun hmem => absurd (hd _ hmem) (by decide)
      rcases hmarks with rfl | rfl
      · exact hds
      · simpa using hds
    have hfront : some (['0', 'x', '0', 'x'], _) = some (front, back) :=
      splitAt?_eq_some_iff.mpr ⟨htext, hat⟩
    obtain ⟨rfl, -⟩ := Prod.mk.inj (Option.some.inj hfront)
    have hx : 'x' ∈ ds := by
      rcases hmarks with rfl | hmarks
      · decide
      · cases hmarks
        decide
    exact absurd (hd 'x' hx) (by decide)

end ChainAddress

end OrderDesk
