import OrderDesk.Proofs.Identifier.AddressGrammar
import OrderDesk.Proofs.Wire.Types

/-!
# Proofs/Identifier/Forms — the forms of an address on a chain, and those of an asset, agree

An address on a chain is written as a text or as two lists of bytes, and either of them bare or under
`Address`.  Each form is read by reading bytes, and what bytes are read as is told by the bytes of the
answer: zeros behind the address and zeros in front of the chain are not seen in it (`ofParts_eq`).  So
every form of an address and a chain is read as the one value with their bytes (`forms_agree`).
-/

namespace OrderDesk

open Hex (Spells)
open Json (Value)

variable {address bytes chain : List UInt8} {c : RoutedChain} {a : ChainAddress} {s : String}
  {k : Nat}

/-! ## Bytes as texts and as lists -/

/-- **The texts of bytes:** their digits, of either case, behind an optional `0x`. -/
def Hex.IsText (bytes : List UInt8) (cs : List Char) : Prop := ∃ ds, Marks ds cs ∧ Spells ds bytes

theorem Hex.isText_encode (bytes : List UInt8) : IsText bytes (encode bytes) :=
  ⟨encode bytes, .inl rfl, spells_encode bytes⟩

theorem Hex.IsText.exists_digits {cs : List Char} (h : Hex.IsText bytes cs) :
    ∃ ds, Hex.dropMarker cs = ds ∧ Spells ds bytes := by
  obtain ⟨ds, hmarks, hspells⟩ := h
  exact ⟨ds, (Hex.marks_iff hspells.isDigit).mp hmarks, hspells⟩

namespace ChainAddress

theorem byte?_nat (b : UInt8) : byte? (.nat b.toNat) = some b := by
  have hb : (b.toNat : Int) < 256 := Int.ofNat_lt.mpr b.toNat_lt
  rw [Value.nat, byte?, if_pos ⟨Int.natCast_nonneg _, hb⟩, Int.toNat_natCast, UInt8.ofNat_toNat]

/-- Bytes are read back from their list. -/
theorem bytesOf_map (name : String) (bytes : List UInt8) :
    bytesOf name (bytes.map fun b => .nat b.toNat) = .ok bytes := by
  induction bytes with
  | nil => rfl
  | cons b bytes ih =>
    rw [List.map_cons, bytesOf, byte?_nat, ih]
    rfl

theorem byteList_eq {name : String} {v : Value} (h : v.get? name = some (bytesValue bytes)) :
    byteList name v = .ok bytes := by
  rw [byteList, h, bytesValue]
  exact bytesOf_map name bytes

/-! ## Parts -/

/-- **Parts are an address on a chain** whose bytes they are, but for zeros behind the one and in front
of the other. -/
theorem ofParts_eq_ok_iff : ofParts address chain = .ok a
    ↔ a.address.toList = address ++ List.replicate (32 - address.length) 0
      ∧ a.chain.toBytes.toList = List.replicate (9 - chain.length) 0 ++ chain := by
  rw [← padAddress_eq_ok_iff, ← RoutedChain.ofByteList_eq_ok_iff, ofParts]
  constructor
  · intro h
    obtain ⟨address, haddress, h⟩ := bind_eq_ok_iff.mp h
    obtain ⟨c, hchain, h⟩ := bind_eq_ok_iff.mp h
    obtain rfl := Except.ok.inj h
    exact ⟨haddress, hchain⟩
  · rintro ⟨haddress, hchain⟩
    exact bind_eq_ok_iff.mpr ⟨_, haddress, bind_eq_ok_iff.mpr ⟨_, hchain, rfl⟩⟩

/-- **An address on a chain,** by what its bytes are. -/
def Holds (a : ChainAddress) (address : List UInt8) (c : RoutedChain) : Prop :=
  a.address.toList = address ++ List.replicate (32 - address.length) 0 ∧ a.chain = c

/-- Zeros behind an address are not seen… -/
theorem Holds.extend (h : Holds a address c) (hk : address.length + k ≤ 32) :
    Holds a (address ++ List.replicate k 0) c := by
  refine ⟨?_, h.2⟩
  have hsum : 32 - address.length = k + (32 - (address.length + k)) := by omega
  rw [h.1, List.length_append, List.length_replicate, List.append_assoc, ← List.replicate_add,
    ← hsum]

/-- …nor are those in front of a chain. -/
theorem Holds.ofParts_eq (h : Holds a address c)
    (hchain : c.toBytes.toList = List.replicate k 0 ++ chain) : ofParts address chain = .ok a := by
  have hlength := congrArg List.length hchain
  rw [c.toBytes.length_eq, List.length_append, List.length_replicate] at hlength
  have hk : 9 - chain.length = k := by omega
  refine ofParts_eq_ok_iff.mpr ⟨h.1, ?_⟩
  rw [h.2, hchain, hk]

end ChainAddress

/-! ## Texts -/

/-- The texts of a chain's bytes are read as the chain. -/
theorem RoutedChain.parse_of_isText (h : Hex.IsText c.toBytes.toList s.toList) :
    parse s = .ok c := by
  obtain ⟨ds, hdrop, hspells⟩ := h.exists_digits
  have hlength := hspells.length_eq
  rw [c.toBytes.length_eq] at hlength
  refine parse_eq_ok_iff.mpr ⟨[], by decide, ds, _, hdrop, ?_, hspells, ?_⟩
  · rw [hlength]
    rfl
  · rw [c.toBytes.length_eq]
    rfl

namespace ChainAddress

/-- **The texts of an address and a chain.** -/
def IsText (address : List UInt8) (c : RoutedChain) (text : String) : Prop :=
  ∃ front back, text.toList = front ++ '@' :: back
    ∧ Hex.IsText address front ∧ Hex.IsText c.toBytes.toList back

theorem Holds.parse_eq (h : Holds a address c) (hne : address ≠ []) (htext : IsText address c s) :
    parse s = .ok a := by
  obtain ⟨front, back, hcut, hfront, hback⟩ := htext
  obtain ⟨ds, hdrop, hspells⟩ := hfront.exists_digits
  have hds : [] ++ ds ≠ [] := by
    have hlength := hspells.length_eq
    have hpos := List.length_pos_iff.mpr hne
    exact List.length_pos_iff.mp (by rw [List.nil_append]; omega)
  have hchain : RoutedChain.parse (String.ofList back) = .ok a.chain := by
    rw [h.2]
    exact RoutedChain.parse_of_isText (by rwa [String.toList_ofList])
  exact parse_eq_ok_iff.mpr
    ⟨front, back, hcut, hchain, [], by decide, ds, address, hdrop, hds, hspells, h.1⟩

/-- **What an address on a chain is in JSON:** a text, or the list of the address' bytes and a list of
the chain's, without some of the zeros in front. -/
inductive IsContent (address : List UInt8) (c : RoutedChain) : Value → Prop
  | text {s : String} (htext : IsText address c s) : IsContent address c (.string s)
  | lists {members : List (String × Value)} {chain : List UInt8} {k : Nat}
      (haddress : members.lookup "address" = some (bytesValue address))
      (hchain : members.lookup "chain" = some (bytesValue chain))
      (hzeros : c.toBytes.toList = List.replicate k 0 ++ chain)
      (hbare : members.lookup "Address" = none) : IsContent address c (.object members)

variable {v : Value}

theorem Holds.ofStructured_eq {members : List (String × Value)} (h : Holds a address c)
    (haddress : members.lookup "address" = some (bytesValue address))
    (hchain : members.lookup "chain" = some (bytesValue chain))
    (hzeros : c.toBytes.toList = List.replicate k 0 ++ chain) :
    ofStructured (.object members) = .ok a :=
  bind_eq_ok_iff.mpr ⟨address, byteList_eq haddress,
    bind_eq_ok_iff.mpr ⟨chain, byteList_eq hchain, h.ofParts_eq hzeros⟩⟩

/-- **The content is read bare…** -/
theorem Holds.ofValue_eq (h : Holds a address c) (hne : address ≠ []) (hv : IsContent address c v) :
    ofValue v = .ok a := by
  cases hv with
  | text htext => exact h.parse_eq hne htext
  | lists haddress hchain hzeros hbare =>
    simp only [ofValue, Value.get?, hbare, haddress, hchain, Option.isSome_some, and_self, if_true]
    exact h.ofStructured_eq haddress hchain hzeros

/-- **…and under `Address`.** -/
theorem Holds.ofValue_tagged (h : Holds a address c) (hne : address ≠ [])
    (hv : IsContent address c v) : ofValue (.tagged "Address" v) = .ok a := by
  cases hv with
  | text htext => exact h.parse_eq hne htext
  | lists haddress hchain hzeros hbare => exact h.ofStructured_eq haddress hchain hzeros

/-! ## What is written -/

theorem toList_text_eq (a : ChainAddress) : a.text.toList
    = Hex.encode a.address.toList ++ '@' :: Hex.encode a.chain.toBytes.toList := by
  rw [toList_text, RoutedChain.text, Hex.text, String.toList_ofList]

/-- The canonical text is at full width… -/
theorem length_text (a : ChainAddress) : a.text.length = 64 + 1 + 18 := by
  rw [← String.length_toList, toList_text_eq, List.length_append, List.length_cons,
    Hex.length_encode, Hex.length_encode, a.address.length_eq, a.chain.toBytes.length_eq]

/-- …and in lower case. -/
theorem toLower_of_mem_text (a : ChainAddress) : ∀ ch ∈ a.text.toList, ch.toLower = ch := by
  have hdigit : ∀ n < 16, (Hex.digit n).toLower = Hex.digit n := by decide
  have hencode : ∀ bytes, ∀ ch ∈ Hex.encode bytes, ch.toLower = ch := by
    intro bytes ch hmem
    obtain ⟨n, hn, rfl⟩ := Hex.exists_digit_of_mem_encode hmem
    exact hdigit n hn
  intro ch hmem
  rw [toList_text_eq, List.mem_append, List.mem_cons] at hmem
  rcases hmem with hmem | rfl | hmem
  · exact hencode _ ch hmem
  · decide
  · exact hencode _ ch hmem

/-- Canonical texts tell addresses apart. -/
theorem text_inj {a b : ChainAddress} : a.text = b.text ↔ a = b := by
  refine ⟨fun h => ?_, congrArg text⟩
  have hparse := a.parse_text
  rw [h, b.parse_text] at hparse
  exact (Except.ok.inj hparse).symm

theorem holds_self (a : ChainAddress) : Holds a a.address.toList a.chain := by
  refine ⟨?_, rfl⟩
  rw [a.address.length_eq, Nat.sub_self, List.replicate_zero, List.append_nil]

theorem address_ne_nil (a : ChainAddress) : a.address.toList ≠ [] :=
  List.ne_nil_of_length_pos (by rw [a.address.length_eq]; decide)

/-- The structured form is one of those that are read… -/
theorem isContent_toStructured (a : ChainAddress) :
    IsContent a.address.toList a.chain a.toStructured :=
  .lists (k := 0) rfl rfl rfl rfl

/-- …and so is the text that is written in JSON. -/
theorem isContent_encode (a : ChainAddress) :
    IsContent a.address.toList a.chain (codec.encode a) :=
  .text ⟨_, _, a.toList_text_eq, Hex.isText_encode _, Hex.isText_encode _⟩

end ChainAddress

/-! ## Assets -/

namespace Asset

variable {n : UInt64} {v : Value}

/-- A text with an `@` is an address. -/
theorem parse_of_at (hat : '@' ∈ s.toList) : parse s = (ChainAddress.parse s).map .address := by
  have hcontains : s.toList.contains '@' = true := List.contains_iff_mem.mpr hat
  simp only [parse, Numeral.decimal?_eq_none hat (by decide), if_pos hcontains]

theorem ofValue_tagged (v : Value) :
    ofValue (.tagged "Address" v) = (ChainAddress.ofValue (.tagged "Address" v)).map .address := rfl

/-- **The texts of an index:** its decimal numeral behind any number of zeros. -/
def IsNumeral (n : UInt64) (text : String) : Prop :=
  ∃ k, text.toList = List.replicate k '0' ++ Nat.toDigits 10 n.toNat

theorem parse_of_isNumeral (h : IsNumeral n s) : parse s = .ok (.index n) := by
  obtain ⟨k, hs⟩ := h
  have hn : Numeral.decimal? s.toList = some n.toNat :=
    hs ▸ Numeral.decimal?_replicate_append k n.toNat
  have hlt : n.toNat < Nat.pow 2 64 := n.toNat_lt
  simp only [parse, hn, if_pos hlt, UInt64.ofNat_toNat]

/-- **What an index is in JSON:** the number, or a text of it. -/
inductive IsIndex (n : UInt64) : Value → Prop
  | number : IsIndex n (.nat n.toNat)
  | text {s : String} (htext : IsNumeral n s) : IsIndex n (.string s)

theorem ofNumber_eq (n : UInt64) : ofNumber (.int n.toNat) = .ok (.index n) := by
  have hbounds : 0 ≤ (n.toNat : Int) ∧ (n.toNat : Int) < Int.pow 2 64 :=
    ⟨Int.natCast_nonneg _, Int.ofNat_lt.mpr n.toNat_lt⟩
  rw [ofNumber, if_pos hbounds, Int.toNat_natCast, UInt64.ofNat_toNat]

/-- **An index is read bare…** -/
theorem ofValue_of_isIndex (h : IsIndex n v) : ofValue v = .ok (.index n) := by
  cases h with
  | number => exact ofNumber_eq n
  | text htext => exact parse_of_isNumeral htext

-- `m` stays a variable: were its value in view, the bound of 64 bits would be counted down
theorem ofIndexMember_number {m : Json.Number} (h : ofNumber m = .ok (.index n)) :
    ofIndexMember (.number m) = .ok (.index n) := by
  simp only [ofIndexMember, h]

/-- **…and under `Index`.** -/
theorem ofValue_tagged_of_isIndex (h : IsIndex n v) :
    ofValue (.tagged "Index" v) = .ok (.index n) := by
  have htag : ofValue (.tagged "Index" v) = ofIndexMember v := by
    simp only [ofValue, Value.tagged, Value.get?, List.lookup_cons_self]
  rw [htag]
  cases h with
  | number => exact ofIndexMember_number (ofNumber_eq n)
  | text htext => simp only [ofIndexMember, parse_of_isNumeral htext]

/-- **An asset is read back from its structured form…** -/
theorem ofValue_toStructured (x : Asset) : ofValue x.toStructured = .ok x := by
  cases x with
  | index n => exact ofValue_tagged_of_isIndex .number
  | address a =>
    have h := a.holds_self.ofValue_tagged a.address_ne_nil a.isContent_toStructured
    rw [toStructured, ofValue_tagged, h]
    rfl

/-- **…and from its text in JSON.** -/
theorem ofValue_encode (x : Asset) : ofValue (codec.encode x) = .ok x := parse_text x

end Asset

/-! ## The forms agree -/

/-- What each form of an address on a chain is read as, by itself and as an asset. -/
structure ChainAddress.ReadsAs (a : ChainAddress) (address : List UInt8) (c : RoutedChain) :
    Prop where
  text : ∀ s, IsText address c s → parse s = .ok a ∧ Asset.parse s = .ok (.address a)
    ∧ Asset.ofValue (.string s) = .ok (.address a)
  content : ∀ v, IsContent address c v → ofValue v = .ok a
  tagged : ∀ v, IsContent address c v → ofValue (.tagged "Address" v) = .ok a
    ∧ Asset.ofValue (.tagged "Address" v) = .ok (.address a)

theorem ChainAddress.Holds.readsAs (h : Holds a address c) (hne : address ≠ []) :
    a.ReadsAs address c where
  text s htext := by
    have hparse := h.parse_eq hne htext
    have hasset : Asset.parse s = .ok (.address a) := by
      obtain ⟨front, back, hs, -⟩ := htext
      rw [Asset.parse_of_at (by rw [hs]; simp), hparse]
      rfl
    exact ⟨hparse, hasset, hasset⟩
  content v hv := h.ofValue_eq hne hv
  tagged v hv := by
    have htagged := h.ofValue_tagged hne hv
    refine ⟨htagged, ?_⟩
    rw [Asset.ofValue_tagged, htagged]
    rfl

/-- What each form of an index is read as. -/
structure Asset.ReadsAs (n : UInt64) : Prop where
  text : ∀ s, IsNumeral n s → parse s = .ok (.index n)
  bare : ∀ v, IsIndex n v → ofValue v = .ok (.index n)
  tagged : ∀ v, IsIndex n v → ofValue (.tagged "Index" v) = .ok (.index n)

/-- **All forms agree.**  An address of one to 32 bytes and a chain are one address on a chain: the one
that its parts are, that every text and every content of them is read as, with any zeros behind the
address up to the width, and that is read back from what is written for it.  As assets, all forms of an
index agree too, and every asset is read back from what is written for it. -/
theorem ChainAddress.forms_agree (address : List UInt8) (c : RoutedChain)
    (hne : 1 ≤ address.length) (hle : address.length ≤ 32) :
    (∃ a, ofParts address c.toBytes.toList = .ok a
      ∧ (∀ k, address.length + k ≤ 32 → a.ReadsAs (address ++ List.replicate k 0) c)
      ∧ a.text.toList = Hex.encode (address ++ List.replicate (32 - address.length) 0)
        ++ '@' :: Hex.encode c.toBytes.toList
      ∧ a.text.length = 64 + 1 + 18 ∧ (∀ ch ∈ a.text.toList, ch.toLower = ch)
      ∧ parse a.text = .ok a ∧ ofValue a.toStructured = .ok a
      ∧ ofValue (codec.encode a) = .ok a ∧ codec.read (codec.write a) = .ok a)
    ∧ (∀ n, Asset.ReadsAs n)
    ∧ ∀ x : Asset, Asset.ofValue x.toStructured = .ok x
      ∧ Asset.ofValue (Asset.codec.encode x) = .ok x ∧ Asset.codec.read (Asset.codec.write x) = .ok x := by
  refine ⟨?_, fun n => ?_, fun x => ?_⟩
  · obtain ⟨padded, hpadded⟩ := exists_address_eq address hle
    have h : Holds ⟨padded, c⟩ address c := ⟨hpadded, rfl⟩
    generalize (⟨padded, c⟩ : ChainAddress) = a at h
    refine ⟨a, h.ofParts_eq (k := 0) rfl, fun k hk => (h.extend hk).readsAs ?_, ?_, a.length_text,
      a.toLower_of_mem_text, a.parse_text, ?_, ?_, ?_⟩
    · exact List.append_ne_nil_of_left_ne_nil (List.length_pos_iff.mp hne) _
    · rw [toList_text_eq, h.1, h.2]
    · exact a.holds_self.ofValue_eq a.address_ne_nil a.isContent_toStructured
    · exact a.holds_self.ofValue_eq a.address_ne_nil a.isContent_encode
    · exact a.carries.read_write (Nat.zero_le _)
  · exact ⟨fun _ => Asset.parse_of_isNumeral, fun _ => Asset.ofValue_of_isIndex,
      fun _ => Asset.ofValue_tagged_of_isIndex⟩
  · exact ⟨x.ofValue_toStructured, x.ofValue_encode, x.carries.read_write (Nat.zero_le _)⟩

theorem ChainAddress.forms_agree_short : ∃ a,
    ofParts [0xab] (RoutedChain.evm ⟨1⟩).toBytes.toList = .ok a
      ∧ parse "0xaB00@0x000000000000000001" = .ok a
      ∧ ofValue (.tagged "Address"
        (.object [("address", bytesValue [0xab]), ("chain", bytesValue [1])])) = .ok a := by
  obtain ⟨a, hparts, hreads, -⟩ :=
    (forms_agree [0xab] (RoutedChain.evm ⟨1⟩) (by decide) (by decide)).1
  have htext : IsText ([0xab] ++ List.replicate 1 0) (RoutedChain.evm ⟨1⟩)
      "0xaB00@0x000000000000000001" :=
    ⟨"0xaB00".toList, "0x000000000000000001".toList, rfl, ⟨_, .inr rfl, rfl⟩, ⟨_, .inr rfl, rfl⟩⟩
  exact ⟨a, hparts, ((hreads 1 (by decide)).text _ htext).1,
    ((hreads 0 (by decide)).tagged _ (.lists (k := 8) rfl rfl rfl rfl)).1⟩

end OrderDesk
