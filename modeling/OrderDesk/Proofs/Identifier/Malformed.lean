import OrderDesk.Proofs.Identifier.Checked
import OrderDesk.Proofs.Identifier.Readings

/-!
# Proofs/Identifier/Malformed — what is no identifier is refused as malformed

    text ──cut at `@`──▸ digits ──▸ bytes ──▸ address on a chain ──▸ asset
    object ──member──▸ list ──▸ bytes ──▸        ″

Addresses on chains and assets are read step by step, and each step is checked: a member is looked
up only where it was found, and what is missing elsewhere counts as `null`.  No step fails, and
whatever is refused is refused as a malformed identifier (`identifiers_decided`), so also what is
too large.
-/

namespace OrderDesk

open Checked (Decides liftM_eq)
open Json (Value)

variable {bytes : List UInt8} {v : Value} {s : String}

/-! ## Addresses on chains -/

namespace ChainAddress

/-- More than 32 bytes are no address. -/
theorem padAddress_of_lt (h : 32 < bytes.length) :
    padAddress bytes = .error (.invalidIdentifier (.addressLength bytes.length)) := by
  have hnone : FixedBytes.padRight? (n := 32) bytes = none := by
    refine Option.eq_none_iff_forall_ne_some.mpr fun p hp => ?_
    have hlength := congrArg List.length (FixedBytes.padRight?_eq_some_iff.mp hp)
    rw [p.length_eq, List.length_append] at hlength
    omega
  rw [padAddress, hnone]

/-- Zeros behind an address: its bytes are copied to the front of as many zeros as it takes. -/
def padAddressChecked (bytes : List UInt8) : Checked (FixedBytes 32) :=
  if 32 < bytes.length then throw (.invalidIdentifier (.addressLength bytes.length))
  else do
    let padded ← Bytes.copy? 0 bytes.length bytes (List.replicate 32 0)
    return ← FixedBytes.ofList? padded

theorem decides_padAddress (bytes : List UInt8) :
    Decides (padAddressChecked bytes) (padAddress bytes) := by
  rw [padAddressChecked]
  by_cases h : 32 < bytes.length
  · rw [if_pos h, padAddress_of_lt h]
    exact .refuse _
  · obtain ⟨p, hp⟩ := exists_address_eq bytes (Nat.le_of_not_lt h)
    have hcopy : Bytes.copy? 0 bytes.length bytes (List.replicate 32 0) = some p.toList := by
      rw [Bytes.copy?, if_pos (by rw [List.length_replicate]; omega), List.take_zero,
        List.drop_replicate, List.nil_append, hp]
    have hwidth : FixedBytes.ofList? p.toList = some p := FixedBytes.ofList?_eq_some_iff.mpr rfl
    rw [if_neg h, liftM_eq hcopy, pure_bind, liftM_eq hwidth, padAddress_eq_ok_iff.mpr hp]
    exact .accept p

/-- Parts as an address on a chain. -/
def ofPartsChecked (address chain : List UInt8) : Checked ChainAddress := do
  let address ← padAddressChecked address
  let chain ← RoutedChain.ofByteListChecked chain
  return ⟨address, chain⟩

theorem decides_ofParts (address chain : List UInt8) :
    Decides (ofPartsChecked address chain) (ofParts address chain) :=
  (decides_padAddress address).bind fun _ =>
    (RoutedChain.decides_ofByteList chain).bind fun _ => .accept _

/-- A text as an address on a chain, cut at its `@` and behind its marker. -/
def parseChecked (text : String) : Checked ChainAddress := do
  match ← Text.splitSign? text with
  | none => throw (.invalidIdentifier (.noChainPart text))
  | some (address, chain) =>
    let digits ← Text.unmarked? address
    if digits.toList.isEmpty then throw (.invalidIdentifier (.emptyAddress text))
    else do
      let chain ← RoutedChain.parseChecked chain
      let address ← decodeHexChecked digits >>= padAddressChecked
      return ⟨address, chain⟩

theorem decides_parse (text : String) : Decides (parseChecked text) (parse text) := by
  rw [parseChecked, liftM_eq (Text.splitSign?_eq text), pure_bind, parse]
  cases splitAt? text.toList with
  | none => exact .refuse _
  | some parts =>
    obtain ⟨address, chain⟩ := parts
    simp only [Option.map_some]
    rw [liftM_eq (Text.unmarked?_eq _), pure_bind, String.toList_ofList, String.toList_ofList]
    split
    · exact .refuse _
    · exact (RoutedChain.decides_parse _).bind fun _ =>
        ((decides_decodeHex _).bind decides_padAddress).bind fun _ => .accept _

end ChainAddress

/-! ## Values -/

/-- A member of a value, `null` if there is none. -/
def Json.Value.member (name : String) (v : Value) : Value := (v.get? name).getD .null

namespace ChainAddress

/-- **A list is read if its items are bytes,** and refused for the first that is none. -/
theorem bytesOf_cases (name : String) (items : List Value) :
    (∃ bytes, bytesOf name items = .ok bytes ∧ ∀ item ∈ items, byte? item ≠ none)
      ∨ ∃ item ∈ items, byte? item = none
        ∧ bytesOf name items = .error (.invalidIdentifier (.notByte name item)) := by
  induction items with
  | nil => exact .inl ⟨[], rfl, List.forall_mem_nil _⟩
  | cons item items ih =>
    cases hbyte : byte? item with
    | none => exact .inr ⟨item, List.mem_cons_self, hbyte, by rw [bytesOf, hbyte]⟩
    | some b =>
      rcases ih with ⟨bytes, hread, hall⟩ | ⟨bad, hmem, hbad, hread⟩
      · refine .inl ⟨b :: bytes, by rw [bytesOf, hbyte, hread]; rfl, ?_⟩
        exact List.forall_mem_cons.mpr ⟨by rw [hbyte]; simp, hall⟩
      · refine .inr ⟨bad, List.mem_cons_of_mem _ hmem, hbad, ?_⟩
        rw [bytesOf, hbyte, hread]
        rfl

/-- A value as a list of bytes. -/
def bytesChecked (name : String) : Value → Checked (List UInt8)
  | .array items => .ofReading (bytesOf name items)
  | _ => throw (.invalidIdentifier (.notByteList name))

theorem decides_byteList (name : String) (v : Value) :
    Decides (bytesChecked name (v.member name)) (byteList name v) := by
  rw [byteList, Json.Value.member]
  cases v.get? name with
  | none => exact .refuse _
  | some inner =>
    cases inner with
    | array items =>
      simp only [Option.getD_some, bytesChecked]
      rcases bytesOf_cases name items with ⟨bytes, hread, -⟩ | ⟨bad, -, -, hread⟩
      · rw [hread]
        exact .accept bytes
      · rw [hread]
        exact .refuse _
    | _ => exact .refuse _

/-- The byte lists of an object as an address on a chain. -/
def ofStructuredChecked (v : Value) : Checked ChainAddress := do
  let address ← bytesChecked "address" (v.member "address")
  let chain ← bytesChecked "chain" (v.member "chain")
  ofPartsChecked address chain

theorem decides_ofStructured (v : Value) : Decides (ofStructuredChecked v) (ofStructured v) :=
  (decides_byteList "address" v).bind fun address =>
    (decides_byteList "chain" v).bind fun chain => decides_ofParts address chain

/-- A value as an address on a chain; an `Address` is looked for before it is looked up. -/
def ofValueChecked : Value → Checked ChainAddress
  | .string s => parseChecked s
  | v =>
    if (v.get? "Address").isSome then do
      match ← v.get? "Address" with
      | .string s => parseChecked s
      | .object members => ofStructuredChecked (.object members)
      | other => throw (.invalidIdentifier (.badMember "Address" other))
    else if (v.get? "address").isSome ∧ (v.get? "chain").isSome then ofStructuredChecked v
    else throw (.invalidIdentifier (.notChainAddress v))

theorem decides_ofValue (v : Value) : Decides (ofValueChecked v) (ofValue v) := by
  cases v with
  | string s => exact decides_parse s
  | object members =>
    simp only [ofValueChecked, ofValue]
    cases haddress : (Value.object members).get? "Address" with
    | some inner =>
      rw [if_pos (Option.isSome_some), liftM_eq rfl, pure_bind]
      cases inner with
      | string s => exact decides_parse s
      | object members => exact decides_ofStructured _
      | _ => exact .refuse _
    | none =>
      rw [if_neg (by simp)]
      split
      · exact decides_ofStructured _
      · exact .refuse _
  | _ => exact .refuse _

end ChainAddress

namespace Asset

/-- A text as an asset. -/
def parseChecked (text : String) : Checked Asset :=
  match Numeral.decimal? text.toList with
  | some n =>
    if n < Nat.pow 2 64 then return .index (.ofNat n)
    else throw (.invalidIdentifier (.largeIndex text))
  | none =>
    if text.toList.contains '@' then Asset.address <$> ChainAddress.parseChecked text
    else do
      let digits ← Text.unmarked? text
      if !digits.toList.isEmpty && digits.toList.all Hex.isDigit then
        throw (.invalidIdentifier (.bareAddress text))
      else throw (.invalidIdentifier (.notAsset text))

theorem decides_parse (text : String) : Decides (parseChecked text) (parse text) := by
  simp only [parseChecked, parse]
  cases Numeral.decimal? text.toList with
  | some n =>
    simp only
    split
    · exact .accept _
    · exact .refuse _
  | none =>
    simp only
    split
    · exact (ChainAddress.decides_parse text).map _
    · rw [liftM_eq (Text.unmarked?_eq text), pure_bind, String.toList_ofList]
      split
      · exact .refuse _
      · exact .refuse _

theorem decides_ofNumber (n : Json.Number) : Decides (.ofReading (ofNumber n)) (ofNumber n) := by
  cases n with
  | int z =>
    rw [ofNumber]
    split
    · exact .accept _
    · exact .refuse _
  | float x => exact .refuse _

/-- An asset that is known by an index. -/
def asIndex : Asset → Except Error Asset
  | .index n => .ok (.index n)
  | .address _ => .error (.invalidIdentifier .indexHoldsAddress)

theorem decides_asIndex (x : Asset) : Decides (.ofReading x.asIndex) x.asIndex := by
  cases x with
  | index n => exact .accept _
  | address a => exact .refuse _

/-- The `Index` of a value, which is looked up. -/
def indexChecked (v : Value) : Checked Asset := do
  match ← v.get? "Index" with
  | .number n => Checked.ofReading (ofNumber n) >>= fun x => .ofReading x.asIndex
  | .string s => parseChecked s >>= fun x => .ofReading x.asIndex
  | other => throw (.invalidIdentifier (.badMember "Index" other))

theorem bind_asIndex (r : Except Error Asset) : (r >>= asIndex) = match r with
    | .ok (.address _) => .error (.invalidIdentifier .indexHoldsAddress)
    | other => other := by
  rcases r with e | n | a <;> rfl

theorem decides_ofIndexMember {inner : Value} (h : v.get? "Index" = some inner) :
    Decides (indexChecked v) (ofIndexMember inner) := by
  rw [indexChecked, liftM_eq h, pure_bind]
  cases inner with
  | number n =>
    have heq : ofIndexMember (.number n) = (ofNumber n >>= asIndex) := (bind_asIndex _).symm
    rw [heq]
    exact (decides_ofNumber n).bind decides_asIndex
  | string s =>
    have heq : ofIndexMember (.string s) = (parse s >>= asIndex) := (bind_asIndex _).symm
    rw [heq]
    exact (decides_parse s).bind decides_asIndex
  | _ => exact .refuse _

/-- A value as an asset; an `Index` is looked for before it is looked up. -/
def ofValueChecked : Value → Checked Asset
  | .number n => .ofReading (ofNumber n)
  | .string s => parseChecked s
  | v =>
    if (v.get? "Index").isSome then indexChecked v
    else if (v.get? "Address").isSome then Asset.address <$> ChainAddress.ofValueChecked v
    else throw (.invalidIdentifier (.noIndexOrAddress v))

theorem decides_ofValue (v : Value) : Decides (ofValueChecked v) (ofValue v) := by
  cases v with
  | number n => exact decides_ofNumber n
  | string s => exact decides_parse s
  | object members =>
    simp only [ofValueChecked, ofValue]
    cases hindex : (Value.object members).get? "Index" with
    | some inner =>
      rw [if_pos Option.isSome_some]
      exact decides_ofIndexMember hindex
    | none =>
      rw [if_neg (by simp)]
      split
      · exact (ChainAddress.decides_ofValue _).map _
      · exact .refuse _
  | _ => exact .refuse _

end Asset

/-! ## What is too large -/

/-- A numeral beyond 64 bits is no index. -/
theorem Asset.parse_of_large {n : Nat} (hn : Numeral.decimal? s.toList = some n)
    (hlarge : Nat.pow 2 64 ≤ n) : parse s = .error (.invalidIdentifier (.largeIndex s)) := by
  simp only [parse, hn, if_neg (Nat.not_lt.mpr hlarge)]

namespace ChainAddress

variable {address chain : List UInt8}

/-- An address or a chain of too many bytes is none. -/
theorem ofParts_of_lt (h : 32 < address.length ∨ 9 < chain.length) :
    ofParts address chain = .error (.invalidIdentifier
      (if 32 < address.length then .addressLength address.length
        else .chainLength chain.length)) := by
  rw [ofParts]
  by_cases haddress : 32 < address.length
  · rw [padAddress_of_lt haddress, if_pos haddress]
    rfl
  · obtain ⟨p, hp⟩ := exists_address_eq address (Nat.le_of_not_lt haddress)
    have hchain := h.resolve_left haddress
    rw [padAddress_eq_ok_iff.mpr hp, if_neg haddress, RoutedChain.ofByteList_eq,
      padLeft_of_lt hchain]
    rfl

/-- Lists with an item that is no byte are refused for such an item. -/
theorem ofValue_of_notByte {items numbers : List Value} (hnone : v.get? "Address" = none)
    (haddress : v.get? "address" = some (.array items))
    (hchain : v.get? "chain" = some (.array numbers))
    (h : ∃ item ∈ items ++ numbers, byte? item = none) :
    ∃ name, ∃ item ∈ items ++ numbers, byte? item = none
      ∧ ofValue v = .error (.invalidIdentifier (.notByte name item)) := by
  have hread : ofValue v = (bytesOf "address" items >>= fun address =>
      bytesOf "chain" numbers >>= fun chain => ofParts address chain) := by
    cases v with
    | object members =>
      simp only [ofValue, hnone, haddress, hchain, Option.isSome_some, and_self, if_true,
        ofStructured, byteList]
    | _ => contradiction
  rcases bytesOf_cases "address" items with ⟨address, hok, hall⟩ | ⟨bad, hmem, hbad, herror⟩
  · rcases bytesOf_cases "chain" numbers with ⟨chain, -, hall'⟩ | ⟨bad, hmem, hbad, herror⟩
    · obtain ⟨item, hmem, hbyte⟩ := h
      exact absurd hbyte ((List.mem_append.mp hmem).elim (hall item) (hall' item))
    · refine ⟨"chain", bad, List.mem_append_right _ hmem, hbad, ?_⟩
      rw [hread, hok, herror]
      rfl
  · refine ⟨"address", bad, List.mem_append_left _ hmem, hbad, ?_⟩
    rw [hread, herror]
    rfl

end ChainAddress

/-! ## Every refusal -/

/-- **What is no identifier is refused as malformed.**  Chains, addresses on chains and assets, from
texts, values and bytes: every step of a reading has an outcome, and every refusal is of a malformed
identifier.  So an index beyond 64 bits, an address or a chain of too many bytes and a list with an
item that is no byte are refused. -/
theorem identifiers_decided :
    ((∀ s, Decides (RoutedChain.parseChecked s) (RoutedChain.parse s))
      ∧ (∀ bytes, Decides (RoutedChain.ofByteListChecked bytes) (RoutedChain.ofByteList bytes))
      ∧ (∀ s, Decides (ChainAddress.parseChecked s) (ChainAddress.parse s))
      ∧ (∀ v, Decides (ChainAddress.ofValueChecked v) (ChainAddress.ofValue v))
      ∧ (∀ address chain, Decides (ChainAddress.ofPartsChecked address chain)
          (ChainAddress.ofParts address chain))
      ∧ (∀ s, Decides (Asset.parseChecked s) (Asset.parse s))
      ∧ ∀ v, Decides (Asset.ofValueChecked v) (Asset.ofValue v))
    ∧ (∀ s n, Numeral.decimal? s.toList = some n → Nat.pow 2 64 ≤ n →
        Asset.parse s = .error (.invalidIdentifier (.largeIndex s)))
    ∧ (∀ address chain : List UInt8, 32 < address.length ∨ 9 < chain.length →
        ChainAddress.ofParts address chain = .error (.invalidIdentifier
          (if 32 < address.length then .addressLength address.length
            else .chainLength chain.length)))
    ∧ ∀ v items numbers, v.get? "Address" = none → v.get? "address" = some (.array items) →
        v.get? "chain" = some (.array numbers) →
        (∃ item ∈ items ++ numbers, ChainAddress.byte? item = none) →
        ∃ name, ∃ item ∈ items ++ numbers, ChainAddress.byte? item = none
          ∧ ChainAddress.ofValue v = .error (.invalidIdentifier (.notByte name item)) := by
  refine ⟨⟨RoutedChain.decides_parse, RoutedChain.decides_ofByteList, ChainAddress.decides_parse,
    ChainAddress.decides_ofValue, ChainAddress.decides_ofParts, Asset.decides_parse,
    Asset.decides_ofValue⟩, ?_, ?_, ?_⟩
  · exact fun s n => Asset.parse_of_large
  · exact fun address chain => ChainAddress.ofParts_of_lt
  · exact fun v items numbers => ChainAddress.ofValue_of_notByte

/-- An index, an address, a chain and an item of a list that are too large. -/
theorem identifiers_decided_tooLarge :
    Asset.parse "18446744073709551616"
      = .error (.invalidIdentifier (.largeIndex "18446744073709551616"))
    ∧ ChainAddress.ofParts (List.replicate 33 0) [1]
      = .error (.invalidIdentifier (.addressLength 33))
    ∧ ChainAddress.ofParts [1] (List.replicate 10 0)
      = .error (.invalidIdentifier (.chainLength 10))
    ∧ ∃ name, ∃ item ∈ [.nat 1, .nat 256], ChainAddress.byte? item = none
      ∧ ChainAddress.ofValue (.object [("address", .array [.nat 1]), ("chain", .array [.nat 256])])
        = .error (.invalidIdentifier (.notByte name item)) := by
  obtain ⟨-, hindex, hparts, hlists⟩ := identifiers_decided
  refine ⟨hindex _ (Nat.pow 2 64) ?_ (Nat.le_refl _), ?_, ?_, ?_⟩
  · rfl
  · exact hparts (List.replicate 33 0) [1] (.inl (by decide))
  · exact hparts [1] (List.replicate 10 0) (.inr (by decide))
  · exact hlists _ [.nat 1] [.nat 256] rfl rfl rfl ⟨.nat 256, by simp, by decide⟩

end OrderDesk
