import OrderDesk.Identifier.RoutedChain

/-!
# Identifier/ChainAddress — addresses on chains

A chain address is a 32-byte address on a routed chain.  Its canonical text is
`hex(address)@hex(chain)`, in lower case and at full width.  Addresses of fewer bytes are brought to
the width by zeros *behind* them, so that an EVM address keeps its place at the front.  In JSON the
text may stand under `Address`, and so may the byte lists `address` and `chain`, which may also stand
by themselves.
-/

namespace OrderDesk

/-- An address on a chain. -/
structure ChainAddress where
  /-- The address, filled up with zeros. -/
  address : FixedBytes 32
  /-- The chain. -/
  chain : RoutedChain
deriving DecidableEq

namespace ChainAddress

/-- How many bytes an EVM address takes. -/
def evmWidth : Nat := 20

/-- Address bytes brought to the width by zeros behind. -/
def padAddress (bytes : List UInt8) : Except Error (FixedBytes 32) :=
  match FixedBytes.padRight? bytes with
  | some padded => .ok padded
  | none => .error (.invalidIdentifier (.addressLength bytes.length))

/-- The chain address of at most 32 address bytes and at most 9 chain bytes. -/
def ofParts (address chain : List UInt8) : Except Error ChainAddress := do
  let address ← padAddress address
  let chain ← RoutedChain.ofByteList chain
  return ⟨address, chain⟩

/-- An EVM address on a chain. -/
def ofEvm (address : FixedBytes 20) (chain : RoutedChain) : ChainAddress :=
  ⟨⟨address.toList ++ List.replicate 12 0, by simp [address.length_eq]⟩, chain⟩

/-- The first twenty bytes of the address. -/
def evmAddress (a : ChainAddress) : FixedBytes 20 := a.address.take 20 (by decide)

/-- Whether raw bytes, as an EVM address or at full width, are this address. -/
def containsAddress (a : ChainAddress) (raw : List UInt8) : Bool :=
  (raw.length = evmWidth || raw.length = 32) &&
    (match padAddress raw with
    | .ok padded => padded = a.address
    | .error _ => false)

/-- Whether the address lives on a chain, whatever its routing. -/
def isOnChain (a : ChainAddress) (chain : ChainId) : Bool := a.chain.chain = chain

/-! ## Order -/

/-- The order of addresses: by the bytes of the address, then by the routing id and the number of
the chain. -/
def before (a b : ChainAddress) : Bool :=
  a.address.toList < b.address.toList ||
    (a.address = b.address &&
      (a.chain.routing < b.chain.routing ||
        (a.chain.routing = b.chain.routing && a.chain.chain.value < b.chain.chain.value)))

/-- Addresses in increasing order, each once. -/
def sortDistinct (addresses : List ChainAddress) : List ChainAddress :=
  (addresses.mergeSort fun a b => !before b a).eraseReps

/-! ## Text -/

/-- The text before the first `@` and the text behind it. -/
def splitAt? (cs : List Char) : Option (List Char × List Char) :=
  match cs.dropWhile (· ≠ '@') with
  | [] => none
  | _ :: chain => some (cs.takeWhile (· ≠ '@'), chain)

/-- **Reading a text.**  The chain is read before the digits of the address. -/
def parse (text : String) : Except Error ChainAddress :=
  match splitAt? text.toList with
  | none => .error (.invalidIdentifier (.noChainPart text))
  | some (address, chain) =>
    let digits := Hex.dropMarker address
    if digits.isEmpty then .error (.invalidIdentifier (.emptyAddress text))
    else do
      let chain ← RoutedChain.parse (String.ofList chain)
      let address ← decodeHex digits >>= padAddress
      return ⟨address, chain⟩

/-- The canonical text. -/
def text (a : ChainAddress) : String :=
  Hex.text a.address.toList ++ "@" ++ a.chain.text

/-- A chain address as diagnostics show it. -/
def debugText (a : ChainAddress) : String := "ChainAddress(" ++ a.text ++ ")"

/-! ## JSON -/

/-- A list of bytes as JSON. -/
def bytesValue (bytes : List UInt8) : Json.Value := .array (bytes.map fun b => .nat b.toNat)

/-- The address and the chain as byte lists. -/
def toStructured (a : ChainAddress) : Json.Value :=
  .object [("address", bytesValue a.address.toList), ("chain", bytesValue a.chain.toBytes.toList)]

/-- The byte that a JSON value is. -/
def byte? : Json.Value → Option UInt8
  | .number (.int z) => if 0 ≤ z ∧ z < 256 then some (.ofNat z.toNat) else none
  | _ => none

/-- The bytes of a list, up to the first item that is none. -/
def bytesOf (name : String) : List Json.Value → Except Error (List UInt8)
  | [] => .ok []
  | item :: items =>
    match byte? item with
    | some b => (bytesOf name items).map (b :: ·)
    | none => .error (.invalidIdentifier (.notByte name item))

/-- The byte list that a member of an object holds. -/
def byteList (name : String) (v : Json.Value) : Except Error (List UInt8) :=
  match v.get? name with
  | some (.array items) => bytesOf name items
  | _ => .error (.invalidIdentifier (.notByteList name))

/-- A chain address from the byte lists of an object. -/
def ofStructured (v : Json.Value) : Except Error ChainAddress := do
  let address ← byteList "address" v
  let chain ← byteList "chain" v
  ofParts address chain

/-- **Reading a value**: a text, an object with an `Address`, or an object with byte lists. -/
def ofValue (v : Json.Value) : Except Error ChainAddress :=
  match v with
  | .string s => parse s
  | _ =>
    match v.get? "Address" with
    | some (.string s) => parse s
    | some (.object members) => ofStructured (.object members)
    | some other => .error (.invalidIdentifier (.badMember "Address" other))
    | none =>
      if (v.get? "address").isSome ∧ (v.get? "chain").isSome then ofStructured v
      else .error (.invalidIdentifier (.notChainAddress v))

/-- A chain address in JSON: written as its text, read in every form. -/
def codec : Json.Codec ChainAddress where
  encode a := .string a.text
  decode o d := (Json.Codec.free.decode o d).bind fun v => ChainId.reported (ofValue v)

end ChainAddress

end OrderDesk
