import OrderDesk.Identifier.ChainId

/-!
# Identifier/RoutedChain — the chain part of a chain address

Nine bytes: a routing id and the eight bytes of a chain id.  As text they are exactly eighteen
hexadecimal digits, with or without `0x`; as bytes fewer are brought to the width by zeros in front.
-/

namespace OrderDesk

/-- A chain with the family of chains through which it is reached. -/
structure RoutedChain where
  /-- The family; zero for EVM chains. -/
  routing : UInt8
  /-- The chain within the family. -/
  chain : ChainId
deriving DecidableEq, Repr

namespace RoutedChain

/-- How many bytes a routed chain takes. -/
def width : Nat := 9

/-- A chain of the EVM family. -/
def evm (chain : ChainId) : RoutedChain := ⟨0, chain⟩

/-- The nine bytes. -/
def toBytes (c : RoutedChain) : FixedBytes 9 :=
  ⟨c.routing :: c.chain.toBytes.toList, by rw [List.length_cons, c.chain.toBytes.length_eq]⟩

/-- The routed chain that nine bytes denote. -/
def ofBytes (bytes : FixedBytes 9) : RoutedChain :=
  ⟨bytes.toList.headD 0,
    .ofBytes ⟨bytes.toList.tail, by rw [List.length_tail, bytes.length_eq]⟩⟩

/-- The routed chain that at most nine bytes denote; more of them are a malformed chain. -/
def ofByteList (bytes : List UInt8) : Except Error RoutedChain :=
  match FixedBytes.padLeft? bytes with
  | some padded => .ok (ofBytes padded)
  | none => .error (.invalidIdentifier (.chainLength bytes.length))

/-- **Reading a text**: the length is checked behind an optional `0x`, in bytes. -/
def parse (text : String) : Except Error RoutedChain :=
  let digits := Hex.dropMarker text.toList
  if Hex.byteLength digits = 2 * width then decodeHex digits >>= ofByteList
  else .error (.invalidIdentifier (.chainDigits text))

/-- The eighteen digits, in lower case. -/
def text (c : RoutedChain) : String := Hex.text c.toBytes.toList

end RoutedChain

end OrderDesk
