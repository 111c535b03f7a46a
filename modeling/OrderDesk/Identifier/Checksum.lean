import OrderDesk.Crypto.Keccak
import OrderDesk.Identifier.ChainAddress

/-!
# Identifier/Checksum — EVM addresses in checksummed letters

The letters of an address are put in upper case where the digest of its lower-case digits has a
half-byte of at least eight.
-/

namespace OrderDesk.ChainAddress

/-- A digit in the case that a half-byte of the digest asks for. -/
def casedDigit (digit nibble : Char) : Char :=
  match Hex.value? nibble with
  | some n => if n ≥ 8 then digit.toUpper else digit
  | none => digit

/-- An EVM address with `0x` and a checksum in the case of its letters. -/
def checksummed (address : FixedBytes 20) : String :=
  let digits := Hex.encode address.toList
  let digest := Hex.encode (Keccak.keccak256 (Bytes.ofString (String.ofList digits)))
  "0x" ++ String.ofList (List.zipWith casedDigit digits digest)

end OrderDesk.ChainAddress
