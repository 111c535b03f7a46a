import OrderDesk.Bytes
import OrderDesk.Error

/-!
# Identifier/ChainId — 64-bit chain identifiers

A chain id is read from an integer, a decimal numeral, a hexadecimal one with or without `0x`, or at
most eight bytes, the most significant first; it is written as an integer.  Digits alone are
decimal, so `10` is ten and `1a` is twenty-six.  A hexadecimal numeral may have an odd number of
digits, and zeros in front do not count against its width; bytes do.
-/

namespace OrderDesk

/-- Bytes from a hexadecimal text, without an optional `0x`; the flaw shows the text without it. -/
def decodeHex (cs : List Char) : Except Error (List UInt8) :=
  let digits := Hex.dropMarker cs
  match Hex.decode digits with
  | .ok bytes => .ok bytes
  | .error fault => .error (.invalidIdentifier (.notHex (String.ofList digits) fault))

/-- Bytes brought to a width by zeros in front; more bytes do not fit. -/
def padLeft (n : Nat) (what : String) (bytes : List UInt8) : Except Error (FixedBytes n) :=
  match FixedBytes.padLeft? bytes with
  | some padded => .ok padded
  | none => .error (.overflow (.width what bytes.length n))

/-- A 64-bit chain identifier. -/
structure ChainId where
  /-- The number. -/
  value : UInt64
deriving DecidableEq, Repr

namespace ChainId

/-- The chain with the number zero. -/
instance : Inhabited ChainId := ⟨⟨0⟩⟩

/-- The eight bytes of a chain id, the most significant first. -/
def toBytes (c : ChainId) : FixedBytes 8 := ⟨Bytes.ofNat 8 c.value.toNat, Bytes.length_ofNat _ _⟩

/-- The chain id that eight bytes denote. -/
def ofBytes (bytes : FixedBytes 8) : ChainId := ⟨.ofNat (Bytes.toNat bytes.toList)⟩

/-- The chain id that at most eight bytes denote. -/
def ofByteList (bytes : List UInt8) : Except Error ChainId :=
  (padLeft 8 "chain id" bytes).map ofBytes

/-- The chain id of a hexadecimal text; a digit too few is supplied in front. -/
def parseHex (cs : List Char) : Except Error ChainId := do
  let bytes ← match decodeHex cs with
    | .ok bytes => .ok bytes
    | .error _ => decodeHex ('0' :: Hex.dropMarker cs)
  ofByteList (bytes.dropWhile (· = 0))

/-- **Reading a text.** -/
def parse (text : String) : Except Error ChainId :=
  let cs := text.toList
  if cs = [] ∨ cs = ['0', 'x'] then .error (.invalidIdentifier (.emptyChainId text))
  else
    match Numeral.decimal? cs with
    | some n =>
      if n < Nat.pow 2 64 then .ok ⟨.ofNat n⟩ else .error (.overflow (.chainId text))
    | none => parseHex cs

/-- The decimal numeral of a chain id. -/
def text (c : ChainId) : String := Numeral.decimal c.value.toNat

/-- A chain id from an integer of at most 64 bits, of either sign. -/
def ofInt (z : Int) : Except Json.Fault ChainId :=
  if 0 ≤ z then .ok ⟨.ofNat z.toNat⟩
  else .error (.refused ("negative chain id " ++ Numeral.signed z))

/-- The bytes of an array. -/
def readBytes (o : Json.Origin) (ds : List Json.Document) : Except Json.Fault (List UInt8) :=
  Json.Codec.readAll (Json.Codec.byte.decode o) ds

/-- An error of an identifier as a decoder reports it. -/
def reported {α : Type} (r : Except Error α) : Except Json.Fault α := r.mapError Error.toFault

/-- A chain id in JSON: written as an integer, read in every form. -/
def codec : Json.Codec ChainId where
  encode c := .nat c.value.toNat
  decode o d := match d with
    | .number (.int z) =>
      if -(Int.pow 2 63) ≤ z ∧ z < Int.pow 2 64 then ofInt z else .error .unreadable
    | .string s => reported (parse s)
    | .array ds => (readBytes o ds).bind fun bytes => reported (ofByteList bytes)
    | _ => .error .unreadable

end ChainId

end OrderDesk
