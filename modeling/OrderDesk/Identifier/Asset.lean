import OrderDesk.Identifier.ChainAddress

/-!
# Identifier/Asset — assets by index or by address

Digits alone are an index into the registry of assets; a text with an `@`, or structured address
fields, are a chain address.  Nothing is guessed: an address without its chain is refused.
-/

namespace OrderDesk

/-- An asset. -/
inductive Asset where
  /-- The entry of the registry with this index. -/
  | index (n : UInt64)
  /-- The asset at this address. -/
  | address (a : ChainAddress)
deriving DecidableEq

namespace Asset

/-- **Reading a text.** -/
def parse (text : String) : Except Error Asset :=
  let cs := text.toList
  match Numeral.decimal? cs with
  | some n =>
    if n < Nat.pow 2 64 then .ok (.index (.ofNat n))
    else .error (.invalidIdentifier (.largeIndex text))
  | none =>
    if cs.contains '@' then (ChainAddress.parse text).map .address
    else
      let digits := Hex.dropMarker cs
      if !digits.isEmpty && digits.all Hex.isDigit then
        .error (.invalidIdentifier (.bareAddress text))
      else .error (.invalidIdentifier (.notAsset text))

/-- The index that a number is. -/
def ofNumber (n : Json.Number) : Except Error Asset :=
  match n with
  | .int z =>
    if 0 ≤ z ∧ z < Int.pow 2 64 then .ok (.index (.ofNat z.toNat))
    else .error (.invalidIdentifier (.notIndex n))
  | .float _ => .error (.invalidIdentifier (.notIndex n))

/-- The content of `Index`: a number or a text that is an index. -/
def ofIndexMember (v : Json.Value) : Except Error Asset :=
  let asset := match v with
    | .number n => ofNumber n
    | .string s => parse s
    | other => .error (.invalidIdentifier (.badMember "Index" other))
  match asset with
  | .ok (.address _) => .error (.invalidIdentifier .indexHoldsAddress)
  | other => other

/-- **Reading a value**: a number, a text, an object with an `Index` or with an `Address`. -/
def ofValue (v : Json.Value) : Except Error Asset :=
  match v with
  | .number n => ofNumber n
  | .string s => parse s
  | _ =>
    match v.get? "Index" with
    | some inner => ofIndexMember inner
    | none =>
      if (v.get? "Address").isSome then (ChainAddress.ofValue v).map .address
      else .error (.invalidIdentifier (.noIndexOrAddress v))

/-- The canonical text: a decimal numeral, or the text of the address. -/
def text : Asset → String
  | .index n => Numeral.decimal n.toNat
  | .address a => a.text

/-- The index, of an asset that is known by one. -/
def index? : Asset → Option UInt64
  | .index n => some n
  | .address _ => none

/-- The address, of an asset that is known by one. -/
def address? : Asset → Option ChainAddress
  | .index _ => none
  | .address a => some a

/-- An asset as a tagged object. -/
def toStructured : Asset → Json.Value
  | .index n => .tagged "Index" (.nat n.toNat)
  | .address a => .tagged "Address" a.toStructured

/-- An asset in JSON: written as its text, read in every form. -/
def codec : Json.Codec Asset where
  encode a := .string a.text
  decode o d := (Json.Codec.free.decode o d).bind fun v => ChainId.reported (ofValue v)

end Asset

end OrderDesk
