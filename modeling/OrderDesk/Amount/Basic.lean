import OrderDesk.Identifier.ChainId

/-!
# Amount/Basic — 128-bit token amounts and their hexadecimal text

An amount is below 2¹²⁸.  In JSON it is a hexadecimal numeral, with `0x` or bare; it is read from
either and from an integer of 64 bits.  A plus sign may stand before the digits.  Digits are taken
from the left, so of a digit that does not fit and a character that is none the earlier is reported.
-/

namespace OrderDesk

/-- A token amount. -/
@[ext] structure Amount where
  /-- The number of atomic units. -/
  val : Nat
  /-- It has at most 128 bits. -/
  lt : val < Nat.pow 2 128
deriving DecidableEq

namespace Amount

instance : Inhabited Amount := ⟨⟨0, by decide⟩⟩

/-- The amount of a number that has at most 128 bits. -/
def ofNat? (n : Nat) : Option Amount := if h : n < Nat.pow 2 128 then some ⟨n, h⟩ else none

/-- What is wrong with a numeral. -/
inductive Fault where
  /-- There are no digits. -/
  | empty
  /-- A character is no digit. -/
  | badDigit
  /-- The number has more than 128 bits. -/
  | tooLarge
deriving DecidableEq, Repr

/-- What is wrong with a numeral, in words. -/
def Fault.message : Fault → String
  | .empty => "cannot parse integer from empty string"
  | .badDigit => "invalid digit found in string"
  | .tooLarge => "number too large to fit in target type"

/-- Digits taken behind a number that they extend. -/
def readDigits : Amount → List Char → Except Fault Amount
  | n, [] => .ok n
  | n, c :: cs =>
    match Hex.value? c with
    | none => .error .badDigit
    | some d =>
      match ofNat? (16 * n.val + d) with
      | none => .error .tooLarge
      | some n => readDigits n cs

/-- The number that hexadecimal digits with at most one plus sign denote. -/
def readNumeral : List Char → Except Fault Amount
  | [] => .error .empty
  | ['+'] => .error .badDigit
  | '+' :: cs => readDigits default cs
  | cs => readDigits default cs

/-- **Reading a text**, without an optional `0x`. -/
def parse (text : String) : Except Json.Fault Amount :=
  let digits := Hex.dropMarker text.toList
  if digits.isEmpty then .error (.refused "empty amount")
  else
    match readNumeral digits with
    | .ok n => .ok n
    | .error fault =>
      .error (.refused ("amount " ++ Quoted.text text ++ ": " ++ fault.message))

/-- The digits without a prefix. -/
def bareText (a : Amount) : String := Numeral.hex a.val

/-- The digits with `0x` before them. -/
def prefixedText (a : Amount) : String := "0x" ++ a.bareText

/-- An amount from a document, in every form. -/
def decode (_ : Json.Origin) : Json.Document → Except Json.Fault Amount
  | .number (.int z) =>
    if 0 ≤ z ∧ z < Int.pow 2 64 then
      match ofNat? z.toNat with
      | some a => .ok a
      | none => .error .unreadable
    else .error .unreadable
  | .string s => parse s
  | _ => .error .unreadable

/-- An amount in JSON, with a prefix. -/
def prefixedCodec : Json.Codec Amount := ⟨fun a => .string a.prefixedText, decode⟩

/-- An amount in JSON, without a prefix. -/
def bareCodec : Json.Codec Amount := ⟨fun a => .string a.bareText, decode⟩

/-- An amount in JSON as an integer, up to the full width. -/
def integerCodec : Json.Codec Amount where
  encode a := .nat a.val
  decode _ d := match d with
    | .number (.int z) =>
      if 0 ≤ z then
        match ofNat? z.toNat with
        | some a => .ok a
        | none => .error .unreadable
      else .error .unreadable
    | _ => .error .unreadable

end Amount

end OrderDesk
