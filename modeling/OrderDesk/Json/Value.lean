import OrderDesk.Number.Shortest

/-!
# Json/Value — JSON values and their compact text

A value keeps the members of its objects in the order given.  The compact text has no blanks; a
string escapes the quote, the backslash and the control characters below U+0020 and nothing else; an
integer is written in decimal and a double with the fewest digits that read back.
-/

namespace OrderDesk.Json

/-- A number is an integer or a double. -/
inductive Number where
  | int (z : Int)
  | float (x : Binary64)
deriving DecidableEq, Repr

/-- A JSON value. -/
inductive Value where
  | null
  | bool (b : Bool)
  | number (n : Number)
  | string (s : String)
  | array (items : List Value)
  | object (members : List (String × Value))
deriving Repr, Inhabited

namespace Value

/-- A non-negative integer as a value. -/
def nat (n : Nat) : Value := .number (.int n)

/-- An integer as a value. -/
def int (z : Int) : Value := .number (.int z)

/-- The value of the first member with a name, of an object. -/
def get? (name : String) : Value → Option Value
  | .object members => members.lookup name
  | _ => none

/-- The text that a value is, if it is a string. -/
def string? : Value → Option String
  | .string s => some s
  | _ => none

end Value

/-! ## Compact text -/

/-- The double quote. -/
def quote : Char := Char.ofNat 34

/-- The brace that opens an object. -/
def openBrace : Char := Char.ofNat 123

/-- The brace that closes an object. -/
def closeBrace : Char := Char.ofNat 125

/-- The escape of a control character by its number, in four hexadecimal digits. -/
def controlEscape (c : Char) : List Char :=
  let digits := Nat.toDigits 16 c.toNat
  ['\\', 'u'] ++ List.replicate (4 - digits.length) '0' ++ digits

/-- One character inside a string. -/
def escape (c : Char) : List Char :=
  if c = quote then ['\\', quote]
  else if c = '\\' then ['\\', '\\']
  else if c.toNat < 32 then
    if c.toNat = 8 then ['\\', 'b']
    else if c.toNat = 9 then ['\\', 't']
    else if c.toNat = 10 then ['\\', 'n']
    else if c.toNat = 12 then ['\\', 'f']
    else if c.toNat = 13 then ['\\', 'r']
    else controlEscape c
  else [c]

/-- A string between quotes. -/
def quoted (s : String) : List Char := quote :: s.toList.flatMap escape ++ [quote]

/-- The decimal digits of an integer, with a sign when it is negative. -/
def intText (z : Int) : List Char :=
  (if z < 0 then ['-'] else []) ++ Nat.toDigits 10 z.natAbs

/-- The text of a number. -/
def Number.text : Number → List Char
  | .int z => intText z
  | .float x => Shortest.layout x

mutual

/-- The compact text of a value. -/
def Value.chars : Value → List Char
  | .null => ['n', 'u', 'l', 'l']
  | .bool true => ['t', 'r', 'u', 'e']
  | .bool false => ['f', 'a', 'l', 's', 'e']
  | .number n => n.text
  | .string s => quoted s
  | .array [] => ['[', ']']
  | .array (v :: vs) => '[' :: v.chars ++ itemsText vs ++ [']']
  | .object [] => [openBrace, closeBrace]
  | .object ((k, v) :: ms) =>
    openBrace :: quoted k ++ ':' :: v.chars ++ membersText ms ++ [closeBrace]

/-- The items after the first, a comma before each. -/
def itemsText : List Value → List Char
  | [] => []
  | v :: vs => ',' :: v.chars ++ itemsText vs

/-- The members after the first, a comma before each. -/
def membersText : List (String × Value) → List Char
  | [] => []
  | (k, v) :: ms => ',' :: quoted k ++ ':' :: v.chars ++ membersText ms

end

/-- The compact text of a value, as a string. -/
def Value.render (v : Value) : String := String.ofList v.chars

end OrderDesk.Json
