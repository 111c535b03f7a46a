import OrderDesk.Text.Printable

/-!
# Text/Quoted — text as messages show it

A quoted text stands between double quotes.  The quote, the backslash, tab, line feed, carriage
return and the null character have two-character escapes; every other hidden character is written
`\u{…}` with its code point in lower-case hexadecimal.  A quoted character stands between single
quotes and escapes the single quote in place of the double one.
-/

namespace OrderDesk.Quoted

/-- The double quote. -/
def doubleQuote : Char := Char.ofNat 34

/-- The single quote. -/
def singleQuote : Char := Char.ofNat 39

/-- The escape that names a character by its code point. -/
def codePoint (c : Char) : List Char :=
  ['\\', 'u', '\x7b'] ++ Nat.toDigits 16 c.toNat ++ ['\x7d']

/-- One character between quotes of the given kind. -/
def escape (quote : Char) (c : Char) : List Char :=
  if c = '\x00' then ['\\', '0']
  else if c = '\t' then ['\\', 't']
  else if c = '\r' then ['\\', 'r']
  else if c = '\n' then ['\\', 'n']
  else if c = '\\' ∨ c = quote then ['\\', c]
  else if Printable.isHidden c then codePoint c
  else [c]

/-- A text between double quotes. -/
def text (s : String) : String :=
  String.ofList ([doubleQuote] ++ s.toList.flatMap (escape doubleQuote) ++ [doubleQuote])

/-- A character between single quotes. -/
def char (c : Char) : String :=
  String.ofList ([singleQuote] ++ escape singleQuote c ++ [singleQuote])

end OrderDesk.Quoted
