import OrderDesk.Text.Hex

/-!
# Url/Percent — characters of a URL, and the escapes of all others

A character that has no place in a part of a URL is written as its UTF-8 bytes, each as `%` and two
upper-case digits.  Which characters have a place depends on the part; an existing escape is kept,
because `%` has a place everywhere.
-/

namespace OrderDesk.Url

/-- A hexadecimal digit in upper case. -/
def upperDigit (n : Nat) : Char := if n < 10 then Char.ofNat (48 + n) else Char.ofNat (55 + n)

/-- The escape of a byte. -/
def escapeByte (b : UInt8) : List Char := ['%', upperDigit (b.toNat / 16), upperDigit (b.toNat % 16)]

/-- The escape of a character. -/
def escape (c : Char) : List Char := (String.utf8EncodeChar c).flatMap escapeByte

/-- A text in which every character without a place is escaped. -/
def encode (keeps : Char → Bool) (cs : List Char) : List Char :=
  cs.flatMap fun c => if keeps c then [c] else escape c

/-- The double quote. -/
def doubleQuote : Char := Char.ofNat 34

/-- Printable ASCII: the characters that an opaque text keeps. -/
def isPrintable (c : Char) : Bool := 32 ≤ c.toNat && c.toNat < 127

/-- What a fragment keeps. -/
def fragmentKeeps (c : Char) : Bool := isPrintable c && !([' ', doubleQuote, '<', '>', '`'].contains c)

/-- What a path keeps. -/
def pathKeeps (c : Char) : Bool :=
  fragmentKeeps c && !(['#', '?', Char.ofNat 123, Char.ofNat 125].contains c)

/-- What user names and passwords keep. -/
def userKeeps (c : Char) : Bool :=
  pathKeeps c && !(['/', ':', ';', '=', '@', '[', '\\', ']', '^', '|'].contains c)

/-- What a query keeps; on the web's own schemes the single quote is escaped, too. -/
def queryKeeps (special : Bool) (c : Char) : Bool :=
  isPrintable c && !([' ', doubleQuote, '#', '<', '>'].contains c)
    && !(special && c = Char.ofNat 39)

/-- The bytes of a text after every escape in it is undone; a `%` that starts none stands for
itself. -/
def unescape : List Char → List UInt8
  | [] => []
  | '%' :: a :: b :: cs =>
    match Hex.value? a, Hex.value? b with
    | some h, some l => UInt8.ofNat (16 * h + l) :: unescape cs
    | _, _ => String.utf8EncodeChar '%' ++ unescape (a :: b :: cs)
  | c :: cs => String.utf8EncodeChar c ++ unescape cs

end OrderDesk.Url
