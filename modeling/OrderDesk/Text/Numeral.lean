/-!
# Text/Numeral — natural numbers as digits

Decimal and hexadecimal numerals.  Reading a decimal numeral takes ASCII digits only and any number
of leading zeros; writing gives the shortest one.
-/

namespace OrderDesk.Numeral

/-- Whether a character is an ASCII decimal digit. -/
def isDigit (c : Char) : Bool := 48 ≤ c.toNat && c.toNat ≤ 57

/-- Whether a text is a decimal numeral: one or more digits. -/
def isDecimal (cs : List Char) : Bool := !cs.isEmpty && cs.all isDigit

/-- The number that a decimal numeral denotes. -/
def decimal? (cs : List Char) : Option Nat :=
  if isDecimal cs then some (Nat.ofDigitChars 10 cs 0) else none

/-- The number that a decimal numeral with at most one sign denotes. -/
def signed? : List Char → Option Int
  | '-' :: cs => (decimal? cs).map fun n => -(n : Int)
  | '+' :: cs => (decimal? cs).map fun n => (n : Int)
  | cs => (decimal? cs).map fun n => (n : Int)

/-- The decimal numeral of a number. -/
def decimal (n : Nat) : String := String.ofList (Nat.toDigits 10 n)

/-- The decimal numeral of an integer, with a sign when it is negative. -/
def signed : Int → String
  | .ofNat n => decimal n
  | .negSucc n => "-" ++ decimal (n + 1)

/-- The hexadecimal numeral of a number, in lower case. -/
def hex (n : Nat) : String := String.ofList (Nat.toDigits 16 n)

/-- A decimal numeral that is padded with zeros to a width. -/
def padded (width n : Nat) : String :=
  let digits := Nat.toDigits 10 n
  String.ofList (List.replicate (width - digits.length) '0' ++ digits)

end OrderDesk.Numeral
