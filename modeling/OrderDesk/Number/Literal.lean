import OrderDesk.Number.Binary64
import OrderDesk.Text.Numeral

/-!
# Number/Literal — the double that a decimal literal denotes

A literal is read with a 64-bit significand: digits are kept while the number they form stays below
2⁶⁴.  Digits of the integer part beyond that are dropped, each raising the exponent by one; digits of
the fraction are dropped from the first that does not fit.  The kept digits, as a double, are then
multiplied or divided by a power of ten up to 10³⁰⁸, which is itself a double; an exponent below
that range divides by 10³⁰⁸ first.  A literal beyond the largest double denotes none.
-/

namespace OrderDesk

/-- A decimal literal in its parts. -/
structure Literal where
  /-- Whether a minus sign stands in front. -/
  negative : Bool
  /-- The digits before the point. -/
  whole : List Char
  /-- The digits behind the point, if there is one. -/
  fraction : Option (List Char)
  /-- Whether the exponent is negative, and its digits, if there is one. -/
  exponent : Option (Bool × List Char)
deriving DecidableEq, Repr

namespace Literal

/-- The value of a decimal digit. -/
def digitValue (c : Char) : Nat := c.toNat - 48

/-- Digits taken while the number stays below 2⁶⁴, with the digits that are left. -/
def keep : Nat → List Char → Nat × List Char
  | significand, [] => (significand, [])
  | significand, c :: cs =>
    let next := significand * 10 + digitValue c
    if next < Nat.pow 2 64 then keep next cs else (significand, c :: cs)

/-- The kept significand with the power of ten that belongs to it, the written exponent apart. -/
def kept (l : Literal) : Nat × Int :=
  let (significand, dropped) := keep 0 l.whole
  let digits := l.fraction.getD []
  let (significand, ignored) := keep significand digits
  (significand, (dropped.length : Int) - ((digits.length : Int) - ignored.length))

/-- The largest exponent of a power of ten that is a double. -/
def maxPower : Nat := 308

/-- A power of ten as a double. -/
def powerOfTen (n : Nat) : Binary64 := .ofNat (Nat.pow 10 n)

/-- A double times a power of ten.  Below the range of powers a step divides by the largest one; two
steps take every 64-bit significand to zero, so three are allowed. -/
def scale : (steps : Nat) → Binary64 → Int → Option Binary64
  | 0, x, _ => some (.zero x.negative)
  | steps + 1, x, exponent =>
    if exponent.natAbs ≤ maxPower then
      if 0 ≤ exponent then x.mul (powerOfTen exponent.natAbs)
      else x.div (powerOfTen exponent.natAbs)
    else if x.isZero then some x
    else if 0 ≤ exponent then none
    else (x.div (powerOfTen maxPower)).bind fun y => scale steps y (exponent + maxPower)

/-- The largest exponent that is read; a larger one stands for "beyond every double". -/
def maxExponent : Nat := Nat.pow 2 31 - 1

/-- **The double that a literal denotes.** -/
def toBinary64? (l : Literal) : Option Binary64 :=
  let (significand, base) := l.kept
  let sign (x : Binary64) : Binary64 := if l.negative then x.neg else x
  match l.exponent with
  | none => (scale 3 (.ofNat significand) base).map sign
  | some (down, digits) =>
    let n := Nat.ofDigitChars 10 digits 0
    if n > maxExponent then
      if significand ≠ 0 ∧ !down then none else some (sign (.zero false))
    else (scale 3 (.ofNat significand) (base + (if down then -(n : Int) else n))).map sign

/-- The integer that a literal without point and exponent denotes; a negative zero is no integer. -/
def toInt? (l : Literal) : Option Int :=
  match l.fraction, l.exponent with
  | none, none =>
    let n := Nat.ofDigitChars 10 l.whole 0
    if l.negative then if n = 0 then none else some (-(n : Int)) else some n
  | _, _ => none

/-- The literal that writes an integer. -/
def ofInt (z : Int) : Literal := ⟨z < 0, Nat.toDigits 10 z.natAbs, none, none⟩

end Literal

end OrderDesk
