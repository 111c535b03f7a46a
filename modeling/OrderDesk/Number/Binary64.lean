/-!
# Number/Binary64 — finite doubles, exactly

A finite double is a sign, a significand below 2⁵³ and a binary exponent of at least −1074; a
significand below 2⁵² occurs with the least exponent only.  Every operation is the exact result on
the rationals, rounded to the nearest double, ties to the even significand.  A result beyond the
largest double is no double.
-/

namespace OrderDesk

/-- A finite double: `± significand · 2 ^ exponent`. -/
structure Binary64 where
  /-- Whether the sign bit is set; zero has both signs. -/
  negative : Bool
  /-- The significand, below 2⁵³. -/
  significand : Nat
  /-- The binary exponent, at least −1074. -/
  exponent : Int
deriving DecidableEq, Repr

namespace Binary64

/-- The least binary exponent. -/
def minExponent : Int := -1074

/-- The largest binary exponent. -/
def maxExponent : Int := 971

/-- Zero of the given sign. -/
def zero (negative : Bool) : Binary64 := ⟨negative, 0, minExponent⟩

/-- Whether the value is zero, of either sign. -/
def isZero (x : Binary64) : Bool := x.significand = 0

/-- The same magnitude with the other sign. -/
def neg (x : Binary64) : Binary64 := { x with negative := !x.negative }

/-- A quotient to the nearest integer, a tie to the even one. -/
def divToEven (num den : Nat) : Nat :=
  let q := num / den
  let r := num % den
  if 2 * r > den ∨ (2 * r = den ∧ q % 2 = 1) then q + 1 else q

/-- `num / den` in units of `2 ^ e`, rounded. -/
def inUnits (num den : Nat) (e : Int) : Nat :=
  divToEven (num * Nat.pow 2 (-e).toNat) (den * Nat.pow 2 e.toNat)

/-- The exponent that gives `num / den` a significand of 53 bits, or the least exponent. -/
def exponentOf (num den : Nat) : Int :=
  let e : Int := (Nat.log2 num : Int) - Nat.log2 den - 53
  let quotient := num * Nat.pow 2 (-e).toNat / (den * Nat.pow 2 e.toNat)
  let e := if quotient < Nat.pow 2 53 then e else e + 1
  max minExponent e

/-- **Rounding.**  The double nearest to `± num / den`; nothing beyond the largest double. -/
def ofRatio (negative : Bool) (num den : Nat) : Option Binary64 :=
  if num = 0 then some (zero negative)
  else
    let e := exponentOf num den
    let m := inUnits num den e
    let x : Binary64 :=
      if m = Nat.pow 2 53 then ⟨negative, Nat.pow 2 52, e + 1⟩ else ⟨negative, m, e⟩
    if x.exponent ≤ maxExponent then some x else none

/-- The numerator of the magnitude over `den`. -/
def num (x : Binary64) : Nat := x.significand * Nat.pow 2 x.exponent.toNat

/-- The denominator of the magnitude, a power of two. -/
def den (x : Binary64) : Nat := Nat.pow 2 (-x.exponent).toNat

/-- The rounded product. -/
def mul (x y : Binary64) : Option Binary64 :=
  ofRatio (x.negative != y.negative) (x.num * y.num) (x.den * y.den)

/-- The rounded quotient by a number that is not zero. -/
def div (x y : Binary64) : Option Binary64 :=
  ofRatio (x.negative != y.negative) (x.num * y.den) (x.den * y.num)

/-- The double nearest to a natural number below 2⁶⁴, or to a power of ten up to 10³⁰⁸. -/
def ofNat (n : Nat) : Binary64 := (ofRatio false n 1).getD (zero false)

end Binary64

end OrderDesk
