import OrderDesk.Amount.Rescale

/-!
# Amount/Decimal — amounts as people write them

A decimal is a signed mantissa of 96 bits over a power of ten up to 10²⁸.  An amount at `d` decimals
becomes the decimal of the same value without zeros at its end; a decimal becomes an amount by
rescaling its mantissa from its own scale.
-/

namespace OrderDesk

/-- `± mantissa / 10 ^ scale`. -/
structure Decimal where
  /-- Whether a minus sign stands in front; zero has both signs. -/
  negative : Bool
  /-- The digits as a number. -/
  mantissa : Nat
  /-- How many of the digits stand behind the point. -/
  scale : Nat
  /-- The mantissa has at most 96 bits. -/
  mantissa_lt : mantissa < Nat.pow 2 96
  /-- At most 28 digits stand behind the point. -/
  scale_le : scale ≤ 28
deriving DecidableEq

namespace Decimal

/-- The decimal with a mantissa and a scale, if both fit. -/
def ofParts? (negative : Bool) (mantissa scale : Nat) : Option Decimal :=
  if h : mantissa < Nat.pow 2 96 ∧ scale ≤ 28 then some ⟨negative, mantissa, scale, h.1, h.2⟩ else none

/-- A mantissa and a scale without zeros at the end of the fraction. -/
def trim : (mantissa scale : Nat) → Nat × Nat
  | m, 0 => (m, 0)
  | m, s + 1 => if m % 10 = 0 then trim (m / 10) s else (m, s + 1)

/-- **The decimal of an amount.** -/
def ofAmount (amount : Amount) (decimals : UInt8) : Except Error Decimal :=
  let overflow := Except.error (.overflow (.decimal amount.val decimals.toNat))
  if amount.val < Nat.pow 2 96 ∧ decimals.toNat ≤ 28 then
    let (m, s) := trim amount.val decimals.toNat
    match ofParts? false m s with
    | some d => .ok d
    | none => overflow
  else overflow

/-- The decimal with all the digits of its scale. -/
def text (d : Decimal) : String :=
  let digits := Numeral.padded (d.scale + 1) d.mantissa |>.toList
  let split := digits.length - d.scale
  let fraction := if d.scale = 0 then [] else '.' :: digits.drop split
  String.ofList ((if d.negative then ['-'] else []) ++ digits.take split ++ fraction)

/-- The digits as an amount. -/
def digits (d : Decimal) : Amount := ⟨d.mantissa, Nat.lt_trans d.mantissa_lt (by decide)⟩

/-- How many of the digits stand behind the point, in eight bits. -/
def places? (d : Decimal) : Option UInt8 :=
  if d.scale < Nat.pow 2 8 then some (.ofNat d.scale) else none

/-- **The amount of a decimal**, which must not be below zero. -/
def toAmount (d : Decimal) (decimals : UInt8) (r : Rounding) : Except Error Amount :=
  if d.negative ∧ d.mantissa ≠ 0 then .error (.overflow (.negative d.text))
  else
    match d.places? with
    | none => .error (.overflow (.scale d.text))
    | some places => d.digits.rescale places decimals r

end Decimal

end OrderDesk
