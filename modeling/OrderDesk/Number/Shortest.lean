import OrderDesk.Number.Binary64
import OrderDesk.Text.Numeral

/-!
# Number/Shortest — the fewest digits that read back as a double

A decimal reads back as a double when it lies in the interval of reals that round to it; the ends
belong to the interval when the significand is even.  Grids of 1, 2, … 17 significant digits are
tried in turn.  On a grid only the two neighbours of the exact value can be the answer: the first
grid with a neighbour inside the interval gives the digits, the nearer of two, a tie going to the
even one.
-/

namespace OrderDesk

/-- `digits · 10 ^ exponent`. -/
structure Scientific where
  /-- The significant digits as a number. -/
  digits : Nat
  /-- The power of ten. -/
  exponent : Int
deriving DecidableEq, Repr

namespace Shortest

/-- A positive rational `num / den` in units of `10 ^ p`, as a fraction. -/
def scaled (num den : Nat) (p : Int) : Nat × Nat :=
  (num * Nat.pow 10 (-p).toNat, den * Nat.pow 10 p.toNat)

/-- The exponent of the first significant digit of `num / den`, searched from a guess downwards. -/
def leadExponent (num den : Nat) : Nat → Int → Int
  | 0, guess => guess
  | fuel + 1, guess =>
    let (n, d) := scaled num den guess
    if n < d then leadExponent num den fuel (guess - 1) else guess

/-- Whether `count · 10 ^ p` rounds to the double.  Twice the distance to the value is compared with
the gap to the neighbour on that side; below a power of two the gap is half as wide. -/
def readsBack (x : Binary64) (count : Nat) (p : Int) : Bool :=
  let (n, d) := scaled x.num x.den p
  -- the value is `n / d` and the grid point `count`, both in units of `10 ^ p`
  let below := count * d < n
  let distance := if below then n - count * d else count * d - n
  let narrow := below && x.significand == Nat.pow 2 52 && x.exponent != Binary64.minExponent
  -- the gap upwards is `n / (d · significand)`
  let scale := if narrow then 4 else 2
  let left := scale * distance * x.significand
  if x.significand % 2 = 0 then left ≤ n else left < n

/-- The digits that a grid offers, if one of the two neighbours of the value reads back. -/
def onGrid? (x : Binary64) (p : Int) : Option Scientific :=
  let (n, d) := scaled x.num x.den p
  let low := n / d
  let high := low + 1
  let lowFits := readsBack x low p && low != 0
  let highFits := readsBack x high p
  let lowNearer := 2 * (n % d) < d || (2 * (n % d) == d && low % 2 == 0)
  if lowFits && (lowNearer || !highFits) then some ⟨low, p⟩
  else if highFits then some ⟨high, p⟩
  else none

/-- The first of the grids from `p` downwards that has a neighbour which reads back. -/
def search (x : Binary64) : Nat → Int → Option Scientific
  | 0, _ => none
  | fuel + 1, p => (onGrid? x p).or (search x fuel (p - 1))

/-- A number without its trailing zeros, which go to the exponent. -/
def trim : Nat → Scientific → Scientific
  | 0, s => s
  | fuel + 1, s =>
    if s.digits ≠ 0 ∧ s.digits % 10 = 0 then trim fuel ⟨s.digits / 10, s.exponent + 1⟩ else s

/-- **The shortest digits** of a double that is not zero. -/
def digits (x : Binary64) : Scientific :=
  let guess : Int := (Nat.toDigits 10 x.num).length - (Nat.toDigits 10 x.den).length + 1
  let lead := leadExponent x.num x.den 3 guess
  trim 20 ((search x 18 lead).getD ⟨0, 0⟩)

/-! ## The written form -/

/-- Digits with a point inside or in front, and at least one digit on both sides of it. -/
def positional (ds : List Char) (point : Int) : List Char :=
  if point ≤ 0 then ['0', '.'] ++ List.replicate (-point).toNat '0' ++ ds
  else if ds.length ≤ point.toNat then
    ds ++ List.replicate (point.toNat - ds.length) '0' ++ ['.', '0']
  else ds.take point.toNat ++ ['.'] ++ ds.drop point.toNat

/-- One digit, the others behind a point, and a signed exponent. -/
def scientific (ds : List Char) (exponent : Int) : List Char :=
  let tail := if ds.length ≤ 1 then [] else '.' :: ds.drop 1
  let sign := if exponent < 0 then '-' else '+'
  ds.take 1 ++ tail ++ ['e', sign] ++ Nat.toDigits 10 exponent.natAbs

/-- **Layout.**  A first digit from 10⁻⁵ up to 10¹⁵ is written positionally, all else with an
exponent; a whole number keeps one zero behind the point, and zero its sign. -/
def layout (x : Binary64) : List Char :=
  let sign := if x.negative then ['-'] else []
  if x.isZero then sign ++ ['0', '.', '0']
  else
    let s := digits x
    let ds := Nat.toDigits 10 s.digits
    let lead : Int := s.exponent + ds.length - 1
    if -5 ≤ lead ∧ lead < 16 then sign ++ positional ds (lead + 1)
    else sign ++ scientific ds lead

end Shortest

end OrderDesk
