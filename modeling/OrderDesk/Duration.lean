import OrderDesk.Text.Numeral

/-!
# Duration — spans of time

A span is a number of nanoseconds.  Messages show it in the largest unit that leaves a whole part,
down to nanoseconds, with no zeros at the end of the fraction.
-/

namespace OrderDesk

/-- A span of time. -/
structure Duration where
  /-- Its length in nanoseconds. -/
  nanoseconds : Nat
deriving DecidableEq, Repr, Inhabited

namespace Duration

/-- Whole seconds. -/
def seconds (n : Nat) : Duration := ⟨n * Nat.pow 10 9⟩

/-- Whole milliseconds. -/
def milliseconds (n : Nat) : Duration := ⟨n * Nat.pow 10 6⟩

/-- Seconds and nanoseconds together. -/
def ofParts (seconds nanoseconds : Nat) : Duration := ⟨seconds * Nat.pow 10 9 + nanoseconds⟩

/-- The length in seconds, rounded to the nearest, halves up. -/
def roundedSeconds (d : Duration) : Nat := (d.nanoseconds + Nat.pow 10 9 / 2) / Nat.pow 10 9

/-- The fraction `part / 10 ^ places` behind a point, without zeros at its end. -/
def fraction (part places : Nat) : List Char :=
  let ds := (Numeral.padded places part).toList.reverse.dropWhile (· = '0') |>.reverse
  if part = 0 then [] else '.' :: ds

/-- A number of units of `10 ^ places` nanoseconds, with the name of the unit. -/
def inUnit (n places : Nat) (name : String) : String :=
  let unit := Nat.pow 10 places
  Numeral.decimal (n / unit) ++ String.ofList (fraction (n % unit) places) ++ name

/-- The span as messages show it. -/
def text (d : Duration) : String :=
  let n := d.nanoseconds
  if n ≥ Nat.pow 10 9 then inUnit n 9 "s"
  else if n ≥ Nat.pow 10 6 then inUnit n 6 "ms"
  else if n ≥ Nat.pow 10 3 then inUnit n 3 "µs"
  else inUnit n 0 "ns"

end Duration

end OrderDesk
