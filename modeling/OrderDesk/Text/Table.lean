import OrderDesk.Text.Hex
import OrderDesk.Text.Parts

/-!
# Text/Table — properties of characters, written as rows

A table says which characters have a property and what it gives for them.  Its rows stand in a text,
between blanks; a row is a run of code points and its targets, all in hexadecimal:

* `41-5A` covers the code points from 41 to 5A, and `100-12E/2` every second one of its run;
* `41-5A>61` takes 41 to 61, 42 to 62 and so on, because the target rises with the source;
* `132-133=69,6A` takes both to 69 and 6A.

A code point belongs to the first row that covers it.
-/

namespace OrderDesk

namespace Table

/-- A run of code points and its targets. -/
structure Row where
  first : Nat
  last : Nat
  /-- How far one covered code point is from the next. -/
  step : Nat
  /-- Whether the targets rise with the source. -/
  rises : Bool
  targets : List Nat

namespace Row

/-- Whether a row covers a code point. -/
def covers (r : Row) (n : Nat) : Bool :=
  r.first ≤ n && n ≤ r.last && (n - r.first) % r.step = 0

/-- What a row gives for a code point that it covers. -/
def give (r : Row) (n : Nat) : List Nat :=
  if r.rises then r.targets.map (· + (n - r.first)) else r.targets

/-! ## Reading -/

/-- The number that hexadecimal digits denote. -/
def number (ds : List Char) : Nat := ds.foldl (fun n c => 16 * n + (Hex.value? c).getD 0) 0

/-- Whether a character stands between a run and its targets. -/
def isArrow (c : Char) : Bool := c = '>' || c = '='

/-- A row from its text. -/
def ofChars (cs : List Char) : Row :=
  let source := cs.takeWhile (!isArrow ·)
  let target := cs.dropWhile (!isArrow ·)
  let run := source.takeWhile (· ≠ '/')
  let stepText := source.drop (run.length + 1)
  let firstText := run.takeWhile (· ≠ '-')
  let lastText := run.drop (firstText.length + 1)
  { first := number firstText
    last := number (if lastText.isEmpty then firstText else lastText)
    step := if stepText.isEmpty then 1 else number stepText
    rises := target.head? = some '>'
    targets := if target.tail.isEmpty then []
      else (Parts.split (· = ',') target.tail).map number }

end Row

/-- Whether a character stands between rows. -/
def isGap (c : Char) : Bool := c = ' ' || c = '\n'

end Table

/-- **A table.** -/
abbrev Table := List Table.Row

namespace Table

/-- A table from its text. -/
def ofText (text : String) : Table :=
  ((Parts.split isGap text.toList).filter (!·.isEmpty)).map Row.ofChars

/-- The row that a character belongs to. -/
def row? (t : Table) (c : Char) : Option Row := t.find? (·.covers c.toNat)

/-- Whether a character has the property. -/
def has (t : Table) (c : Char) : Bool := (t.row? c).isSome

/-- What the property gives for a character that has it. -/
def give? (t : Table) (c : Char) : Option (List Nat) := (t.row? c).map (·.give c.toNat)

end Table

end OrderDesk
