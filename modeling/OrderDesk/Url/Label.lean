import OrderDesk.Text.Direction
import OrderDesk.Text.Joining
import OrderDesk.Text.Mark
import OrderDesk.Text.Parts
import OrderDesk.Url.Alphabet
import OrderDesk.Url.Punycode

/-!
# Url/Label — host names beyond ASCII

A host name is a row of labels between dots.  A label with characters beyond ASCII is written in
ASCII as `xn--` and its Punycode; a label that is written so already must be the written form of a
label.  `asciiName?` gives the ASCII form of a name, if its labels are sound: none begins with a mark,
joiners stand only where they join, and if any label runs from right to left, every label keeps to
one direction.
-/

namespace OrderDesk.Url

/-- A label of a host name, as it is shown. -/
abbrev Label := List Char

namespace Label

/-- What stands before the Punycode of a label. -/
def written : List Char := ['x', 'n', '-', '-']

/-- Whether a label is in ASCII. -/
def isAscii (l : Label) : Bool := l.all Punycode.isAscii

/-- The longest label beyond ASCII. -/
def maxLength : Nat := 1000

/-- The longest Punycode that is read. -/
def maxWritten : Nat := 2000

/-- The label whose Punycode is given: one beyond ASCII, in the form in which names are kept. -/
def ofPunycode? (cs : List Char) : Option Label :=
  match (if cs.length ≤ maxWritten then Punycode.decode? cs else none) with
  | some l =>
    if !isAscii l ∧ l.all Alphabet.isSettled ∧ Composition.normal l = l ∧ !written.isPrefixOf l then
      some l
    else none
  | none => none

/-- The label that a part of a folded name shows. -/
def ofPart? (part : List Char) : Option Label :=
  if written.isPrefixOf part then
    if isAscii part then ofPunycode? (part.drop written.length) else none
  else some part

/-- A label in ASCII. -/
def ascii (l : Label) : List Char := if isAscii l then l else written ++ Punycode.encode l

/-! ## Joiners -/

/-- The character that keeps letters from joining. -/
def nonJoiner : Char := Char.ofNat 0x200C

/-- The character that makes letters join. -/
def joiner : Char := Char.ofNat 0x200D

/-- The combining class of the marks that take the vowel from a consonant. -/
def vowelKiller : Nat := 9

/-- Whether the first letter that is not passed over is in a table. -/
def meets (t : Table) (cs : List Char) : Bool :=
  match cs.dropWhile fun c => !t.has c && Joining.transparent.has c with
  | c :: _ => t.has c
  | [] => false

/-- Whether a joiner may stand between two texts; the first one is given from its end. -/
def mayStand (c : Char) (before behind : List Char) : Bool :=
  match before with
  | [] => false
  | b :: _ =>
    Composition.classOf b = vowelKiller
      || (c = nonJoiner && meets Joining.forward before && meets Joining.backward behind)

/-- Whether every joiner behind a text, given from its end, may stand where it stands. -/
def joinersStand (before : List Char) : List Char → Bool
  | [] => true
  | c :: cs =>
    (if c = nonJoiner ∨ c = joiner then mayStand c before cs else true)
      && joinersStand (c :: before) cs

/-! ## Directions -/

/-- Whether a character makes a name one with two directions. -/
def isRightward (d : Direction) : Bool := d = .right || d = .arabic

/-- Whether a direction may stand in a label that runs from left to right. -/
def fitsLeft (d : Direction) : Bool := d ≠ .right && d ≠ .arabic

/-- Whether a label that runs from left to right may end so. -/
def endsLeft (d : Direction) : Bool := d = .left || d = .european

/-- Whether a label that runs from right to left may end so. -/
def endsRight (d : Direction) : Bool := d = .right || d = .european || d = .arabic

/-- The last direction, marks apart. -/
def lastOf? (ds : List Direction) : Option Direction :=
  (ds.reverse.dropWhile (· = .nonspacing)).head?

/-- Whether a label keeps to the direction of its first letter.  From right to left, digits of two
kinds do not stand together. -/
def keepsDirection (l : Label) : Bool :=
  let ds := l.map Direction.ofChar
  match ds with
  | [] => true
  | .left :: _ => ds.all fitsLeft && (lastOf? ds).any endsLeft
  | .right :: _ =>
    ds.all (· ≠ .left) && (lastOf? ds).any endsRight
      && !(ds.contains .european && ds.contains .arabic)
  | _ => false

/-! ## Sound labels -/

/-- Whether a label can stand in a name. -/
def isSound (l : Label) : Bool :=
  !(l.head?.any Mark.isMark) && joinersStand [] l && (isAscii l || l.length ≤ maxLength)

/-- Whether the directions in a name fit together. -/
def fitTogether (ls : List Label) : Bool :=
  if ls.any (·.any fun c => isRightward (.ofChar c)) then ls.all keepsDirection else true

end Label

/-- **A host name in lower-case ASCII.** -/
def asciiName? (name : List Char) : Option (List Char) := do
  let folded ← Alphabet.fold? name
  let labels ← (Parts.split (· = '.') folded).mapM Label.ofPart?
  if labels.all Label.isSound && Label.fitTogether labels then
    some (['.'].intercalate (labels.map Label.ascii))
  else none

end OrderDesk.Url
