import OrderDesk.Text.Composition.Classes
import OrderDesk.Text.Composition.Pairs

/-!
# Text/Composition — one form for each character with marks

A letter with an accent may be one character or two.  `normal` gives the composed form: composites
are taken apart, the marks of each base are brought into the order of their classes, and what has a
composite is put together again.  Korean syllables are composed by arithmetic.
-/

namespace OrderDesk.Composition

/-- The combining class of a character. -/
def classOf (c : Char) : Nat := ((classes.give? c).bind List.head?).getD 0

/-! ## Korean syllables

A syllable is a leading consonant, a vowel and at most one trailing consonant. -/

/-- The first syllable. -/
def firstSyllable : Nat := 0xAC00

/-- The first leading consonant. -/
def firstLead : Nat := 0x1100

/-- The first vowel. -/
def firstVowel : Nat := 0x1161

/-- What stands before the first trailing consonant: no trailing consonant. -/
def noTrail : Nat := 0x11A7

/-- How many leading consonants there are. -/
def leads : Nat := 19

/-- How many vowels there are. -/
def vowels : Nat := 21

/-- How many trailing consonants there are, none included. -/
def trails : Nat := 28

/-- The parts of a syllable. -/
def syllable? (c : Char) : Option (List Char) :=
  let k := c.toNat - firstSyllable
  if firstSyllable ≤ c.toNat ∧ k < leads * vowels * trails then
    some <| [Char.ofNat (firstLead + k / (vowels * trails)),
        Char.ofNat (firstVowel + k / trails % vowels)]
      ++ (if k % trails = 0 then [] else [Char.ofNat (noTrail + k % trails)])
  else none

/-- The syllable of two parts: a consonant and a vowel, or an open syllable and a trailing
consonant. -/
def joinSyllable? (a b : Char) : Option Char :=
  let lead := a.toNat - firstLead
  let vowel := b.toNat - firstVowel
  let trail := b.toNat - noTrail
  let k := a.toNat - firstSyllable
  if firstLead ≤ a.toNat ∧ lead < leads ∧ firstVowel ≤ b.toNat ∧ vowel < vowels then
    some (Char.ofNat (firstSyllable + (lead * vowels + vowel) * trails))
  else if firstSyllable ≤ a.toNat ∧ k < leads * vowels * trails ∧ k % trails = 0
      ∧ noTrail < b.toNat ∧ trail < trails then
    some (Char.ofNat (a.toNat + trail))
  else none

/-! ## Taking apart -/

/-- The parts of a character, one level down; of a character that is no composite, itself. -/
def parts (c : Char) : List Char :=
  match syllable? c with
  | some cs => cs
  | none =>
    match pairs.give? c with
    | some ns => ns.map Char.ofNat
    | none => [c]

/-- How often a part may be a composite again. -/
def maxDepth : Nat := 4

/-- A text without composites. -/
def takenApart (cs : List Char) : List Char := Nat.repeat (·.flatMap parts) maxDepth cs

/-- A character put in front of an ordered text: behind the marks of lower classes. -/
def place (c : Char) : List Char → List Char
  | [] => [c]
  | d :: ds =>
    if 0 < classOf d ∧ classOf d < classOf c then d :: place c ds else c :: d :: ds

/-- A text with the marks of each base in the order of their classes; marks of one class stay in
their order. -/
def ordered (cs : List Char) : List Char := cs.foldr place []

/-! ## Putting together -/

/-- The composite of two characters. -/
def join? (a b : Char) : Option Char :=
  match joinSyllable? a b with
  | some c => some c
  | none =>
    (pairs.find? fun r => r.targets = [a.toNat, b.toNat]).map fun r => Char.ofNat r.first

/-- An ordered text whose first character, the base, is joined with the characters behind it.  `kept`
holds the marks that did not join, the last one first; a mark of the class of the last one kept
cannot reach the base. -/
def gather (base : Char) (kept : List Char) : List Char → List Char
  | [] => base :: kept.reverse
  | c :: cs =>
    let reaches := match kept with
      | [] => true
      | d :: _ => classOf d < classOf c
    match (if reaches then join? base c else none) with
    | some joined => gather joined kept cs
    | none =>
      if classOf c = 0 then base :: kept.reverse ++ gather c [] cs else gather base (c :: kept) cs

/-- An ordered text in which what has a composite is put together. -/
def putTogether : List Char → List Char
  | [] => []
  | c :: cs => gather c [] cs

/-- **The composed form of a text.** -/
def normal (cs : List Char) : List Char := putTogether (ordered (takenApart cs))

end OrderDesk.Composition
