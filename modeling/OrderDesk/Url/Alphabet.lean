import OrderDesk.Text.Composition
import OrderDesk.Url.Alphabet.Folds
import OrderDesk.Url.Alphabet.Refused

/-!
# Url/Alphabet — the characters of host names

A host name may be spelled with many characters and is kept in few.  `fold?` brings a spelling to the
form that is kept; a character that stands for itself is *settled*.
-/

namespace OrderDesk.Url.Alphabet

/-- What a character of a host name stands for; nothing if no host name holds it. -/
def meaning? (c : Char) : Option (List Char) :=
  match folds.give? c with
  | some ns => some (ns.map Char.ofNat)
  | none => if refused.has c then none else some [c]

/-- Whether a character stands for itself. -/
def isSettled (c : Char) : Bool := !folds.has c && !refused.has c

/-- The characters that a text stands for. -/
def meanings? : List Char → Option (List Char)
  | [] => some []
  | c :: cs =>
    match meaning? c, meanings? cs with
    | some front, some rest => some (front ++ rest)
    | _, _ => none

/-- **The form in which a name is kept**: every character is replaced by what it stands for, then
letters and marks are composed. -/
def fold? (name : List Char) : Option (List Char) := (meanings? name).map Composition.normal

end OrderDesk.Url.Alphabet
