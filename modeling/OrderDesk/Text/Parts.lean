/-!
# Text/Parts — texts between separators

`Parts.split` cuts a text at its separators; there is one part more than there are separators.
-/

namespace OrderDesk.Parts

/-- The parts of a text between its separators. -/
def split (isSeparator : Char → Bool) : List Char → List (List Char)
  | [] => [[]]
  | c :: cs =>
    if isSeparator c then [] :: split isSeparator cs
    else match split isSeparator cs with
      | part :: parts => (c :: part) :: parts
      | [] => [[c]]

end OrderDesk.Parts
