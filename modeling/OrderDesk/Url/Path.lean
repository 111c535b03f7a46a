import OrderDesk.Text.Parts
import OrderDesk.Url.Percent

/-!
# Url/Path — the segments of a path

A path is split at its slashes; on the web's own schemes and for files a backslash is a slash.  A
segment `.` stays where it is and `..` goes one segment up, also when their dots are escaped.  It
never goes above the root, and never above a drive: a segment of one letter and a colon or a bar.
-/

namespace OrderDesk.Url

/-- What kind of place a scheme names. -/
inductive Kind where
  /-- A local file. -/
  | file
  /-- A place on the web, which has a host. -/
  | web
  /-- Anything else. -/
  | other
deriving DecidableEq, Repr

/-- Whether a kind of place has a host and a path from a root. -/
def Kind.isSpecial (k : Kind) : Bool := k ≠ .other

/-- Whether a character separates segments. -/
def isSlash (k : Kind) (c : Char) : Bool := c = '/' || (k.isSpecial && c = '\\')

/-! ## Dot segments -/

/-- What a segment does to the path so far. -/
inductive Move where
  /-- It names the next step down. -/
  | down
  /-- It stays. -/
  | stay
  /-- It goes up. -/
  | up
deriving DecidableEq

/-- A segment with its escaped dots as plain ones. -/
def plainDots : List Char → List Char
  | '%' :: '2' :: 'e' :: cs => '.' :: plainDots cs
  | '%' :: '2' :: 'E' :: cs => '.' :: plainDots cs
  | c :: cs => c :: plainDots cs
  | [] => []

/-- The move of a segment. -/
def move (segment : List Char) : Move :=
  let plain := plainDots segment
  if plain = ['.'] then .stay else if plain = ['.', '.'] then .up else .down

/-! ## Drives -/

/-- Whether two characters name a drive. -/
def namesDrive (letter mark : Char) : Bool := letter.isAlpha && (mark = ':' || mark = '|')

/-- Whether a segment is the name of a drive. -/
def isDrive : List Char → Bool
  | [letter, mark] => namesDrive letter mark
  | _ => false

/-- Whether a segment holds the path below it: a drive, alone or before a backslash. -/
def holds : List Char → Bool
  | letter :: mark :: '\\' :: _ => namesDrive letter mark
  | segment => isDrive segment

/-- The name of a drive with a colon; any other segment as it is. -/
def driveName : List Char → List Char
  | [letter, mark] => if namesDrive letter mark then [letter, ':'] else [letter, mark]
  | segment => segment

/-- How the first segment below the root is kept. -/
def Kind.first (k : Kind) : List Char → List Char := if k = .file then driveName else id

/-! ## Segments -/

/-- One step up from where the path is, its last step first. -/
def raise : List (List Char) → List (List Char)
  | [] => []
  | segment :: done => if holds segment then segment :: done else done

/-- One step down. -/
def descend (k : Kind) (done : List (List Char)) (segment : List Char) : List (List Char) :=
  (if done.isEmpty then k.first segment else segment) :: done

/-- Segments with every dot segment carried out.  `done` holds what was gone down so far, the last
step first.  A dot segment at the end leaves an empty one. -/
def resolve (k : Kind) (done : List (List Char)) : List (List Char) → List (List Char)
  | [] => done.reverse
  | [last] =>
    match move last with
    | .down => (descend k done last).reverse
    | .stay => ([] :: done).reverse
    | .up => ([] :: raise done).reverse
  | segment :: rest =>
    match move segment with
    | .down => resolve k (descend k done segment) rest
    | .stay => resolve k done rest
    | .up => resolve k (raise done) rest

/-- The segments of a path, without the slash at its front. -/
def segments (k : Kind) (text : List Char) : List (List Char) :=
  resolve k [] ((Parts.split (isSlash k) text).map (encode pathKeeps))

/-- Segments with a slash before each. -/
def joined (names : List (List Char)) : List Char := names.flatMap ('/' :: ·)

/-- A text without the slash at its front, if it has one. -/
def dropSlash (k : Kind) : List Char → List Char
  | c :: cs => if isSlash k c then cs else c :: cs
  | [] => []

/-- A path. -/
inductive Path where
  /-- Below a root: the segments. -/
  | rooted (names : List (List Char))
  /-- Without a root: a text that is not looked into. -/
  | rootless (text : List Char)
deriving DecidableEq

namespace Path

/-- The text of a path. -/
def text : Path → List Char
  | rooted names => joined names
  | rootless text => text

/-- The path that a text denotes on a URL with a host.  Only on other kinds of places it may be
empty. -/
def ofText (k : Kind) (text : List Char) : Path :=
  if text.isEmpty && !k.isSpecial then rooted [] else rooted (segments k (dropSlash k text))

end Path

end OrderDesk.Url
