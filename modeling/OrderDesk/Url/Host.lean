import OrderDesk.Text.Numeral
import OrderDesk.Url.Label
import OrderDesk.Url.Percent

/-!
# Url/Host — names and addresses of hosts

A host is a name in lower case, an IPv4 address or an IPv6 address.  A name whose last label is a
number is an IPv4 address or nothing.  Off the web's own schemes a name is not looked into.
-/

namespace OrderDesk.Url

/-- The host of a URL. -/
inductive Host where
  | name (text : List Char)
  | v4 (address : Nat)
  | v6 (pieces : List Nat)
deriving DecidableEq

/-! ## IPv4 -/

/-- What a label says as a number of an IPv4 address. -/
inductive Octets where
  /-- It is no number. -/
  | none
  /-- It has more than 32 bits. -/
  | tooLarge
  | value (n : Nat)

/-- The number that digits of a base denote. -/
def number? (base : Nat) (digits : List Char) : Option Nat :=
  digits.foldl (fun n c =>
    match n, Hex.value? c with
    | some n, some d => if d < base then some (base * n + d) else none
    | _, _ => none) (some 0)

/-- A label as a number: hexadecimal behind `0x`, octal behind `0`, else decimal. -/
def octets (label : List Char) : Octets :=
  let (base, digits) := match label with
    | '0' :: 'x' :: ds => (16, ds)
    | '0' :: 'X' :: ds => (16, ds)
    | '0' :: d :: ds => (8, d :: ds)
    | ds => (10, ds)
  if label.isEmpty then .none
  else match number? base digits with
    | some n => if n < Nat.pow 2 32 then .value n else .tooLarge
    | none => .none

/-- The labels of a name, without an empty one at the end. -/
def labels (name : List Char) : List (List Char) :=
  let parts := Parts.split (· = '.') name
  if parts.getLast? = some [] ∧ 1 < parts.length then parts.dropLast else parts

/-- Whether the last label of a name is a number. -/
def endsInNumber (name : List Char) : Bool :=
  match (labels name).getLast? with
  | some label =>
    Numeral.isDecimal label || (match octets label with | .none => false | _ => true)
  | none => false

/-- The numbers of an IPv4 address, if every label is one. -/
def octetList? : List (List Char) → Option (List Nat)
  | [] => some []
  | label :: rest =>
    match octets label, octetList? rest with
    | .value n, some ns => some (n :: ns)
    | _, _ => none

/-- The address of at most four numbers; the last one fills what the others leave. -/
def v4? (name : List Char) : Option Nat :=
  match octetList? (labels name) with
  | some numbers =>
    match numbers.reverse with
    | last :: before =>
      let firsts := before.reverse
      let free := 4 - firsts.length
      if firsts.length < 4 ∧ firsts.all (· < 256) ∧ last < Nat.pow 256 free then
        some (firsts.foldl (fun n b => 256 * n + b) 0 * Nat.pow 256 free + last)
      else none
    | [] => none
  | none => none

/-- The four numbers of an IPv4 address. -/
def v4Text (address : Nat) : List Char :=
  let part (k : Nat) := Nat.toDigits 10 (address / Nat.pow 256 k % 256)
  part 3 ++ '.' :: part 2 ++ '.' :: part 1 ++ '.' :: part 0

/-! ## IPv6 -/

/-- A piece of one to four hexadecimal digits. -/
def piece? (group : List Char) : Option Nat :=
  if group.isEmpty ∨ 4 < group.length then none else number? 16 group

/-- A decimal number below 256 without leading zeros. -/
def plainOctet? (digits : List Char) : Option Nat :=
  match Numeral.decimal? digits with
  | some n => if n < 256 ∧ (digits.length = 1 ∨ digits.head? ≠ some '0') then some n else none
  | none => none

/-- The two pieces of an IPv4 address at the end of an IPv6 address. -/
def embedded? (group : List Char) : Option (List Nat) :=
  match (Parts.split (· = '.') group).map plainOctet? with
  | [some a, some b, some c, some d] => some [256 * a + b, 256 * c + d]
  | _ => none

/-- The pieces between colons; the last group may be an IPv4 address. -/
def pieces? (mayEmbed : Bool) : List (List Char) → Option (List Nat)
  | [] => some []
  | [last] =>
    if mayEmbed ∧ last.contains '.' then embedded? last else (piece? last).map ([·])
  | group :: rest =>
    match piece? group, pieces? mayEmbed rest with
    | some p, some ps => some (p :: ps)
    | _, _ => none

/-- The pieces of a text between colons; the empty text has none. -/
def side? (mayEmbed : Bool) (text : List Char) : Option (List Nat) :=
  if text.isEmpty then some [] else pieces? mayEmbed (Parts.split (· = ':') text)

/-- The text before the first double colon and the text behind it. -/
def atGap? : List Char → Option (List Char × List Char)
  | ':' :: ':' :: rest => some ([], rest)
  | c :: cs => (atGap? cs).map fun (before, behind) => (c :: before, behind)
  | [] => none

/-- The eight pieces of an IPv6 address; a double colon stands for one or more zeros. -/
def v6? (text : List Char) : Option (List Nat) :=
  match atGap? text with
  | some (before, behind) =>
    match side? false before, side? true behind with
    | some left, some right =>
      let gap := 8 - (left.length + right.length)
      if 0 < gap then some (left ++ List.replicate gap 0 ++ right) else none
    | _, _ => none
  | none =>
    match side? true text with
    | some ps => if ps.length = 8 then some ps else none
    | none => none

/-- How many zeros a list starts with. -/
def zeros (ps : List Nat) : Nat := (ps.takeWhile (· = 0)).length

/-- The longest run of zeros, as position and length; the first one of several. -/
def longestRun : Nat → List Nat → Nat × Nat
  | _, [] => (0, 0)
  | k, p :: ps =>
    let here := zeros (p :: ps)
    let there := longestRun (k + 1) ps
    if here < there.2 then there else (k, here)

/-- Pieces with colons between them. -/
def colonText (ps : List Nat) : List Char :=
  [':'].intercalate (ps.map (Nat.toDigits 16))

/-- The shortest text of an IPv6 address: the longest run of two or more zeros is left out. -/
def v6Text (ps : List Nat) : List Char :=
  let (start, length) := longestRun 0 ps
  if length < 2 then colonText ps
  else colonText (ps.take start) ++ ':' :: ':' :: colonText (ps.drop (start + length))

/-! ## Hosts -/

namespace Host

/-- The text of a host. -/
def text : Host → List Char
  | name text => text
  | v4 address => v4Text address
  | v6 pieces => '[' :: v6Text pieces ++ [']']

/-- Characters that no host holds. -/
def isForbidden (c : Char) : Bool :=
  [Char.ofNat 0, '\t', '\n', '\r', ' ', '#', '/', ':', '<', '>', '?', '@', '[', '\\', ']', '^',
    '|'].contains c

/-- Characters that no name on the web holds. -/
def isBarred (c : Char) : Bool := isForbidden c || c.toNat < 32 || c = '%' || c.toNat = 127

/-- An address between brackets. -/
def bracketed? (cs : List Char) : Option Host :=
  if cs.getLast? = some ']' then (v6? cs.dropLast).map v6 else none

/-- The host of one of the web's own schemes. -/
def web? : List Char → Option Host
  | '[' :: cs => bracketed? cs
  | cs =>
    match String.fromUTF8? ⟨(unescape cs).toArray⟩ with
    | none => none
    | some decoded =>
      match asciiName? decoded.toList with
      | none => none
      | some ascii =>
        if ascii.isEmpty || ascii.any isBarred then none
        else if endsInNumber ascii then (v4? ascii).map v4
        else some (name ascii)

/-- The host of any other scheme. -/
def other? : List Char → Option Host
  | '[' :: cs => bracketed? cs
  | cs => if cs.any isForbidden then none else some (name (encode isPrintable cs))

end Host

end OrderDesk.Url
