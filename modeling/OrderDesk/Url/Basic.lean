import OrderDesk.Url.Host
import OrderDesk.Url.Path

/-!
# Url/Basic — absolute URLs

A URL is read as browsers read it: blanks around it and line breaks in it do not count, scheme and
host are brought to lower case, the port that belongs to the scheme is left out, and dot segments of
the path are carried out.  `Url.text` writes it in that normal form.
-/

namespace OrderDesk

/-- An absolute URL. -/
structure Url where
  scheme : List Char
  user : List Char
  password : List Char
  host : Option Url.Host
  port : Option Nat
  path : Url.Path
  query : Option (List Char)
  fragment : Option (List Char)
deriving DecidableEq

namespace Url

/-! ## Schemes -/

/-- The web's own schemes and the ports that belong to them. -/
def webPorts : List (String × Nat) :=
  [("http", 80), ("https", 443), ("ws", 80), ("wss", 443), ("ftp", 21)]

/-- The port that belongs to a scheme. -/
def defaultPort? (scheme : List Char) : Option Nat := webPorts.lookup (String.ofList scheme)

/-- What kind of place a scheme names. -/
def kindOf (scheme : List Char) : Kind :=
  if scheme = ['f', 'i', 'l', 'e'] then .file
  else if (defaultPort? scheme).isSome then .web
  else .other

/-- Whether a character may stand in a scheme behind the first letter. -/
def isSchemeChar (c : Char) : Bool := c.isAlphanum || c = '+' || c = '-' || c = '.'

/-- The scheme in front of the first colon, in lower case, and what stands behind the colon. -/
def takeScheme? (cs : List Char) : Option (List Char × List Char) :=
  match cs with
  | c :: _ =>
    if c.isAlpha then
      match cs.dropWhile isSchemeChar with
      | ':' :: rest => some ((cs.takeWhile isSchemeChar).map Char.toLower, rest)
      | _ => none
    else none
  | [] => none

/-! ## Authority -/

/-- Whether a character ends the part before the path. -/
def endsAuthority (k : Kind) (c : Char) : Bool := isSlash k c || c = '?' || c = '#'

/-- The texts before and behind the last `@`. -/
def atLastAt (cs : List Char) : Option (List Char × List Char) :=
  let back := cs.reverse
  match back.dropWhile (· != '@') with
  | _ :: before => some (before.reverse, (back.takeWhile (· != '@')).reverse)
  | [] => none

/-- User and password, escaped. -/
def credentials (cs : List Char) : List Char × List Char :=
  let user := cs.takeWhile (· != ':')
  (encode userKeeps user, encode userKeeps (cs.drop (user.length + 1)))

/-- The host text and, behind a colon outside of brackets, the port text. -/
def atPort : Bool → List Char → List Char × Option (List Char)
  | _, [] => ([], none)
  | inside, c :: cs =>
    if c = ':' ∧ inside = false then ([], some cs)
    else
      let inside := if c = '[' then true else if c = ']' then false else inside
      let (host, port) := atPort inside cs
      (c :: host, port)

/-- A port of at most sixteen bits; without digits there is none, and the scheme's own is left
out. -/
def port? (scheme : List Char) (digits : List Char) : Option (Option Nat) :=
  if digits.isEmpty then some none
  else match Numeral.decimal? digits with
    | some n =>
      if n < Nat.pow 2 16 then some (if defaultPort? scheme = some n then none else some n)
      else none
    | none => none

/-- User, password, host and port. -/
structure Authority where
  user : List Char
  password : List Char
  host : Host
  port : Option Nat

/-- The part before the path of a URL that names no file, and what follows it.  An `@` with nothing
around it must end the URL, and a port ends at a backslash. -/
def authority? (scheme : List Char) (cs : List Char) : Option (Authority × List Char) :=
  let k := kindOf scheme
  let text := cs.takeWhile fun c => !endsAuthority k c
  let rest := cs.dropWhile fun c => !endsAuthority k c
  let (userinfo, place) := (atLastAt text).getD ([], text)
  let (hostText, portText) := atPort false place
  let (user, password) := credentials userinfo
  let behind := portText.getD []
  let digits := behind.takeWhile (· ≠ '\\')
  let isBare := hostText.isEmpty
    && (k.isSpecial || portText.isSome || !user.isEmpty || !password.isEmpty
      || (text = ['@'] && !rest.isEmpty))
  if isBare then none
  else
    match (if k.isSpecial then Host.web? hostText else Host.other? hostText), port? scheme digits with
    | some host, some port =>
      some (⟨user, password, host, port⟩, behind.drop digits.length ++ rest)
    | _, _ => none

/-! ## Reading -/

/-- The query and the fragment behind a path. -/
def tail (k : Kind) (cs : List Char) : Option (List Char) × Option (List Char) :=
  let fragment := match cs.dropWhile (· != '#') with
    | _ :: text => some (encode fragmentKeeps text)
    | [] => none
  let query := match cs.takeWhile (· != '#') with
    | '?' :: text => some (encode (queryKeeps k.isSpecial) text)
    | _ => none
  (query, fragment)

/-- Whether a character ends the path. -/
def endsPath (c : Char) : Bool := c = '?' || c = '#'

/-- A URL of which all is known but what follows the host; `path` reads the text of the path. -/
def finish (scheme : List Char) (a : Option Authority) (path : List Char → Path) (cs : List Char) :
    Url :=
  let (query, fragment) := tail (kindOf scheme) (cs.dropWhile fun c => !endsPath c)
  { scheme := scheme
    user := (a.map Authority.user).getD []
    password := (a.map Authority.password).getD []
    host := a.map Authority.host
    port := a.bind Authority.port
    path := path (cs.takeWhile fun c => !endsPath c)
    query := query
    fragment := fragment }

/-- A URL behind a double slash. -/
def behindSlashes? (scheme : List Char) (cs : List Char) : Option Url :=
  (authority? scheme cs).map fun (a, rest) =>
    finish scheme (some a) (Path.ofText (kindOf scheme)) rest

/-- A path on a URL without a host. -/
def hostlessPath : List Char → Path
  | '/' :: rest => .rooted (segments .other rest)
  | text => .rootless (encode isPrintable text)

/-! ## Files -/

/-- This host: the one that a file without a host is on. -/
def thisHost : Host := .name []

/-- The host of a file; `localhost` is this one. -/
def fileHost? (cs : List Char) : Option Host :=
  if cs.isEmpty then some thisHost
  else (Host.web? cs).map fun host =>
    if host = .name ['l', 'o', 'c', 'a', 'l', 'h', 'o', 's', 't'] then thisHost else host

/-- A path of a file, without empty segments at its front. -/
def filePath (names : List (List Char)) : Path :=
  let rest := names.dropWhile List.isEmpty
  .rooted (if rest.isEmpty then [[]] else rest)

/-- A URL that names a file on a host.  A drive is on this host, whatever the text says. -/
def onHost (scheme : List Char) (host : Host) (names : List Char → List (List Char))
    (cs : List Char) : Url :=
  let pathText := cs.takeWhile fun c => !endsPath c
  let host := if (names pathText).head?.any isDrive then thisHost else host
  finish scheme (some ⟨[], [], host, none⟩) (filePath ∘ names) cs

/-- A URL that names a file.  Behind a double slash stands a host, unless it is a drive; without a
host the slash that follows is a segment of its own. -/
def file? (scheme : List Char) (cs : List Char) : Option Url :=
  let below (text : List Char) := segments .file (dropSlash .file text)
  match cs with
  | c :: d :: more =>
    if isSlash .file c ∧ isSlash .file d then
      let hostText := more.takeWhile fun c => !endsAuthority .file c
      if isDrive hostText then some (onHost scheme thisHost (segments .file) more)
      else (fileHost? hostText).map fun host =>
        onHost scheme host (if host = thisHost then segments .file else below)
          (more.drop hostText.length)
    else some (onHost scheme thisHost below cs)
  | _ => some (onHost scheme thisHost below cs)

/-! ## Texts -/

/-- Whether a character is a blank or a control character. -/
def isBlank (c : Char) : Bool := c.toNat ≤ 32

/-- Whether a character is passed over wherever it stands. -/
def isPassedOver (c : Char) : Bool := c = '\t' || c = '\n' || c = '\r'

/-- A text without blanks around it and without line breaks in it. -/
def trimmed (cs : List Char) : List Char :=
  let front := cs.dropWhile isBlank
  (front.reverse.dropWhile isBlank).reverse.filter fun c => !isPassedOver c

/-- **Reading a text.** -/
def parse? (text : String) : Option Url :=
  match takeScheme? (trimmed text.toList) with
  | none => none
  | some (scheme, rest) =>
    match kindOf scheme with
    | .file => file? scheme rest
    | .web => behindSlashes? scheme (rest.dropWhile (isSlash .web))
    | .other =>
      match rest with
      | '/' :: '/' :: rest => behindSlashes? scheme rest
      | rest => some (finish scheme none hostlessPath rest)

/-! ## Writing -/

/-- User and password before a host. -/
def userText (u : Url) : List Char :=
  u.user ++ (if u.password.isEmpty then [] else ':' :: u.password)
    ++ (if u.user.isEmpty && u.password.isEmpty then [] else ['@'])

/-- What stands between the scheme and the path.  A path that would read as a host is told apart by
a dot. -/
def hostText (u : Url) : List Char :=
  match u.host with
  | some host =>
    ['/', '/'] ++ u.userText ++ host.text
      ++ (match u.port with | some n => ':' :: Nat.toDigits 10 n | none => [])
  | none =>
    match u.path with
    | .rooted ([] :: _ :: _) => ['/', '.']
    | _ => []

/-- The text of a URL, as characters. -/
def chars (u : Url) : List Char :=
  u.scheme ++ ':' :: u.hostText ++ u.path.text
    ++ (match u.query with | some q => '?' :: q | none => [])
    ++ (match u.fragment with | some f => '#' :: f | none => [])

/-- **The text of a URL.** -/
def text (u : Url) : String := String.ofList u.chars

/-! ## Changing -/

/-- A URL with another path.  Query and fragment marks in the text belong to the path. -/
def withPath (u : Url) (text : List Char) : Url :=
  let text := text.filter fun c => !isPassedOver c
  match u.path with
  | .rooted _ => { u with path := Path.ofText (kindOf u.scheme) text }
  | .rootless _ =>
    let path := match text with
      | '/' :: rest => ['%', '2', 'F'] ++ encode isPrintable rest
      | rest => encode isPrintable rest
    { u with path := .rootless path }

end Url

end OrderDesk
