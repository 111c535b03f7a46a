import OrderDesk.Error
import OrderDesk.Url.Basic

/-!
# Endpoint — the addresses below a base URL

An endpoint's path is set behind the path of the base, with one slash between them.  A stream has
the same address on the matching WebSocket scheme.
-/

namespace OrderDesk.Url

/-- A text without the slashes at its end. -/
def dropEndSlashes (cs : List Char) : List Char := (cs.reverse.dropWhile (· = '/')).reverse

/-- The path of a base with another path behind it. -/
def joinPaths (base path : List Char) : List Char :=
  dropEndSlashes base ++ '/' :: path.dropWhile (· = '/')

/-- **The endpoint at a path below a base.** -/
def endpoint (base : Url) (path : String) : Url :=
  base.withPath (joinPaths base.path.text path.toList)

/-- The WebSocket scheme that matches a scheme. -/
def streamScheme? (scheme : List Char) : Option (List Char) :=
  if scheme = ['h', 't', 't', 'p'] ∨ scheme = ['w', 's'] then some ['w', 's']
  else if scheme = ['h', 't', 't', 'p', 's'] ∨ scheme = ['w', 's', 's'] then some ['w', 's', 's']
  else none

/-- **The address of the stream at a path below a base.** -/
def stream (base : Url) (path : String) : Except Error Url :=
  match streamScheme? base.scheme with
  | some scheme => .ok { base.endpoint path with scheme := scheme }
  | none => .error (.invalidIdentifier (.unsupportedScheme (String.ofList base.scheme)))

end OrderDesk.Url
