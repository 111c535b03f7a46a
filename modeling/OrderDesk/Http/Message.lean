import OrderDesk.Endpoint
import OrderDesk.Text.Blank

/-!
# Http/Message — requests and responses

A request carries a JSON body or none; with credentials it is made in the user's name.  A response
that reports success says `null` when it is empty, and else the JSON value of its body.
-/

namespace OrderDesk.Http

open Json (Value Codec)

/-- In whose name a request is made. -/
structure Credentials where
  /-- The bearer token. -/
  token : String
  /-- The user's public key in hexadecimal. -/
  userId : String
deriving DecidableEq

/-- A request. -/
structure Request where
  method : String
  url : Url
  credentials : Option Credentials
  body : Option Value
  /-- Whether it asks for a stream. -/
  upgrade : Bool

namespace Request

/-- What the request line asks for. -/
def target (r : Request) : String :=
  String.ofList (r.url.path.text ++ (match r.url.query with | some q => '?' :: q | none => []))

/-- The `Authorization` header. -/
def authorization? (r : Request) : Option String := r.credentials.map fun c => "Bearer " ++ c.token

/-- The `User-Id` header. -/
def userId? (r : Request) : Option String := r.credentials.map Credentials.userId

/-- The `Content-Type` header. -/
def contentType? (r : Request) : Option String := r.body.map fun _ => "application/json"

end Request

/-- A response. -/
structure Response where
  status : Nat
  body : String
deriving DecidableEq

namespace Response

/-- **The value that a response holds.** -/
def value (r : Response) : Except Error Value :=
  if !isSuccess r.status then .error (.status r.status r.body)
  else if r.status = 204 || Blank.isBlankText r.body then .ok .null
  else match Value.parse? r.body with
    | some v => .ok v
    | none => .error (.json .unreadable)

/-- What a value says, with the errors of a request. -/
def valueAs {α : Type} (c : Codec α) (v : Value) : Except Error α := (c.ofValue v).mapError .json

/-- What a response says. -/
def decode {α : Type} (c : Codec α) (r : Response) : Except Error α :=
  r.value.bind (valueAs c)

end Response

end OrderDesk.Http
