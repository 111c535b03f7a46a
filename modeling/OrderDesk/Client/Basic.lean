import OrderDesk.Client.Route
import OrderDesk.Config
import OrderDesk.Http.Message
import OrderDesk.Session.Drive
import OrderDesk.Signer

/-!
# Client/Basic — authenticated requests

A client makes requests in its user's name.  It gets its token by signing a nonce of the service,
takes a new one before the old one expires, and tries a request again once if the service rejects
the token.  How requests travel is a `Transport` on the state `σ` of the world outside; `κ` is an
open stream.
-/

namespace OrderDesk

open Json (Value Codec Fields)

/-- What comes of asking for a stream. -/
inductive Dialled (κ : Type) where
  /-- It is open. -/
  | opened (stream : κ)
  /-- The service refused it with a status. -/
  | refused (status : Nat)
  /-- There was no answer. -/
  | failed
  /-- There was none in time. -/
  | timedOut

/-- How requests travel. -/
structure Transport (σ κ : Type) where
  /-- The time. -/
  now : σ → Int64
  /-- A request and its response. -/
  send : Http.Request → σ → Except Error Http.Response × σ
  /-- A request for a stream. -/
  dial : Http.Request → σ → Dialled κ × σ

/-- A client of the service. -/
structure Client where
  config : Config
  signer : Signer

/-- A client's session and the world outside. -/
structure Link (σ : Type) where
  session : Session
  world : σ

namespace Client

variable {α σ κ : Type}

/-- The session that a client starts with. -/
def newSession (c : Client) : Session := .ofMargin c.config.refreshMargin

/-- A client as diagnostics show it. -/
def debugText (c : Client) : String :=
  "Client \x7b base_url: " ++ Quoted.text c.config.baseUrl.text ++ ", user: " ++ c.signer.debugText
    ++ ", .. \x7d"

/-! ## Authentication -/

/-- The nonce in a response. -/
def nonceCodec : Codec String := (Fields.required "value" id Codec.string).codec id

/-- A time in JSON, as a number or as a decimal numeral. -/
def timeCodec : Codec Int64 where
  encode := Codec.int64.encode
  decode o d := match d with
    | .string s =>
      match Numeral.signed? s.toList with
      | some z => if -(Int.pow 2 63) ≤ z ∧ z < Int.pow 2 63 then .ok (.ofInt z) else .error .unreadable
      | none => .error .unreadable
    | d => Codec.int64.decode o d

/-- The token in a response. -/
def tokenCodec : Codec Token :=
  ((Fields.required "token" Token.value Codec.string).and <|
    Fields.required "expiry_ns" Token.expiry timeCodec).codec
    fun (value, expiry) => ⟨value, expiry⟩

/-- A request at a route without credentials. -/
def plainRequest (c : Client) (method : String) (route : Route) (body : Option Value) :
    Http.Request where
  method := method
  url := c.config.baseUrl.endpoint route.path
  credentials := none
  body := body
  upgrade := false

/-- Asking for a nonce. -/
def nonceRequest (c : Client) : Http.Request :=
  c.plainRequest "GET" (.nonce c.signer.publicKey) none

/-- A signed nonce, to be exchanged for a token. -/
def exchangeRequest (c : Client) (nonce : String) : Http.Request :=
  c.plainRequest "POST" .exchange <| some <| .object [
    ("user_id", PublicKey.codec.encode c.signer.publicKey),
    ("nonce", .string nonce),
    ("signature", .array ((c.signer.sign nonce).map fun b => .nat b.toNat))]

/-- An error in one of the two steps of authentication. -/
def failedStep (step : String) (e : Error) : Error :=
  .authenticationFailure (step ++ ": " ++ e.message)

/-- **Authentication:** a nonce is fetched, signed, and exchanged for a token. -/
def authenticate (c : Client) (t : Transport σ κ) (s : σ) : Except Error Token × σ :=
  match t.send c.nonceRequest s with
  | (.error e, s) => (.error e, s)
  | (.ok response, s) =>
    match response.decode nonceCodec with
    | .error e => (.error (failedStep "fetching nonce" e), s)
    | .ok nonce =>
      match t.send (c.exchangeRequest nonce) s with
      | (.error e, s) => (.error e, s)
      | (.ok response, s) =>
        ((response.decode tokenCodec).mapError (failedStep "exchanging nonce"), s)

/-! ## Requests -/

/-- In whose name a client makes requests with a token. -/
def credentials (c : Client) (token : Token) : Http.Credentials :=
  ⟨token.value, c.signer.publicKey.text⟩

/-- What a caller of the session meets. -/
def surroundings (c : Client) (t : Transport σ κ) (attempt : Token → σ → Except Error α × σ) :
    Session.Surroundings α σ :=
  ⟨t.now, c.authenticate t, attempt⟩

/-- A token that is valid beyond the margin. -/
def ensureToken (c : Client) (t : Transport σ κ) (l : Link σ) : Except Error Token × Link σ :=
  let e : Session.Surroundings Unit σ := c.surroundings t fun _ s => (.ok (), s)
  match Session.drive e (.token .refresh) l.session l.world with
  | (.granted r, session, s) => (r, ⟨session, s⟩)
  | (_, session, s) => (.error (.authenticationFailure "no token"), ⟨session, s⟩)

/-- **An operation with valid credentials.** -/
def call (c : Client) (t : Transport σ κ) (attempt : Token → σ → Except Error α × σ) (l : Link σ) :
    Except Error α × Link σ :=
  match Session.drive (c.surroundings t attempt) .call l.session l.world with
  | (.ended r, session, s) => (r, ⟨session, s⟩)
  | (_, session, s) => (.error (.authenticationFailure "no token"), ⟨session, s⟩)

/-- **An authenticated request,** and the value of its response. -/
def request (c : Client) (t : Transport σ κ) (method path : String) (body : Option Value)
    (l : Link σ) : Except Error Value × Link σ :=
  c.call t (fun token s =>
    match t.send ⟨method, c.config.baseUrl.endpoint path, some (c.credentials token), body, false⟩ s
      with
    | (.error e, s) => (.error e, s)
    | (.ok response, s) => (response.value, s)) l

/-- A request at a route. -/
def get (c : Client) (t : Transport σ κ) (route : Route) : Link σ → Except Error Value × Link σ :=
  c.request t "GET" route.path none

/-- A request at a route with a body. -/
def post (c : Client) (t : Transport σ κ) (route : Route) (body : Value) :
    Link σ → Except Error Value × Link σ :=
  c.request t "POST" route.path (some body)

end Client

end OrderDesk
