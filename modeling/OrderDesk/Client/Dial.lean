import OrderDesk.Client.Basic

/-!
# Client/Dial — opening streams

A stream is opened with the session's credentials, like any other request: a refusal for the token's
sake is tried once more with a new one.  A stream that ended is opened again and again, until it
opens, nobody listens any more, or the service refuses a renewed token, too.
-/

namespace OrderDesk.Client

variable {σ κ : Type}

/-- Asking for a stream with a token. -/
def dialRequest (c : Client) (url : Url) (token : Token) : Http.Request :=
  ⟨"GET", url, some (c.credentials token), none, true⟩

/-- Why a stream did not open. -/
def refusal (url : Url) (status : Nat) : Error :=
  if 100 ≤ status ∧ status < 1000 then .status status ("upgrade to " ++ url.text ++ " rejected")
  else .streamDisconnected
    ("unable to connect to " ++ url.text ++ ": status " ++ Numeral.decimal status)

/-- What an attempt to open a stream gives. -/
def dialOutcome (url : Url) : Dialled κ → Except Error κ
  | .opened stream => .ok stream
  | .refused status => .error (refusal url status)
  | .failed => .error (.streamDisconnected ("unable to connect to " ++ url.text))
  | .timedOut => .error (.streamDisconnected ("timed out connecting to " ++ url.text))

/-- One attempt to open a stream. -/
def handshake (c : Client) (t : Transport σ κ) (url : Url) (token : Token) (s : σ) :
    Except Error κ × σ :=
  let (d, s) := t.dial (c.dialRequest url token) s
  (dialOutcome url d, s)

/-- **Opening a stream.** -/
def connect (c : Client) (t : Transport σ κ) (url : Url) : Link σ → Except Error κ × Link σ :=
  c.call t (c.handshake t url)

/-- Opening the stream at a path. -/
def openPath (c : Client) (t : Transport σ κ) (path : String) (l : Link σ) :
    Except Error (Url × κ) × Link σ :=
  match c.config.baseUrl.stream path with
  | .error e => (.error e, l)
  | .ok url =>
    let (r, l) := c.connect t url l
    (r.map (url, ·), l)

/-- What opening a stream again comes to when it has been tried: the stream, nothing if the credentials
are rejected, and otherwise it is not over yet. -/
def redialled : Except Error κ → Option (Option κ)
  | .ok stream => some (some stream)
  | .error e => if e.isUnauthorized then some none else none

/-- **Opening a stream again,** up to a number of times: what comes of it, if it is over by then.  It
is over when the stream is open, and with nothing when nobody listens or the credentials are
rejected. -/
def reconnect (c : Client) (t : Transport σ κ) (url : Url) (listens : σ → Bool) :
    Nat → Link σ → Option (Option κ) × Link σ
  | 0, l => (none, l)
  | n + 1, l =>
    if listens l.world then
      let (r, l) := c.connect t url l
      match redialled r with
      | some result => (some result, l)
      | none => c.reconnect t url listens n l
    else (some none, l)

end OrderDesk.Client
