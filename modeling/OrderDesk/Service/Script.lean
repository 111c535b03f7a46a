import OrderDesk.Client.Dial
import OrderDesk.Order.Channel
import OrderDesk.Stream.Feed

/-!
# Service/Script — a service that plays a script

The n-th request gets the n-th reply, whatever it asks for.  An accepted stream plays its cues in
order and ends; what the client sends on it is written down.  A service out of reach answers nothing,
and no request arrives there.
-/

namespace OrderDesk

/-- What a service does on an accepted stream. -/
inductive Cue where
  /-- It sends a message. -/
  | message (payload : List UInt8)
  /-- It waits for a message of the client. -/
  | awaitMessage
  /-- It closes the stream. -/
  | close

/-- The reply to a request. -/
inductive ScriptedReply where
  | answer (status : Nat) (body : String)
  /-- The connection is closed without an answer. -/
  | drop
  /-- A stream is accepted. -/
  | accept (cues : List Cue)

/-- An accepted stream, as the service saw it. -/
structure Socket where
  /-- What was asked for. -/
  target : String
  /-- The messages of the client, in order. -/
  received : List String

/-- A service with a script. -/
structure Service where
  /-- Whether requests arrive. -/
  reachable : Bool
  /-- The time. -/
  now : Int64
  /-- The replies to the requests to come. -/
  replies : List ScriptedReply
  /-- The requests that arrived, in order. -/
  requests : List Http.Request
  /-- The streams that were accepted, in order. -/
  sockets : List Socket

/-- A stream that is open. -/
structure Playing where
  /-- Which of the accepted streams it is. -/
  index : Nat
  /-- What the service is still going to do. -/
  cues : List Cue
  /-- How many messages of the client it has not waited for yet. -/
  unread : Nat

namespace Service

/-- A request arrives. -/
def note (s : Service) (r : Http.Request) : Service :=
  { s with requests := s.requests ++ [r], replies := s.replies.tail }

/-- What is answered when the script is at its end. -/
def exhausted : Http.Response := ⟨500, "script exhausted"⟩

/-- A plain request and its response. -/
def send (r : Http.Request) (s : Service) : Except Error Http.Response × Service :=
  if s.reachable then
    (match s.replies.head? with
      | some (.answer status body) => .ok ⟨status, body⟩
      | some .drop => .error .http
      | some (.accept _) => .ok ⟨500, ""⟩
      | none => .ok exhausted, s.note r)
  else (.error .http, s)

/-- A request for a stream. -/
def dial (r : Http.Request) (s : Service) : Dialled Playing × Service :=
  if s.reachable then
    match s.replies.head? with
    | some (.answer status _) => (.refused status, s.note r)
    | some .drop => (.failed, s.note r)
    | some (.accept cues) =>
      (.opened ⟨s.sockets.length, cues, 0⟩,
        { s.note r with sockets := s.sockets ++ [⟨r.target, []⟩] })
    | none => (.refused exhausted.status, s.note r)
  else (.failed, s)

/-- How requests travel to the service. -/
def transport : Transport Service Playing := ⟨now, send, dial⟩

/-- A message of the client is written down. -/
def hear (s : Service) (index : Nat) (text : String) : Service :=
  { s with sockets := s.sockets.modify index fun k => { k with received := k.received ++ [text] } }

/-! ## Data streams -/

/-- The pong. -/
def pongText : String := ControlMessage.codec.write .pong

variable {α : Type}

/-- A stream played to its end, or until the service waits in vain.  Answers whether it ended. -/
def play (read : Json.Value → Option α) (index : Nat) :
    List Cue → Nat → Feed α → Service → (Feed α × Bool) × Service
  | [], _, f, s => ((f, true), s)
  | .close :: _, _, f, s => ((f, true), s)
  | .awaitMessage :: cues, n + 1, f, s => play read index cues n f s
  | .awaitMessage :: _, 0, f, s => ((f, false), s)
  | .message payload :: cues, n, f, s =>
    let (g, _) := f.take (m := Id) read ⟨payload, true, true⟩
    if g.pongs = f.pongs then play read index cues n g s
    else play read index cues (n + 1) g (s.hear index pongText)

/-- A stream and those that follow it when it is opened again, up to a number. -/
def playOn (c : Client) (url : Url) (read : Json.Value → Option α) :
    Nat → Playing → Feed α → Link Service → Feed α × Link Service
  | 0, _, f, l => (f, l)
  | n + 1, p, f, l =>
    let ((f, ended), s) := play read p.index p.cues p.unread f l.world
    let l := { l with world := s }
    if ended && c.config.reconnect then
      match c.reconnect transport url (fun _ => true) (l.world.replies.length + 1) l with
      | (some (some p), l) => playOn c url read n p f l
      | (_, l) => (f, l)
    else (f, l)

/-- **A data stream from its opening to its end.** -/
def stream (c : Client) (path : String) (read : Json.Value → Option α) (l : Link Service) :
    Except Error (Feed α) × Link Service :=
  match c.openPath transport path l with
  | (.error e, l) => (.error e, l)
  | (.ok (url, p), l) =>
    let (f, l) := playOn c url read (l.world.replies.length + 1) p .empty l
    (.ok f, l)

/-! ## The control channel -/

/-- A control channel and the stream that it uses. -/
structure Line where
  channel : Channel
  playing : Playing

/-- Queued requests are sent. -/
def flush (index : Nat) : List ControlRequest → Nat → Service → Nat × Service
  | [], n, s => (n, s)
  | r :: rest, n, s => flush index rest (n + 1) (s.hear index (ControlRequest.codec.write r))

/-- The service plays until it waits or the stream ends. -/
def playLine (index : Nat) : List Cue → Nat → Channel → Service → (Line × Service)
  | [], n, c, s => (⟨c.disconnect, ⟨index, [], n⟩⟩, s)
  | .close :: _, n, c, s => (⟨c.disconnect, ⟨index, [], n⟩⟩, s)
  | .awaitMessage :: cues, n + 1, c, s => playLine index cues n c s
  | .awaitMessage :: cues, 0, c, s => (⟨c, ⟨index, .awaitMessage :: cues, 0⟩⟩, s)
  | .message payload :: cues, n, c, s =>
    match c.take payload with
    | (true, c) => playLine index cues (n + 1) c (s.hear index pongText)
    | (false, c) => playLine index cues n c s

namespace Line

/-- Everything that can happen on the line happens. -/
def pump (line : Line) (s : Service) : Line × Service :=
  if line.channel.isOpen then
    let p := line.playing
    let (n, s) := flush p.index line.channel.outbox p.unread s
    playLine p.index p.cues n { line.channel with outbox := [] } s
  else (line, s)

/-- The control channel of a client is opened. -/
def connect (c : Client) (l : Link Service) : Except Error Line × Link Service :=
  match c.openPath transport Route.control.path l with
  | (.error e, l) => (.error e, l)
  | (.ok (_, p), l) =>
    let (line, s) := pump ⟨.opened, p⟩ l.world
    (.ok line, { l with world := s })

/-- A request is sent over the line. -/
def send (line : Line) (r : ControlRequest) (timeout : Duration) (s : Service) :
    Except Error Ticket × Line × Service :=
  let (ticket, channel) := line.channel.send r timeout
  (ticket, pump { line with channel := channel } s)

/-- The response to a request that was sent. -/
def await (line : Line) (id : Nat) : Option Reply × Line :=
  let (reply, waitlist) := line.channel.waitlist.finishWait id
  (reply, { line with channel := { line.channel with waitlist := waitlist } })

end Line

end Service

end OrderDesk
