import OrderDesk.Order.Response
import OrderDesk.Stream.Frame
import OrderDesk.Waitlist.Basic

/-!
# Order/Channel — the control channel

Cancels and replaces travel over one stream, many at a time.  A request is registered under its key,
then queued for sending; its response is found by the same key.  When the stream ends, every request
that waits is told so first, and only then the queue is closed.
-/

namespace OrderDesk

/-- The control channel. -/
structure Channel where
  waitlist : Waitlist
  /-- What is still to be sent, in order. -/
  outbox : List ControlRequest
  /-- Whether the queue takes requests. -/
  isOpen : Bool

namespace Channel

/-- A channel that was just opened. -/
def opened : Channel := ⟨.empty, [], true⟩

/-- What is said of a request that the queue does not take. -/
def closedReason : String := "control channel closed"

/-- What is said to those who wait when the stream ends. -/
def disconnectedReason : String := "control channel disconnected"

/-- How many requests wait for a response. -/
def pending (c : Channel) : Nat := c.waitlist.length

/-! ## The steps of a request -/

/-- A request is registered under its key. -/
def register (c : Channel) (r : ControlRequest) (timeout : Duration) :
    Except Error Ticket × Channel :=
  let (ticket, waitlist) := c.waitlist.register r.correlationKey timeout
  (ticket, { c with waitlist := waitlist })

/-- A registered request is queued; if the queue is closed, its ticket is given up. -/
def enqueue (c : Channel) (r : ControlRequest) (ticket : Ticket) : Except Error Ticket × Channel :=
  if c.isOpen then (.ok ticket, { c with outbox := c.outbox ++ [r] })
  else
    (.error (.streamDisconnected closedReason),
      { c with waitlist := c.waitlist.drop ticket.id })

/-- **A request is sent:** both steps, and the wait begins. -/
def send (c : Channel) (r : ControlRequest) (timeout : Duration) : Except Error Ticket × Channel :=
  match c.register r timeout with
  | (.error e, c) => (.error e, c)
  | (.ok ticket, c) =>
    match c.enqueue r ticket with
    | (.error e, c) => (.error e, c)
    | (.ok ticket, c) => (.ok ticket, { c with waitlist := c.waitlist.attend ticket.id })

/-! ## The steps of the stream -/

/-- The next request to be sent leaves the queue. -/
def next (c : Channel) : Option ControlRequest × Channel :=
  (c.outbox.head?, { c with outbox := c.outbox.tail })

/-- **A response** goes to the request that waits for it. -/
def dispatch (c : Channel) (v : Json.Value) : Channel :=
  match responseKey v with
  | some key => { c with waitlist := (c.waitlist.deliver key v).2 }
  | none => c

/-- A payload is taken; the answer says whether a pong is due. -/
def take (c : Channel) (payload : List UInt8) : Bool × Channel :=
  match Frame.classify payload with
  | some (.control m) => (m.isPing, c)
  | some (.data v) => (false, c.dispatch v)
  | none => (false, c)

/-- The stream has ended: those who wait are told. -/
def failPending (c : Channel) : Channel :=
  { c with waitlist := c.waitlist.drain disconnectedReason }

/-- The queue is closed. -/
def shut (c : Channel) : Channel := { c with outbox := [], isOpen := false }

/-- **The end of the stream.** -/
def disconnect (c : Channel) : Channel := c.failPending.shut

/-- **Closing the channel.** -/
def close (c : Channel) : Channel :=
  { c.shut with waitlist := c.waitlist.drain closedReason }

end Channel

end OrderDesk
