import OrderDesk.Error

/-!
# Waitlist/Basic — requests that wait for their responses

A request is registered under a key before it is sent; its ticket is what the caller waits on.  The
first of three events ends the wait: a response with the key, the end of the connection, or the
deadline.  Each key has one entry at most, and an entry belongs to one ticket: whatever ends an old
ticket leaves the entry of a newer one under the same key alone.

The single steps come first; several callers may take them in any order.  The operations behind them
(`resolve`, `failAll`, `startWait`, `advance`) are such a step, and then the end of every wait that
it lets end.
-/

namespace OrderDesk

/-- What a wait ends with. -/
abbrev Reply := Except Error Json.Value

/-- An entry of the list. -/
structure Entry where
  key : String
  /-- The number of the ticket that it belongs to. -/
  id : Nat
deriving DecidableEq, Repr

/-- What the caller of a registered request holds. -/
structure Ticket where
  id : Nat
  key : String
  timeout : Duration
  /-- When the wait ends at the latest. -/
  deadline : Nat
  /-- The reply, once there is one. -/
  reply : Option Reply
  /-- Whether the caller waits. -/
  waiting : Bool

/-- **Requests that wait.**  Times are nanoseconds on the list's own clock. -/
structure Waitlist where
  clock : Nat
  /-- The number of the next ticket. -/
  nextId : Nat
  entries : List Entry
  /-- The tickets that callers hold. -/
  tickets : List Ticket
  /-- What ended waits gave, by the numbers of their tickets. -/
  outcomes : List (Nat × Reply)

namespace Ticket

/-- The entry that a ticket is registered with. -/
def entry (t : Ticket) : Entry := ⟨t.key, t.id⟩

/-- The reply of a ticket whose deadline has passed. -/
def expired (t : Ticket) : Reply := .error (.correlationTimeout t.key t.timeout)

/-- What ends the wait at a time: a reply before all, then the deadline. -/
def outcome? (t : Ticket) (now : Nat) : Option Reply :=
  if t.waiting then
    match t.reply with
    | some reply => some reply
    | none => if t.deadline ≤ now then some t.expired else none
  else none

/-- A ticket that has got a reply. -/
def answered (t : Ticket) (reply : Reply) : Ticket := { t with reply := some reply }

/-- A ticket whose caller waits. -/
def attended (t : Ticket) : Ticket := { t with waiting := true }

end Ticket

/-- The longest time that a clock can show. -/
def farthest : Nat := Nat.pow 2 63 * Nat.pow 10 9

/-- A year of 365 days. -/
def year : Nat := 365 * 86400 * Nat.pow 10 9

/-- The time a span behind another; thirty years behind it if no clock can show that time. -/
def deadlineAfter (now : Nat) (span : Duration) : Nat :=
  if now + span.nanoseconds < farthest then now + span.nanoseconds else now + 30 * year

namespace Waitlist

/-- A list without requests. -/
def empty : Waitlist := ⟨0, 0, [], [], []⟩

/-- How many requests wait for a response. -/
def length (w : Waitlist) : Nat := w.entries.length

/-- Whether a request waits under a key. -/
def isPending (w : Waitlist) (key : String) : Bool := w.entries.any (·.key = key)

/-- The ticket with a number. -/
def ticket? (w : Waitlist) (id : Nat) : Option Ticket := w.tickets.find? (·.id = id)

/-- What the wait on a ticket gave, if it has ended. -/
def outcome? (w : Waitlist) (id : Nat) : Option Reply := w.outcomes.lookup id

/-! ## Single steps -/

/-- The ticket that a request registered now would get. -/
def newTicket (w : Waitlist) (key : String) (timeout : Duration) : Ticket where
  id := w.nextId
  key := key
  timeout := timeout
  deadline := deadlineAfter w.clock timeout
  reply := none
  waiting := false

/-- **Registering a request.**  A key that is pending is refused; the number is used up all the
same. -/
def register (w : Waitlist) (key : String) (timeout : Duration) :
    Except Error Ticket × Waitlist :=
  let after := { w with nextId := w.nextId + 1 }
  if w.isPending key then (.error (.duplicateCorrelation key), after)
  else
    let ticket := w.newTicket key timeout
    (.ok ticket, { after with entries := ticket.entry :: w.entries, tickets := ticket :: w.tickets })

/-- Tickets of which those with an entry have got a reply. -/
def answerAll (entries : List Entry) (reply : Reply) (tickets : List Ticket) : List Ticket :=
  tickets.map fun t => if entries.any (·.id = t.id) then t.answered reply else t

/-- **A response with a key** goes to the ticket of the key's entry; without one it is lost. -/
def deliver (w : Waitlist) (key : String) (response : Json.Value) : Bool × Waitlist :=
  let (own, others) := w.entries.partition (·.key = key)
  if own.isEmpty then (false, w)
  else (true, { w with entries := others, tickets := answerAll own (.ok response) w.tickets })

/-- **The end of the connection** answers every request that waits. -/
def drain (w : Waitlist) (reason : String) : Waitlist :=
  { w with
    entries := []
    tickets := answerAll w.entries (.error (.streamDisconnected reason)) w.tickets }

/-- A ticket is let go of: it is gone, and with it the entry of its key, but only if that entry is
its own. -/
def release (w : Waitlist) (t : Ticket) : Waitlist :=
  { w with
    entries := w.entries.filter (· ≠ t.entry)
    tickets := w.tickets.filter (·.id ≠ t.id) }

/-- **Dropping a ticket,** whether its caller waits or not. -/
def drop (w : Waitlist) (id : Nat) : Waitlist :=
  match w.ticket? id with
  | some t => w.release t
  | none => w

/-- The caller of a ticket begins to wait. -/
def attend (w : Waitlist) (id : Nat) : Waitlist :=
  { w with tickets := w.tickets.map fun t => if t.id = id then t.attended else t }

/-- Time passes. -/
def elapse (w : Waitlist) (span : Duration) : Waitlist :=
  { w with clock := w.clock + span.nanoseconds }

/-- **The end of a wait,** if there is a reply or the deadline has passed: its outcome is noted, and
the ticket is let go of. -/
def endWait (w : Waitlist) (id : Nat) : Waitlist :=
  match w.ticket? id with
  | some t =>
    match t.outcome? w.clock with
    | some reply => { w.release t with outcomes := w.outcomes ++ [(id, reply)] }
    | none => w
  | none => w

/-! ## Steps and what follows at once -/

/-- Every wait that can end is ended. -/
def settle (w : Waitlist) : Waitlist := (w.tickets.map (·.id)).foldl endWait w

/-- A response with a key, and the end of the wait for it. -/
def resolve (w : Waitlist) (key : String) (response : Json.Value) : Bool × Waitlist :=
  let (known, w) := w.deliver key response
  (known, w.settle)

/-- The end of the connection, and of every wait. -/
def failAll (w : Waitlist) (reason : String) : Waitlist := (w.drain reason).settle

/-- Giving a ticket up, or what the wait on it gave. -/
def giveUp (w : Waitlist) (id : Nat) : Waitlist :=
  { w.drop id with outcomes := w.outcomes.filter (·.1 ≠ id) }

/-- Waiting on a ticket. -/
def startWait (w : Waitlist) (id : Nat) : Waitlist := (w.attend id).settle

/-- The clock moves on. -/
def advance (w : Waitlist) (span : Duration) : Waitlist := (w.elapse span).settle

/-- How long it takes until the wait on a ticket ends, if no response comes. -/
def remaining (w : Waitlist) (id : Nat) : Duration :=
  match w.ticket? id with
  | some t => ⟨t.deadline - w.clock⟩
  | none => ⟨0⟩

/-- Waiting on a ticket to the end: if no reply is there, the clock moves on to the deadline. -/
def finishWait (w : Waitlist) (id : Nat) : Option Reply × Waitlist :=
  let started := w.startWait id
  let ended := started.advance (started.remaining id)
  (ended.outcome? id, ended.giveUp id)

end Waitlist

end OrderDesk
