import OrderDesk.Order.Channel
import OrderDesk.Proofs.Channel.Keys
import OrderDesk.Proofs.Steps
import OrderDesk.Proofs.Waitlist.Entries
import Mathlib.Logic.Function.Basic

/-!
# Proofs/Channel/Traffic — a control channel, its senders and the service

    register ──▸ enqueue ──▸ transmit ──▸ answer ──▸ endWait
                                close ──▸ tell ──▸ finish

Any number of senders, the task that reads and writes the stream, and the service take turns in any
order.  A sender registers its request, queues it and waits; the task sends what is queued and hands
out what it reads, until its loop ends; then it tells those who wait, and closes the queue.  Requests
and answers carry no numbers on the stream: `Traffic` notes the number of the ticket of each request
beside it, and what became of it.  The service may also send responses that nobody asked for
(`Event.IsStray`), and they are handed out like any other.
-/

namespace OrderDesk

/-- **A response to a request:** an object with a single member, named after the kind of the request
and about the same order. -/
def ControlRequest.isAnswer (r : ControlRequest) : Json.Value → Bool
  | .object [(name, content)] =>
    name = r.kind ++ "Response" && Response.orderId? content = some r.orderId
  | _ => false

namespace ControlRequest

variable {r : ControlRequest}

/-- Whether a payload is a response to a request. -/
def isAnsweredBy (r : ControlRequest) (payload : List UInt8) : Bool :=
  match Frame.classify payload with
  | some (.data v) => r.isAnswer v
  | _ => false

theorem isAnsweredBy_iff {payload : List UInt8} : r.isAnsweredBy payload = true
    ↔ ∃ v, Frame.classify payload = some (.data v) ∧ r.isAnswer v = true := by
  rw [isAnsweredBy]
  split
  · next v hv => simp [hv]
  · next hv => simpa using fun v hdata => absurd hdata (hv v)

/-- **A response has the key of its request.** -/
theorem responseKey_of_isAnswer : ∀ {v : Json.Value}, r.isAnswer v = true →
    responseKey v = some r.correlationKey
  | .object [(name, content)], h => by
      simp only [isAnswer, Bool.and_eq_true, decide_eq_true_eq] at h
      rw [responseKey, h.1, h.2, Response.kind_eq_iff.mpr (.inl rfl)]
      rfl

end ControlRequest

namespace Channel

/-- Where the task is that reads and writes the stream. -/
inductive Task where
  | running
  /-- Its loop has ended. -/
  | ended
  /-- Those who wait have been told. -/
  | told
  /-- The queue is closed. -/
  | done
deriving DecidableEq

/-- A response of the service. -/
structure Answer where
  /-- The number of the request that the service answers, if it answers one. -/
  asker : Option Nat
  value : Json.Value
  /-- Who waits under the key of the response. -/
  taker : Option Nat

/-- **A control channel among its senders and the service.** -/
structure Traffic where
  channel : Channel
  task : Task
  /-- Requests that were registered, by number. -/
  requests : Nat → Option ControlRequest
  /-- The numbers of the requests in the queue. -/
  queue : List Nat
  /-- What the service has received and not answered. -/
  inbox : List (Nat × ControlRequest)
  /-- What the service has responded. -/
  answers : List Answer
  /-- Whose requests have been queued. -/
  sent : List Nat
  /-- Who has registered after those who waited were told. -/
  tardy : List Nat
  /-- Who has stopped to wait without a reply: dropped, or out of time. -/
  givenUp : List Nat

/-- What can happen around a control channel. -/
inductive Event where
  /-- Somebody sends a request: it is registered. -/
  | register (r : ControlRequest) (timeout : Duration)
  /-- A sender queues its request, and waits if the queue takes it. -/
  | enqueue (id : Nat)
  /-- A sender is dropped. -/
  | drop (id : Nat)
  /-- A wait ends. -/
  | endWait (id : Nat)
  /-- Time passes. -/
  | elapse (span : Duration)
  /-- The task sends the next request, or fails to. -/
  | transmit (arrives : Bool)
  /-- The service answers a request that it has received, and has not answered yet. -/
  | answer (id : Nat) (payload : List UInt8)
  /-- The task reads anything else; a pong that is due may fail. -/
  | receive (payload : List UInt8) (writable : Bool)
  /-- The service closes the stream. -/
  | close
  /-- The task tells those who wait. -/
  | tell
  /-- The task closes the queue, and is done. -/
  | finish

/-- The response that a payload holds, and its key. -/
def response? (payload : List UInt8) : Option (String × Json.Value) :=
  match Frame.classify payload with
  | some (.data v) => (responseKey v).map (·, v)
  | _ => none

/-- **A response that answers no request** which the service has received and not answered yet. -/
def Event.IsStray : Event → Prop
  | .receive payload _ => (response? payload).isSome = true
  | _ => False

variable {c : Channel} {payload : List UInt8} {key : String} {v : Json.Value}

theorem dispatch_of_some (h : responseKey v = some key) :
    c.dispatch v = { c with waitlist := (c.waitlist.deliver key v).2 } := by
  rw [dispatch, h]

/-- A response goes to the list of those who wait, under its key… -/
theorem take_of_response (h : response? payload = some (key, v)) :
    c.take payload = (false, { c with waitlist := (c.waitlist.deliver key v).2 }) := by
  rw [response?] at h
  split at h
  · next v' hv =>
    obtain ⟨key', hkey, heq⟩ := Option.map_eq_some_iff.mp h
    obtain ⟨rfl, rfl⟩ := Prod.mk.inj heq
    rw [take, hv]
    exact congrArg (Prod.mk false) (dispatch_of_some hkey)
  · contradiction

/-- …and all else is none of theirs. -/
theorem take_of_not_response (h : response? payload = none) : (c.take payload).2 = c := by
  rw [response?] at h
  rw [take]
  split
  · rfl
  · next v hv =>
    rw [hv] at h
    rw [dispatch, Option.map_eq_none_iff.mp h]
  · rfl

/-- An answer to a request is a response with its key. -/
theorem response?_of_isAnswer {r : ControlRequest} (hv : Frame.classify payload = some (.data v))
    (ha : r.isAnswer v = true) : response? payload = some (r.correlationKey, v) := by
  rw [response?, hv]
  simp only [ControlRequest.responseKey_of_isAnswer ha, Option.map_some]

namespace Traffic

/-- A channel that was just opened. -/
def opening : Traffic := ⟨.opened, .running, fun _ => none, [], [], [], [], [], []⟩

/-- The list of those who wait. -/
abbrev waitlist (w : Traffic) : Waitlist := w.channel.waitlist

/-- Whose entry is under a key. -/
def taker? (w : Traffic) (key : String) : Option Nat :=
  (w.waitlist.entries.find? (·.key = key)).map Entry.id

/-- Those who wait are another list. -/
def withWaitlist (w : Traffic) (waitlist : Waitlist) : Traffic :=
  { w with channel := { w.channel with waitlist := waitlist } }

/-- Whether those who wait have been told that the stream has ended. -/
abbrev HasTold (w : Traffic) : Prop := w.task = .told ∨ w.task = .done

/-- A request has been registered, or refused. -/
def registered (w : Traffic) (r : ControlRequest) (timeout : Duration) : Traffic :=
  match w.channel.register r timeout with
  | (.ok t, channel) =>
    { w with
      channel := channel
      requests := Function.update w.requests t.id (some r)
      tardy := if w.HasTold then w.tardy ++ [t.id] else w.tardy }
  | (.error _, channel) => { w with channel := channel }

/-- A request has been queued and its sender waits, or the queue is closed. -/
def enqueued (w : Traffic) (r : ControlRequest) (t : Ticket) : Traffic :=
  match w.channel.enqueue r t with
  | (.ok t, channel) =>
    { w with
      channel := { channel with waitlist := channel.waitlist.attend t.id }
      queue := w.queue ++ [t.id]
      sent := w.sent ++ [t.id] }
  | (.error _, channel) => { w with channel := channel }

/-- Somebody holds a ticket no longer. -/
def leaving (w : Traffic) (t : Ticket) (waitlist : Waitlist) : Traffic :=
  { w.withWaitlist waitlist with
    givenUp := if t.waiting && t.reply.isNone then w.givenUp ++ [t.id] else w.givenUp }

/-- A request has been sent, or the loop has ended. -/
def transmitted (w : Traffic) (r : ControlRequest) (id : Nat) (arrives : Bool) : Traffic :=
  { w with
    channel := w.channel.next.2
    queue := w.queue.tail
    inbox := if arrives then w.inbox ++ [(id, r)] else w.inbox
    task := if arrives then w.task else .ended }

/-- A response has been handed out under its key. -/
def responded (w : Traffic) (asker : Option Nat) (key : String) (v : Json.Value) : Traffic :=
  { w.withWaitlist (w.waitlist.deliver key v).2 with
    answers := w.answers ++ [⟨asker, v, w.taker? key⟩] }

/-- The task has read an answer. -/
def answered (w : Traffic) (id : Nat) (r : ControlRequest) (payload : List UInt8)
    (v : Json.Value) : Traffic :=
  { w with
    channel := (w.channel.take payload).2
    inbox := w.inbox.filter (·.1 ≠ id)
    answers := w.answers ++ [⟨some id, v, w.taker? r.correlationKey⟩] }

/-- The task has read anything else. -/
def received (w : Traffic) (payload : List UInt8) (writable : Bool) : Traffic :=
  { w with
    channel := (w.channel.take payload).2
    answers := w.answers ++ (response? payload).toList.map fun q => ⟨none, q.2, w.taker? q.1⟩
    task := if (w.channel.take payload).1 && !writable then .ended else w.task }

/-- **What an event does,** where it can come. -/
def step (w : Traffic) : Event → Option Traffic
  | .register r timeout => some (w.registered r timeout)
  | .enqueue id =>
    match w.requests id, w.waitlist.ticket? id with
    | some r, some t => if id ∈ w.sent then none else some (w.enqueued r t)
    | _, _ => none
  | .drop id => (w.waitlist.ticket? id).map fun t => w.leaving t (w.waitlist.drop id)
  | .endWait id =>
    match w.waitlist.ticket? id with
    | some t =>
      if (t.outcome? w.waitlist.clock).isSome then some (w.leaving t (w.waitlist.endWait id))
      else none
    | none => none
  | .elapse span => some (w.withWaitlist (w.waitlist.elapse span))
  | .transmit arrives =>
    match w.task, w.channel.next.1, w.queue.head? with
    | .running, some r, some id => some (w.transmitted r id arrives)
    | _, _, _ => none
  | .answer id payload =>
    match w.task, w.inbox.lookup id, Frame.classify payload with
    | .running, some r, some (.data v) =>
      if r.isAnswer v then some (w.answered id r payload v) else none
    | _, _, _ => none
  | .receive payload writable =>
    if w.task = .running then some (w.received payload writable) else none
  | .close => if w.task = .running then some { w with task := .ended } else none
  | .tell =>
    if w.task = .ended then some { w with channel := w.channel.failPending, task := .told } else none
  | .finish =>
    if w.task = .told then some { w with channel := w.channel.shut, task := .done, queue := [] }
    else none

/-- **A run:** events one after the other. -/
abbrev run (w : Traffic) (es : List Event) : Option Traffic := Steps.run step w es

variable {w w' : Traffic} {id : Nat}

/-! ## When an event can come, and what it does -/

theorem enqueue_of_step (h : w.step (.enqueue id) = some w') : ∃ r t, w.requests id = some r
    ∧ w.waitlist.ticket? id = some t ∧ id ∉ w.sent ∧ w.enqueued r t = w' := by
  rw [step] at h
  split at h
  · next r t hr ht =>
    split at h
    · contradiction
    · next hsent => exact ⟨r, t, hr, ht, hsent, Option.some.inj h⟩
  · contradiction

theorem drop_of_step (h : w.step (.drop id) = some w') : ∃ t, w.waitlist.ticket? id = some t
    ∧ w.leaving t (w.waitlist.release t) = w' := by
  rw [step, Option.map_eq_some_iff] at h
  obtain ⟨t, ht, rfl⟩ := h
  refine ⟨t, ht, ?_⟩
  rw [Waitlist.drop, ht]

theorem endWait_of_step (h : w.step (.endWait id) = some w') : ∃ t reply,
    w.waitlist.ticket? id = some t ∧ t.outcome? w.waitlist.clock = some reply
      ∧ w.leaving t { w.waitlist.release t with
          outcomes := w.waitlist.outcomes ++ [(id, reply)] } = w' := by
  rw [step] at h
  split at h
  · next t ht =>
    split at h
    · next hsome =>
      obtain ⟨reply, hreply⟩ := Option.isSome_iff_exists.mp hsome
      obtain rfl := Option.some.inj h
      refine ⟨t, reply, ht, hreply, ?_⟩
      rw [Waitlist.endWait, ht]
      simp only [hreply]
    · contradiction
  · contradiction

theorem transmit_of_step {arrives : Bool} (h : w.step (.transmit arrives) = some w') :
    w.task = .running ∧ ∃ r outbox id queue, w.channel.outbox = r :: outbox
      ∧ w.queue = id :: queue ∧ w.transmitted r id arrives = w' := by
  rw [step] at h
  split at h
  · next r id htask hr hid =>
    obtain ⟨outbox, hout⟩ := List.head?_eq_some_iff.mp hr
    obtain ⟨queue, hqueue⟩ := List.head?_eq_some_iff.mp hid
    exact ⟨htask, r, outbox, id, queue, hout, hqueue, Option.some.inj h⟩
  · contradiction

theorem answer_of_step (h : w.step (.answer id payload) = some w') : w.task = .running
    ∧ ∃ r v, w.inbox.lookup id = some r ∧ Frame.classify payload = some (.data v)
      ∧ r.isAnswer v = true ∧ w.answered id r payload v = w' := by
  rw [step] at h
  split at h
  · next r v htask hr hv =>
    split at h
    · next hanswer => exact ⟨htask, r, v, hr, hv, hanswer, Option.some.inj h⟩
    · contradiction
  · contradiction

/-- A response that nobody asked for is handed out, and what is none may end the loop and does
nothing else. -/
theorem receive_of_step {writable : Bool} (h : w.step (.receive payload writable) = some w') :
    w.task = .running
      ∧ ((∃ key v, response? payload = some (key, v) ∧ w.responded none key v = w')
        ∨ response? payload = none
          ∧ ∃ task, (task = .running ∨ task = .ended) ∧ { w with task := task } = w') := by
  rw [step] at h
  split at h
  · next htask =>
    obtain rfl := Option.some.inj h
    refine ⟨htask, ?_⟩
    cases hr : response? payload with
    | some q =>
      refine .inl ⟨q.1, q.2, rfl, ?_⟩
      rw [received, take_of_response hr, hr]
      rfl
    | none =>
      refine .inr ⟨rfl, if (w.channel.take payload).1 && !writable then .ended else w.task, ?_, ?_⟩
      · split
        · exact .inr rfl
        · exact .inl htask
      · rw [received, take_of_not_response hr, hr, Option.toList_none, List.map_nil,
          List.append_nil]
  · contradiction

theorem close_of_step (h : w.step .close = some w') :
    w.task = .running ∧ { w with task := .ended } = w' := by
  simpa [step] using h

theorem tell_of_step (h : w.step .tell = some w') : w.task = .ended
    ∧ { w.withWaitlist (w.waitlist.drain disconnectedReason) with task := .told } = w' := by
  rw [step] at h
  split at h
  · next htask => exact ⟨htask, Option.some.inj h⟩
  · contradiction

theorem finish_of_step (h : w.step .finish = some w') : w.task = .told
    ∧ { w with channel := w.channel.shut, task := .done, queue := [] } = w' := by
  simpa [step] using h

end Traffic

end Channel

end OrderDesk
