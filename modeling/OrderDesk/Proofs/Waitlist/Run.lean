import OrderDesk.Waitlist.Basic
import Mathlib.Data.List.Nodup
import Mathlib.Data.List.Basic

/-!
# Proofs/Waitlist/Run — a waitlist under any order of events

A run is any list of single steps, and so is ending every wait that can end (`settle_eq_run`), which
an `Operation` does behind its step.  What a step does is said once for each: whether a key is pending decides what `register` and `deliver` do,
a response and the end of the connection both `answer` some entries, and a reply ends a wait before
its deadline does.
-/

namespace OrderDesk

namespace Ticket

variable {t : Ticket} {reply : Reply}

/-- A reply ends the wait at any time. -/
theorem outcome?_of_reply (hw : t.waiting = true) (hr : t.reply = some reply) (now : Nat) :
    t.outcome? now = some reply := by
  rw [outcome?, if_pos hw, hr]

/-- Without a reply the deadline ends the wait, and nothing before it. -/
theorem outcome?_of_none (hw : t.waiting = true) (hr : t.reply = none) (now : Nat) :
    t.outcome? now = if t.deadline ≤ now then some t.expired else none := by
  rw [outcome?, if_pos hw, hr]

theorem eq_expired {now : Nat} (h : t.outcome? now = some reply) (hr : t.reply = none) :
    reply = t.expired := by
  simp only [outcome?, hr] at h
  split at h
  · split at h
    · exact (Option.some.inj h).symm
    · contradiction
  · contradiction

/-- A response that ends the wait is the reply. -/
theorem reply_eq_ok {now : Nat} {v : Json.Value} (h : t.outcome? now = some (.ok v)) :
    t.reply = some (.ok v) := by
  rw [outcome?] at h
  split at h
  · split at h
    · next reply hr => rw [hr, Option.some.inj h]
    · split at h <;> cases h
  · contradiction

end Ticket

namespace Waitlist

/-- What can happen to a waitlist. -/
inductive Event where
  | register (key : String) (timeout : Duration)
  | deliver (key : String) (response : Json.Value)
  | drain (reason : String)
  | drop (id : Nat)
  | attend (id : Nat)
  | elapse (span : Duration)
  | endWait (id : Nat)

/-- What an event does. -/
def step (w : Waitlist) : Event → Waitlist
  | .register key timeout => (w.register key timeout).2
  | .deliver key response => (w.deliver key response).2
  | .drain reason => w.drain reason
  | .drop id => w.drop id
  | .attend id => w.attend id
  | .elapse span => w.elapse span
  | .endWait id => w.endWait id

/-- **A run:** events one after the other, in any order. -/
def run (w : Waitlist) (es : List Event) : Waitlist := es.foldl step w

variable {w : Waitlist} {key : String} {t : Ticket}

theorem run_concat (w : Waitlist) (es : List Event) (ev : Event) :
    w.run (es ++ [ev]) = (w.run es).step ev := by
  rw [run, List.foldl_append]
  rfl

/-- Ending the waits that can end is a run. -/
theorem settle_eq_run (w : Waitlist) : w.settle = w.run (w.tickets.map fun t => .endWait t.id) := by
  rw [settle, run, List.foldl_map, List.foldl_map]
  rfl

/-- What a caller of a waitlist does at once: a single step, or one and what follows. -/
inductive Operation where
  | single (ev : Event)
  | resolve (key : String) (response : Json.Value)
  | failAll (reason : String)
  | giveUp (id : Nat)
  | startWait (id : Nat)
  | advance (span : Duration)
  | finishWait (id : Nat)

/-- What an operation does. -/
def perform (w : Waitlist) : Operation → Waitlist
  | .single ev => w.step ev
  | .resolve key response => (w.resolve key response).2
  | .failAll reason => w.failAll reason
  | .giveUp id => w.giveUp id
  | .startWait id => w.startWait id
  | .advance span => w.advance span
  | .finishWait id => (w.finishWait id).2

/-! ## What the steps do -/

theorem isPending_iff : w.isPending key = true ↔ ∃ e ∈ w.entries, e.key = key := by
  simp [isPending]

theorem register_of_isPending (h : w.isPending key = true) (timeout : Duration) :
    w.register key timeout
      = (.error (.duplicateCorrelation key), { w with nextId := w.nextId + 1 }) := by
  simp [register, h]

theorem register_of_not_isPending (h : ¬ w.isPending key = true) (timeout : Duration) :
    w.register key timeout
      = (.ok (w.newTicket key timeout), { w with
          nextId := w.nextId + 1
          entries := (w.newTicket key timeout).entry :: w.entries
          tickets := w.newTicket key timeout :: w.tickets }) := by
  simp [register, h]

/-- The entries of some requests are gone, and their tickets have got a reply. -/
def answer (w : Waitlist) (p : Entry → Bool) (reply : Reply) : Waitlist :=
  { w with
    entries := w.entries.filter (!p ·)
    tickets := answerAll (w.entries.filter p) reply w.tickets }

theorem deliver_of_isPending (h : w.isPending key = true) (v : Json.Value) :
    w.deliver key v = (true, w.answer (·.key = key) (.ok v)) := by
  obtain ⟨e, he, hk⟩ := isPending_iff.mp h
  have hne : ¬ (w.entries.filter (·.key = key)).isEmpty = true := by
    rw [List.isEmpty_iff, List.filter_eq_nil_iff]
    exact fun hall => hall e he (by simpa using hk)
  simp only [deliver, List.partition_eq_filter_filter, if_neg hne]
  rfl

theorem deliver_of_not_isPending (h : ¬ w.isPending key = true) (v : Json.Value) :
    w.deliver key v = (false, w) := by
  have hnil : (w.entries.filter (·.key = key)).isEmpty = true := by
    rw [List.isEmpty_iff, List.filter_eq_nil_iff]
    exact fun e he hk => h (isPending_iff.mpr ⟨e, he, by simpa using hk⟩)
  simp only [deliver, List.partition_eq_filter_filter, if_pos hnil]

theorem drain_eq_answer (w : Waitlist) (reason : String) :
    w.drain reason = w.answer (fun _ => true) (.error (.streamDisconnected reason)) := by
  simp [drain, answer]

theorem ticket?_eq_some {id : Nat} (h : w.ticket? id = some t) : t ∈ w.tickets ∧ t.id = id :=
  ⟨List.mem_of_find?_eq_some h, by simpa using List.find?_some h⟩

end Waitlist

end OrderDesk
