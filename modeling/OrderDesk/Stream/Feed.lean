import OrderDesk.Stream.Frame

/-!
# Stream/Feed — what a data stream delivers

Payloads are taken one after the other.  Data goes through the caller's reader onto the consumer's
queue, control messages go to their handler, a ping is answered with a pong first; what is malformed
or refused by the reader is passed over.  A connection ends when the service ends it or a pong does
not get through; with `reconnect`, the next connection goes on with the same queue.

The reader may have effects of its own: it gives its answers in a monad.
-/

namespace OrderDesk

variable {α : Type} {m : Type → Type} [Monad m]

/-- What becomes of a payload. -/
inductive Routed (α : Type) where
  | item (a : α)
  | control (m : ControlMessage)
  | skip

/-- Where data goes: onto the queue, if the reader does not refuse it. -/
def Routed.ofRead : Option α → Routed α
  | some a => .item a
  | none => .skip

/-- Where a payload goes. -/
def route (read : Json.Value → m (Option α)) (payload : List UInt8) : m (Routed α) :=
  match Frame.classify payload with
  | some (.control c) => pure (.control c)
  | some (.data v) => Routed.ofRead <$> read v
  | none => pure .skip

/-- A payload as it arrives. -/
structure Arrival where
  payload : List UInt8
  /-- Whether a pong would get through now. -/
  writable : Bool
  /-- Whether the consumer is still there. -/
  listening : Bool

/-- What a stream has done so far. -/
structure Feed (α : Type) where
  /-- What was put on the consumer's queue, in order. -/
  items : List α
  /-- The control messages that were handed to their handler, in order. -/
  handled : List ControlMessage
  /-- How many pongs were sent or tried. -/
  pongs : Nat

/-- How a stream goes on. -/
inductive Onward where
  /-- With the next payload. -/
  | reading
  /-- With the next connection, if there is one. -/
  | disconnected
  /-- Not at all. -/
  | finished
deriving DecidableEq

namespace Feed

/-- A stream that has done nothing. -/
def empty : Feed α := ⟨[], [], 0⟩

/-- A stream as diagnostics show it. -/
def debugText : String := "DataStream \x7b .. \x7d"

/-- A stream that has handed over a control message. -/
def handle (f : Feed α) (m : ControlMessage) : Feed α := { f with handled := f.handled ++ [m] }

/-- What a payload does where it goes, and how the stream goes on. -/
def absorb (f : Feed α) (a : Arrival) : Routed α → Feed α × Onward
  | .item x => if a.listening then ({ f with items := f.items ++ [x] }, .reading) else (f, .finished)
  | .control c =>
    if c.isPing then
      let f := { f with pongs := f.pongs + 1 }
      if a.writable then (f.handle c, .reading) else (f, .disconnected)
    else (f.handle c, .reading)
  | .skip => (f, .reading)

/-- **A payload is taken.** -/
def take (read : Json.Value → m (Option α)) (f : Feed α) (a : Arrival) : m (Feed α × Onward) :=
  f.absorb a <$> route read a.payload

/-- **A connection:** its payloads in order, until it ends. -/
def takeAll (read : Json.Value → m (Option α)) (f : Feed α) : List Arrival → m (Feed α × Onward)
  | [] => pure (f, .disconnected)
  | a :: as => do
    match ← f.take read a with
    | (f, .reading) => f.takeAll read as
    | ended => pure ended

/-- **A stream:** its connections in order; without `reconnect` there is only the first. -/
def run (read : Json.Value → m (Option α)) (reconnect : Bool) (f : Feed α) :
    List (List Arrival) → m (Feed α)
  | [] => pure f
  | connection :: rest => do
    match ← f.takeAll read connection with
    | (f, .disconnected) => if reconnect then f.run read reconnect rest else pure f
    | (f, _) => pure f

end Feed

end OrderDesk
