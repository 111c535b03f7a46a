import OrderDesk.Stream.Feed
import Mathlib.Data.List.Induction

/-!
# Proofs/Stream/Readings — a stream as what it reads

    payload ──▸ reader ──▸ reading ──▸ queue, handler, pongs

A reading is a payload with what the reader made of it.  A stream first reads, and what it has done is
then a matter of its readings alone (`run_eq`), whatever effects the reader has: nothing is read behind
a ping that could not be answered until the next connection, and nothing at all behind an item that
found nobody.
-/

namespace OrderDesk

variable {α : Type} {m : Type → Type} [Monad m]

namespace Arrival

/-- The document of a payload that holds data. -/
def data? (a : Arrival) : Option Json.Value :=
  match Frame.classify a.payload with
  | some (.data v) => some v
  | _ => none

/-- The message of a payload that holds one. -/
def control? (a : Arrival) : Option ControlMessage :=
  match Frame.classify a.payload with
  | some (.control c) => some c
  | _ => none

/-- Whether a payload asks for a pong. -/
def isPing (a : Arrival) : Bool := a.control?.any (·.isPing)

/-- Whether a payload costs the connection: it asks for a pong that does not get through. -/
def severs (a : Arrival) : Bool := a.isPing && !a.writable

end Arrival

namespace Feed

/-- **A payload that was read,** and what the reader made of it. -/
structure Reading (α : Type) where
  arrival : Arrival
  result : Option α

namespace Reading

/-- Whether an item has found nobody on the queue: the consumer has gone. -/
def isLost (x : Reading α) : Bool := x.result.isSome && !x.arrival.listening

/-- Whether it is the last one of its connection, if the service does not end that before. -/
def isLast (x : Reading α) : Bool := x.arrival.severs || x.isLost

/-- The item that is put on the queue. -/
def item? (x : Reading α) : Option α := if x.arrival.listening then x.result else none

/-- The message that is handed to its handler. -/
def handled? (x : Reading α) : Option ControlMessage :=
  if x.arrival.severs then none else x.arrival.control?

/-- What the reader answered, if it was asked. -/
def answer? (x : Reading α) : Option (Option α) := x.arrival.data?.map fun _ => x.result

/-- How the stream goes on behind it. -/
def onward (x : Reading α) : Onward :=
  if x.isLost then .finished else if x.arrival.severs then .disconnected else .reading

end Reading

/-- One payload is read: the reader is asked if it holds data. -/
def look (read : Json.Value → m (Option α)) (a : Arrival) : m (Reading α) :=
  match a.data? with
  | some v => Reading.mk a <$> read v
  | none => pure ⟨a, none⟩

/-- What is read of a connection. -/
def readings (read : Json.Value → m (Option α)) : List Arrival → m (List (Reading α))
  | [] => pure []
  | a :: as => do
    let x ← look read a
    if x.isLast then pure [x] else List.cons x <$> readings read as

/-- **What is read of a stream,** by connections. -/
def allReadings (read : Json.Value → m (Option α)) (reconnect : Bool) :
    List (List Arrival) → m (List (List (Reading α)))
  | [] => pure []
  | connection :: rest => do
    let xs ← readings read connection
    if reconnect && !xs.any Reading.isLost then List.cons xs <$> allReadings read reconnect rest
    else pure [xs]

/-- What a stream has done after some readings. -/
def after (f : Feed α) (xs : List (Reading α)) : Feed α where
  items := f.items ++ xs.filterMap Reading.item?
  handled := f.handled ++ xs.filterMap Reading.handled?
  pongs := f.pongs + xs.countP (·.arrival.isPing)

/-- How a connection ends. -/
def ending (xs : List (Reading α)) : Onward :=
  if xs.any Reading.isLost then .finished else .disconnected

/-! ## A stream reads, and does the rest by its readings -/

variable {f : Feed α} {read : Json.Value → m (Option α)} {a : Arrival} {x : Reading α}
  {xs : List (Reading α)}

@[simp] theorem after_nil (f : Feed α) : f.after [] = f := by
  simp [after]

theorem after_append (f : Feed α) (xs ys : List (Reading α)) :
    f.after (xs ++ ys) = (f.after xs).after ys := by
  simp [after, Nat.add_assoc]

theorem onward_of_isLast (h : x.isLast = true) : x.onward = ending [x] := by
  rw [Reading.isLast, Bool.or_eq_true] at h
  rw [Reading.onward, ending, List.any_cons, List.any_nil, Bool.or_false]
  split
  · rfl
  · next hlost => rw [if_pos (h.resolve_right hlost)]

theorem onward_of_not_isLast (h : ¬ x.isLast = true) : x.onward = .reading := by
  rw [Reading.isLast, Bool.or_eq_true, not_or] at h
  rw [Reading.onward, if_neg h.2, if_neg h.1]

/-- What the reader answers decides what becomes of data. -/
theorem absorb_ofRead {v : Json.Value} (hv : Frame.classify a.payload = some (.data v))
    (f : Feed α) (r : Option α) :
    f.absorb a (.ofRead r) = (f.after [⟨a, r⟩], (⟨a, r⟩ : Reading α).onward) := by
  have hcontrol : a.control? = none := by rw [Arrival.control?, hv]
  cases r with
  | none => simp [Routed.ofRead, absorb, after, Reading.onward, Reading.isLost, Reading.item?,
      Reading.handled?, Arrival.severs, Arrival.isPing, hcontrol]
  | some y =>
    cases hl : a.listening <;>
      simp [Routed.ofRead, absorb, after, Reading.onward, Reading.isLost, Reading.item?,
        Reading.handled?, Arrival.severs, Arrival.isPing, hcontrol, hl]

/-- A control message is answered and handled without the reader. -/
theorem absorb_control {c : ControlMessage} (hc : Frame.classify a.payload = some (.control c))
    (f : Feed α) : f.absorb a (.control c) = (f.after [⟨a, none⟩], (⟨a, none⟩ : Reading α).onward) := by
  have hcontrol : a.control? = some c := by rw [Arrival.control?, hc]
  cases hp : c.isPing <;> cases hw : a.writable <;>
    simp [absorb, after, handle, Reading.onward, Reading.isLost, Reading.item?, Reading.handled?,
      Arrival.severs, Arrival.isPing, hcontrol, hp, hw]

/-- What is malformed is passed over. -/
theorem absorb_skip (hnone : Frame.classify a.payload = none) (f : Feed α) :
    f.absorb a .skip = (f.after [⟨a, none⟩], (⟨a, none⟩ : Reading α).onward) := by
  have hcontrol : a.control? = none := by rw [Arrival.control?, hnone]
  simp [absorb, after, Reading.onward, Reading.isLost, Reading.item?, Reading.handled?,
    Arrival.severs, Arrival.isPing, hcontrol]

variable [LawfulMonad m]

theorem take_eq (f : Feed α) (read : Json.Value → m (Option α)) (a : Arrival) :
    f.take read a = (fun x => (f.after [x], x.onward)) <$> look read a := by
  rw [take, route, look, Arrival.data?]
  cases hframe : Frame.classify a.payload with
  | none => simp only [map_pure, absorb_skip hframe]
  | some frame =>
    cases frame with
    | control c => simp only [map_pure, absorb_control hframe]
    | data v => simp only [Functor.map_map, absorb_ofRead hframe]

theorem takeAll_eq (read : Json.Value → m (Option α)) : ∀ (as : List Arrival) (f : Feed α),
    f.takeAll read as = (fun xs => (f.after xs, ending xs)) <$> readings read as
  | [], f => by simp [takeAll, readings, ending]
  | a :: as, f => by
      rw [takeAll, take_eq, readings, bind_map_left, map_bind]
      refine congrArg (look read a >>= ·) (funext fun x => ?_)
      by_cases hlast : x.isLast = true
      · have hne : ending [x] ≠ .reading := by
          rw [ending]
          split <;> exact nofun
        rw [onward_of_isLast hlast, if_pos hlast, map_pure]
        split
        · next f' heq => exact absurd (Prod.mk.inj heq).2 hne
        · rfl
      · have hlost : x.isLost = false := by
          rw [Reading.isLast, Bool.or_eq_true, not_or] at hlast
          simpa using hlast.2
        rw [onward_of_not_isLast hlast, if_neg hlast]
        simp only [takeAll_eq read as, Functor.map_map, ← after_append, List.singleton_append,
          ending, List.any_cons, hlost, Bool.false_or]

/-- **A stream reads, and does the rest by its readings.** -/
theorem run_eq (read : Json.Value → m (Option α)) (reconnect : Bool) :
    ∀ (connections : List (List Arrival)) (f : Feed α),
      f.run read reconnect connections
        = (fun xss => f.after xss.flatten) <$> allReadings read reconnect connections
  | [], f => by simp [run, allReadings]
  | connection :: rest, f => by
      rw [run, takeAll_eq, allReadings, bind_map_left, map_bind]
      refine congrArg (readings read connection >>= ·) (funext fun xs => ?_)
      rw [ending]
      by_cases hlost : xs.any Reading.isLost = true
      · simp [hlost]
      · cases reconnect with
        | false => simp [hlost]
        | true => simp [hlost, run_eq read true rest, after_append]

end Feed

end OrderDesk
