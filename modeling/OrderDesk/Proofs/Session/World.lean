import OrderDesk.Session.Basic
import OrderDesk.Proofs.Steps
import Mathlib.Logic.Function.Basic

/-!
# Proofs/Session/World — callers of one session, in any order

    arrive ──▸ check ──▸ request ──▸ queued ──▸ recheck ──▸ exchange ──▸ release ──▸ granted

A world is a session among its callers.  Each event is one small step of a caller, of the service or
of the clock, and comes only where it can; a run is any list of these.  A task that calls several
times is a new caller each time.
-/

namespace OrderDesk

variable {α : Type}

namespace Stage

/-- Whether a caller holds the lock, as far as it knows. -/
def locked : Stage α → Bool
  | .recheck _ => true
  | .recheckAt _ => true
  | .unserved _ => true
  | .exchange _ => true
  | .store _ _ => true
  | .release _ _ => true
  | _ => false

/-- Whether a caller has asked for the lock and has not given it up. -/
def inLine : Stage α → Bool
  | .queued _ => true
  | stage => stage.locked

/-- Whether a caller can only wait, or has come to its end. -/
def idle (s : Session) (id : Nat) : Stage α → Bool
  | .queued _ => s.holder ≠ some id
  | .exchange _ => true
  | .attempt _ _ => true
  | .granted _ => true
  | .ended _ => true
  | _ => false

/-- Whether a caller comes to a stage at its start, or when what it waits for has come. -/
def isEntry : Stage α → Bool
  | .check => true
  | .request _ => true
  | .store _ _ => true
  | .release _ (.error _) => true
  | .ended _ => true
  | _ => false

/-- How many exchanges a caller is about to start. -/
def starting : Stage α → Nat
  | .unserved _ => 1
  | _ => 0

theorem inLine_of_locked : ∀ {stage : Stage α}, stage.locked = true → stage.inLine = true
  | .recheck _, h => h
  | .recheckAt _, h => h
  | .unserved _, h => h
  | .exchange _, h => h
  | .store _ _, h => h
  | .release _ _, h => h

end Stage

namespace Session

/-- A caller of a session. -/
structure Caller (α : Type) where
  goal : Goal
  stage : Stage α

/-- **A session among its callers.** -/
structure World (α : Type) where
  session : Session
  /-- What the clock shows. -/
  now : Int64
  /-- Who has called and was not given up. -/
  callers : Nat → Option (Caller α)
  /-- How many exchanges were started. -/
  started : Nat

/-- What can happen around a session. -/
inductive Event (α : Type) where
  /-- Somebody calls. -/
  | arrive (id : Nat) (goal : Goal)
  /-- A caller goes on on its own. -/
  | advance (id : Nat)
  /-- The exchange of a caller ends. -/
  | exchangeEnds (id : Nat) (r : Except Error Token)
  /-- The operation of a caller ends. -/
  | attemptEnds (id : Nat) (r : Except Error α)
  /-- The cached token is dropped. -/
  | invalidate
  /-- A caller is given up, wherever it is. -/
  | leave (id : Nat)
  /-- The clock shows another time. -/
  | clock (now : Int64)

namespace World

/-- A session with a free lock, before anybody calls. -/
def opening (margin : Duration) (token : Option Token) (now : Int64) : World α where
  session := ⟨margin, token, none, []⟩
  now := now
  callers := fun _ => none
  started := 0

/-- A caller is at another stage. -/
def put (w : World α) (id : Nat) (c : Caller α) : World α :=
  { w with callers := Function.update w.callers id (some c) }

/-- A caller has gone on on its own. -/
def moved (w : World α) (id : Nat) (c : Caller α) : World α :=
  { w with
    session := (advance w.now id c.goal w.session c.stage).1
    callers := Function.update w.callers id
      (some ⟨c.goal, (advance w.now id c.goal w.session c.stage).2⟩)
    started := w.started + c.stage.starting }

/-- A caller is gone. -/
def without (w : World α) (id : Nat) : World α :=
  { w with session := w.session.leave id, callers := Function.update w.callers id none }

/-- **What an event does,** where it can come. -/
def step (w : World α) : Event α → Option (World α)
  | .arrive id goal => if w.callers id = none then some (w.put id ⟨goal, start goal⟩) else none
  | .advance id =>
    match w.callers id with
    | some c => if c.stage.idle w.session id then none else some (w.moved id c)
    | none => none
  | .exchangeEnds id r =>
    match w.callers id with
    | some ⟨goal, .exchange p⟩ => some (w.put id ⟨goal, exchangeEnded p r⟩)
    | _ => none
  | .attemptEnds id r =>
    match w.callers id with
    | some ⟨goal, .attempt p t⟩ => some (w.put id ⟨goal, attemptEnded p t r⟩)
    | _ => none
  | .invalidate => some { w with session := w.session.invalidate }
  | .leave id =>
    match w.callers id with
    | some _ => some (w.without id)
    | none => none
  | .clock now => some { w with now := now }

/-- **A run:** events one after the other. -/
abbrev run (w : World α) (es : List (Event α)) : Option (World α) := Steps.run step w es

variable {w w' : World α} {id : Nat} {goal : Goal} {stage : Stage α}

/-! ## When an event can come -/

theorem step_arrive : w.step (.arrive id goal) = some w'
    ↔ w.callers id = none ∧ w.put id ⟨goal, start goal⟩ = w' := by
  simp [step]

theorem step_advance : w.step (.advance id) = some w'
    ↔ ∃ c, w.callers id = some c ∧ c.stage.idle w.session id = false ∧ w.moved id c = w' := by
  rw [step]
  split
  · next c hc => simp [hc]
  · next hc => simp [hc]

theorem step_exchangeEnds {r : Except Error Token} : w.step (.exchangeEnds id r) = some w'
    ↔ ∃ goal p, w.callers id = some ⟨goal, .exchange p⟩
      ∧ w.put id ⟨goal, exchangeEnded p r⟩ = w' := by
  rw [step]
  split
  · next goal p hc => simp [hc]
  · next hne =>
    refine iff_of_false nofun ?_
    rintro ⟨goal, p, hc, -⟩
    exact hne goal p hc

theorem step_attemptEnds {r : Except Error α} : w.step (.attemptEnds id r) = some w'
    ↔ ∃ goal p t, w.callers id = some ⟨goal, .attempt p t⟩
      ∧ w.put id ⟨goal, attemptEnded p t r⟩ = w' := by
  rw [step]
  split
  · next goal p t hc => simp [hc]
  · next hne =>
    refine iff_of_false nofun ?_
    rintro ⟨goal, p, t, hc, -⟩
    exact hne goal p t hc

theorem step_leave : w.step (.leave id) = some w'
    ↔ (∃ c, w.callers id = some c) ∧ w.without id = w' := by
  rw [step]
  split
  · next c hc => simp [hc]
  · next hc => simp [hc]

/-! ## Where callers are -/

/-- Where a caller is. -/
def stageOf (w : World α) (id : Nat) : Option (Stage α) := (w.callers id).map Caller.stage

/-- Where a caller is after a change of one caller. -/
theorem map_update (callers : Nat → Option (Caller α)) (id : Nat) (o : Option (Caller α))
    (id' : Nat) : (Function.update callers id o id').map Caller.stage
      = if id' = id then o.map Caller.stage else (callers id').map Caller.stage := by
  rw [Function.update_apply]
  split <;> rfl

theorem stageOf_put (w : World α) (id : Nat) (c : Caller α) (id' : Nat) :
    (w.put id c).stageOf id' = if id' = id then some c.stage else w.stageOf id' := map_update ..

theorem stageOf_moved (w : World α) (id : Nat) (c : Caller α) (id' : Nat) :
    (w.moved id c).stageOf id'
      = if id' = id then some (advance w.now id c.goal w.session c.stage).2 else w.stageOf id' :=
  map_update ..

theorem stageOf_without (w : World α) (id id' : Nat) :
    (w.without id).stageOf id' = if id' = id then none else w.stageOf id' := map_update ..

theorem stageOf_eq_some : w.stageOf id = some stage
    ↔ ∃ goal, w.callers id = some ⟨goal, stage⟩ := by
  rw [stageOf, Option.map_eq_some_iff]
  constructor
  · rintro ⟨⟨goal, _⟩, hc, rfl⟩
    exact ⟨goal, hc⟩
  · rintro ⟨goal, hc⟩
    exact ⟨_, hc, rfl⟩

theorem stageOf_eq (hc : w.callers id = some ⟨goal, stage⟩) : w.stageOf id = some stage :=
  stageOf_eq_some.mpr ⟨goal, hc⟩

/-- Callers after one of them has changed. -/
theorem forall_update {callers : Nat → Option (Caller α)} {o : Option (Caller α)}
    {P : Nat → Caller α → Prop} (hid : ∀ c, o = some c → P id c)
    (hrest : ∀ id' c, id' ≠ id → callers id' = some c → P id' c) (id' : Nat) (c : Caller α)
    (h : Function.update callers id o id' = some c) : P id' c := by
  rw [Function.update_apply] at h
  split at h
  · next heq => exact heq ▸ hid c h
  · next hne => exact hrest id' c hne h

end World

end Session

end OrderDesk
