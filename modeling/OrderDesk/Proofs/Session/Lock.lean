import OrderDesk.Proofs.Session.World
import Mathlib.Data.List.Nodup

/-!
# Proofs/Session/Lock — who holds the lock and who waits for it

    line = holder ++ queue

Callers that hold or await the lock stand in line, and `Orderly` says that nobody else does.  A step
leaves the line alone, adds a caller at its end or takes one out of it, so order is kept by every
event (`step_orderly`), also when a caller is given up in the middle of something.
-/

namespace OrderDesk.Session

variable {α : Type} {s s' : Session} {id : Nat} {o : Option (Caller α)}

/-- The holder of the lock and those who wait for it. -/
def line (s : Session) : List Nat := s.holder.toList ++ s.queue

/-- **The lock in order:** those who hold or await it are in line, each of them once and nobody
else; who believes to hold it does, and nobody waits for a free lock. -/
structure Orderly (s : Session) (callers : Nat → Option (Caller α)) : Prop where
  nodup_line : s.line.Nodup
  mem_line : ∀ id, id ∈ s.line ↔ (callers id).any (·.stage.inLine) = true
  holder_eq : ∀ id c, callers id = some c → c.stage.locked = true → s.holder = some id
  queue_eq_nil : s.holder = none → s.queue = []

theorem opening_orderly (margin : Duration) (token : Option Token) (now : Int64) :
    Orderly (α := α) (World.opening (α := α) margin token now).session
      (World.opening (α := α) margin token now).callers where
  nodup_line := List.nodup_nil
  mem_line id := by simp [World.opening, line]
  holder_eq id c hc := absurd hc nofun
  queue_eq_nil _ := rfl

theorem mem_line_of_holder (h : s.holder = some id) : id ∈ s.line := by
  simp [line, h]

/-! ## What the steps do to the line -/

theorem line_ask (hfree : s.holder = none → s.queue = []) (id : Nat) :
    (s.ask id).line = s.line ++ [id] := by
  rw [ask]
  split
  · next h => simp [line, h, hfree h]
  · simp [line]

theorem line_unlock (s : Session) : s.unlock.line = s.queue := by
  rw [line, unlock]
  cases s.queue <;> rfl

theorem line_eq_cons (h : s.holder = some id) : s.line = id :: s.queue := by
  rw [line, h]
  rfl

/-- Whoever is given up leaves the line. -/
theorem line_leave (hnodup : s.line.Nodup) (id : Nat) :
    (s.leave id).line = s.line.filter (· ≠ id) := by
  rw [leave]
  split
  · next h =>
    rw [line_eq_cons h, List.nodup_cons] at hnodup
    have hne : ∀ id' ∈ s.queue, id' ≠ id := fun id' hid' he => hnodup.1 (he ▸ hid')
    rw [line_unlock, line_eq_cons h, List.filter_cons_of_neg (by simp),
      List.filter_eq_self.mpr (by simpa using hne)]
  · next h =>
    cases hh : s.holder with
    | none => simp [line, hh]
    | some id' =>
      have hne : id' ≠ id := fun he => h (by rw [hh, he])
      simp [line, hh, hne]

namespace Orderly

variable {callers : Nat → Option (Caller α)}

/-- Two callers that hold the lock are the same. -/
theorem eq_of_locked {w : World α} (h : Orderly w.session w.callers) {id' : Nat}
    {stage stage' : Stage α} (hat : w.stageOf id = some stage) (hat' : w.stageOf id' = some stage')
    (hl : stage.locked = true) (hl' : stage'.locked = true) : id = id' := by
  obtain ⟨goal, hc⟩ := World.stageOf_eq_some.mp hat
  obtain ⟨goal', hc'⟩ := World.stageOf_eq_some.mp hat'
  exact Option.some.inj ((h.holder_eq id _ hc hl).symm.trans (h.holder_eq id' _ hc' hl'))

/-- The line after a change of one caller, if all that matters changes alike. -/
private theorem mem_line_update (h : Orderly s callers) {l : List Nat}
    (hid : id ∈ l ↔ o.any (·.stage.inLine) = true)
    (hrest : ∀ id', id' ≠ id → (id' ∈ l ↔ id' ∈ s.line)) (id' : Nat) :
    id' ∈ l ↔ (Function.update callers id o id').any (·.stage.inLine) = true := by
  rcases eq_or_ne id' id with rfl | hne
  · rwa [Function.update_self]
  · rw [Function.update_of_ne hne, hrest id' hne, h.mem_line]

/-- Only the holder believes to hold the lock, after a change of one caller. -/
private theorem holder_update (h : Orderly s callers) {holder : Option Nat}
    (hid : ∀ c, o = some c → c.stage.locked = true → holder = some id)
    (hrest : ∀ id', id' ≠ id → s.holder = some id' → holder = some id') (id' : Nat) (c : Caller α)
    (hc : Function.update callers id o id' = some c) (hl : c.stage.locked = true) :
    holder = some id' := by
  rcases eq_or_ne id' id with rfl | hne
  · rw [Function.update_self] at hc
    exact hid c hc hl
  · rw [Function.update_of_ne hne] at hc
    exact hrest id' hne (h.holder_eq id' c hc hl)

/-- A caller that neither comes into the line nor leaves it keeps it in order. -/
theorem stay (h : Orderly s callers) (hholder : s'.holder = s.holder) (hqueue : s'.queue = s.queue)
    (hline : o.any (·.stage.inLine) = (callers id).any (·.stage.inLine))
    (hlocked : ∀ c, o = some c → c.stage.locked = true → s.holder = some id) :
    Orderly s' (Function.update callers id o) := by
  have heq : s'.line = s.line := by rw [line, line, hholder, hqueue]
  constructor
  · exact heq ▸ h.nodup_line
  · rw [heq]
    exact h.mem_line_update (by rw [hline, h.mem_line]) fun _ _ => Iff.rfl
  · rw [hholder]
    exact h.holder_update hlocked fun _ _ hh => hh
  · rw [hholder, hqueue]
    exact h.queue_eq_nil

/-- So does one that asks for the lock, and takes it if it is free. -/
theorem ask (h : Orderly s callers) (hout : (callers id).any (·.stage.inLine) = false)
    (hin : o.any (·.stage.inLine) = true)
    (hlocked : ∀ c, o = some c → c.stage.locked = true → s.holder = none) :
    Orderly (s.ask id) (Function.update callers id o) := by
  have hnot : id ∉ s.line := fun hmem => by simp [(h.mem_line id).mp hmem] at hout
  have hline : (s.ask id).line = s.line ++ [id] := line_ask h.queue_eq_nil id
  constructor
  · rw [hline]
    exact h.nodup_line.append (List.nodup_singleton id) (List.disjoint_singleton.mpr hnot)
  · rw [hline]
    exact h.mem_line_update (by simp [hin]) fun id' hne => by simp [hne]
  · refine h.holder_update (fun c hc hl => ?_) fun id' _ hh => ?_
    · simp [Session.ask, hlocked c hc hl]
    · simp [Session.ask, hh]
  · intro hnone
    rw [Session.ask] at hnone
    split at hnone
    · contradiction
    · next hh => cases hh.symm.trans hnone

/-- So does the holder that gives the lock up. -/
theorem unlock (h : Orderly s callers) (hholder : s.holder = some id)
    (hout : o.any (·.stage.inLine) = false) :
    Orderly s.unlock (Function.update callers id o) := by
  have hline := line_eq_cons hholder
  have hnodup := h.nodup_line
  rw [hline, List.nodup_cons] at hnodup
  constructor
  · exact line_unlock s ▸ hnodup.2
  · rw [line_unlock]
    exact h.mem_line_update (by simp [hout, hnodup.1]) fun id' hne => by simp [hline, hne]
  · refine h.holder_update (fun c hc hl => ?_) fun id' hne hh => ?_
    · rw [hc, Option.any_some, Stage.inLine_of_locked hl] at hout
      contradiction
    · exact absurd (Option.some.inj (hh.symm.trans hholder)) hne
  · intro hnone
    rw [Session.unlock] at hnone ⊢
    rw [List.head?_eq_none_iff.mp hnone]
    rfl

/-- So does whoever is given up. -/
theorem leave (h : Orderly s callers) (id : Nat) :
    Orderly (s.leave id) (Function.update callers id none) := by
  by_cases hholder : s.holder = some id
  · rw [Session.leave, if_pos hholder]
    exact h.unlock hholder rfl
  · have hline := line_leave h.nodup_line id
    constructor
    · exact hline ▸ h.nodup_line.filter _
    · rw [hline]
      exact h.mem_line_update (by simp) fun id' hne => by simp [hne]
    · rw [Session.leave, if_neg hholder]
      exact h.holder_update (fun _ hc => absurd hc nofun) fun _ _ hh => hh
    · rw [Session.leave, if_neg hholder]
      exact fun hnone => by simp [h.queue_eq_nil hnone]

end Orderly

/-! ## What the steps do to the stages -/

@[simp] theorem inLine_grant (goal : Goal) (p : Purpose) (r : Except Error Token) :
    (grant goal p r : Stage α).inLine = false := by
  cases goal <;> cases r <;> rfl

@[simp] theorem inLine_start (goal : Goal) : (start goal : Stage α).inLine = false := by
  rcases goal with ((_ | _) | _) <;> rfl

@[simp] theorem locked_decided (p : Purpose) (t : Option Token) :
    (decided p t : Stage α).locked = true := by
  cases t <;> rfl

@[simp] theorem inLine_decided (p : Purpose) (t : Option Token) :
    (decided p t : Stage α).inLine = true := Stage.inLine_of_locked (locked_decided p t)

@[simp] theorem locked_exchangeEnded (p : Purpose) (r : Except Error Token) :
    (exchangeEnded p r : Stage α).locked = true := by
  cases r <;> rfl

@[simp] theorem inLine_exchangeEnded (p : Purpose) (r : Except Error Token) :
    (exchangeEnded p r : Stage α).inLine = true := Stage.inLine_of_locked (locked_exchangeEnded p r)

@[simp] theorem inLine_attemptEnded (p : Purpose) (t : Token) (r : Except Error α) :
    (attemptEnded p t r).inLine = false := by
  rcases p with _ | rejected <;> rcases r with e | v
  · rw [attemptEnded]
    split <;> rfl
  all_goals rfl

@[simp] theorem isEntry_start (goal : Goal) : (start goal : Stage α).isEntry = true := by
  rcases goal with ((_ | _) | _) <;> rfl

@[simp] theorem isEntry_exchangeEnded (p : Purpose) (r : Except Error Token) :
    (exchangeEnded p r : Stage α).isEntry = true := by
  cases r <;> rfl

@[simp] theorem isEntry_attemptEnded (p : Purpose) (t : Token) (r : Except Error α) :
    (attemptEnded p t r).isEntry = true := by
  rcases p with _ | rejected <;> rcases r with e | v
  · rw [attemptEnded]
    split <;> rfl
  all_goals rfl

/-- **A step of a caller on its own leaves the line alone, asks for the lock, or gives it up.** -/
theorem advance_line (now : Int64) (id : Nat) (goal : Goal) (s : Session) (stage : Stage α)
    (hidle : stage.idle s id = false) :
    ((advance now id goal s stage).1.holder = s.holder
        ∧ (advance now id goal s stage).1.queue = s.queue
        ∧ (advance now id goal s stage).2.inLine = stage.inLine
        ∧ ((advance now id goal s stage).2.locked = true → stage.locked = true ∨ s.holder = some id))
      ∨ ((advance now id goal s stage).1 = s.ask id ∧ stage.inLine = false
        ∧ (advance now id goal s stage).2.inLine = true
        ∧ ((advance now id goal s stage).2.locked = true → s.holder = none))
      ∨ ((advance now id goal s stage).1 = s.unlock ∧ stage.locked = true
        ∧ (advance now id goal s stage).2.inLine = false) := by
  cases stage with
  | check => exact .inl ⟨rfl, rfl, rfl, nofun⟩
  | checkAt time =>
    refine .inl ?_
    rw [advance]
    split
    · refine ⟨rfl, rfl, inLine_grant .., fun hl => ?_⟩
      exact absurd (Stage.inLine_of_locked hl) (by simp)
    · exact ⟨rfl, rfl, rfl, nofun⟩
  | request p =>
    refine .inr (.inl ⟨rfl, rfl, ?_, fun hl => ?_⟩)
    · rw [advance]
      split <;> rfl
    · rw [advance] at hl
      cases hh : s.holder with
      | none => rfl
      | some id' => simp [hh, Stage.locked] at hl
  | queued p =>
    have hh : s.holder = some id := by simpa [Stage.idle] using hidle
    refine .inl ⟨rfl, rfl, ?_, fun _ => .inr hh⟩
    rw [advance, if_pos hh]
    rfl
  | recheck p =>
    refine .inl ?_
    cases p with
    | refresh => exact ⟨rfl, rfl, rfl, fun _ => .inl rfl⟩
    | replace rejected => exact ⟨rfl, rfl, inLine_decided .., fun _ => .inl rfl⟩
  | recheckAt time => exact .inl ⟨rfl, rfl, inLine_decided .., fun _ => .inl rfl⟩
  | unserved p => exact .inl ⟨rfl, rfl, rfl, fun _ => .inl rfl⟩
  | store p t => exact .inl ⟨rfl, rfl, rfl, fun _ => .inl rfl⟩
  | release p r => exact .inr (.inr ⟨rfl, rfl, inLine_grant ..⟩)
  | exchange p => contradiction
  | attempt p t => contradiction
  | granted r => contradiction
  | ended r => contradiction

/-! ## Every event keeps order -/

/-- A world whose lock is in order. -/
abbrev World.Orderly (w : World α) : Prop := Session.Orderly w.session w.callers

variable {w w' : World α} {c : Caller α}

theorem moved_orderly (h : w.Orderly) (hc : w.callers id = some c)
    (hidle : c.stage.idle w.session id = false) : (w.moved id c).Orderly := by
  rcases advance_line w.now id c.goal w.session c.stage hidle with
    ⟨hholder, hqueue, hline, hlocked⟩ | ⟨hs, hout, hin, hlocked⟩ | ⟨hs, hl, hout⟩
  · refine h.stay hholder hqueue (by simpa [hc] using hline) fun c' hc' hl => ?_
    obtain rfl := Option.some.inj hc'
    exact (hlocked hl).elim (h.holder_eq id c hc) fun hh => hh
  · rw [World.Orderly, World.moved, hs]
    refine h.ask (by simpa [hc] using hout) (by simpa using hin) fun c' hc' hl => ?_
    obtain rfl := Option.some.inj hc'
    exact hlocked hl
  · rw [World.Orderly, World.moved, hs]
    exact h.unlock (h.holder_eq id c hc hl) (by simpa using hout)

/-- **Each event keeps the lock in order.** -/
theorem step_orderly (h : w.Orderly) : ∀ e : Event α, w.step e = some w' → w'.Orderly
  | .arrive id goal, he => by
      obtain ⟨hnone, rfl⟩ := World.step_arrive.mp he
      refine h.stay rfl rfl (by simp [hnone]) fun c hc hl => ?_
      obtain rfl := Option.some.inj hc
      exact absurd (Stage.inLine_of_locked hl) (by simp)
  | .advance id, he => by
      obtain ⟨c, hc, hidle, rfl⟩ := World.step_advance.mp he
      exact moved_orderly h hc hidle
  | .exchangeEnds id r, he => by
      obtain ⟨goal, p, hc, rfl⟩ := World.step_exchangeEnds.mp he
      refine h.stay rfl rfl ?_ fun _ _ _ => h.holder_eq id _ hc rfl
      rw [hc]
      exact inLine_exchangeEnded p r
  | .attemptEnds id r, he => by
      obtain ⟨goal, p, t, hc, rfl⟩ := World.step_attemptEnds.mp he
      refine h.stay rfl rfl ?_ fun c hc hl => ?_
      · rw [hc]
        exact inLine_attemptEnded p t r
      · obtain rfl := Option.some.inj hc
        exact absurd (Stage.inLine_of_locked hl) (by simp)
  | .invalidate, he => by
      obtain rfl := Option.some.inj he
      exact ⟨h.nodup_line, h.mem_line, h.holder_eq, h.queue_eq_nil⟩
  | .leave id, he => by
      obtain ⟨-, rfl⟩ := World.step_leave.mp he
      exact h.leave id
  | .clock now, he => by
      obtain rfl := Option.some.inj he
      exact h

/-- **So does every run.** -/
theorem run_orderly (h : w.Orderly) {es : List (Event α)} (hrun : w.run es = some w') :
    w'.Orderly :=
  Steps.run_induction (P := fun _ w => w.Orderly) h (fun _ _ e _ _ he h => step_orderly h e he) hrun

end OrderDesk.Session
