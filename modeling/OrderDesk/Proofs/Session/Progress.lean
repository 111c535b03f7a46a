import OrderDesk.Proofs.Session.Lock

/-!
# Proofs/Session/Progress — every caller comes to its end

Each step of a caller takes it further along (`advance_rank`), so a caller makes twenty at most.  And
as long as a caller has not come to its end, somebody can go on: the lock is held by a caller that
can, or whose exchange is in flight (`World.AtRest.isEnd`).
-/

namespace OrderDesk

variable {α : Type}

/-- How many steps are left after the operation with a token. -/
def Purpose.rank : Purpose → Nat
  | .replace _ => 0
  | .refresh => 9

namespace Stage

/-- How many steps are left, at most. -/
def rank : Stage α → Nat
  | .check => 20
  | .checkAt _ => 19
  | .request p => p.rank + 9
  | .queued p => p.rank + 8
  | .recheck p => p.rank + 7
  | .recheckAt _ => 15
  | .unserved p => p.rank + 5
  | .exchange p => p.rank + 4
  | .store p _ => p.rank + 3
  | .release p _ => p.rank + 2
  | .attempt p _ => p.rank + 1
  | .granted _ => 0
  | .ended _ => 0

/-- Whether a caller has come to its end. -/
def isEnd : Stage α → Bool
  | .granted _ => true
  | .ended _ => true
  | _ => false

end Stage

namespace Session

variable {s : Session} {w w' : World α} {id : Nat} {now : Int64} {goal : Goal} {stage : Stage α}

/-! ## Each step takes a caller further -/

theorem rank_start_le (goal : Goal) : (start goal : Stage α).rank ≤ 20 := by
  rcases goal with (_ | _) | _ <;> simp [start, Stage.rank, Purpose.rank]

theorem rank_grant_le (goal : Goal) (p : Purpose) (r : Except Error Token) :
    (grant goal p r : Stage α).rank ≤ p.rank + 1 := by
  cases goal <;> cases r <;> simp [grant, Stage.rank]

theorem rank_decided_le (p : Purpose) (t : Option Token) :
    (decided p t : Stage α).rank ≤ p.rank + 5 := by
  cases t <;> simp [decided, Stage.rank]

/-- **A caller that goes on has fewer steps left.** -/
theorem advance_rank (hidle : stage.idle s id = false) :
    (advance now id goal s stage).2.rank < stage.rank := by
  cases stage with
  | check => simp [advance, Stage.rank]
  | checkAt time =>
    rw [advance]
    split
    · exact Nat.lt_of_le_of_lt (rank_grant_le goal _ _) (by simp [Stage.rank, Purpose.rank])
    · simp [Stage.rank, Purpose.rank]
  | request p =>
    rw [advance]
    split <;> simp [Stage.rank]
  | queued p =>
    have hh : s.holder = some id := by simpa [Stage.idle] using hidle
    rw [advance, if_pos hh]
    simp [Stage.rank]
  | recheck p =>
    cases p with
    | refresh => simp [advance, Stage.rank, Purpose.rank]
    | replace rejected =>
      exact Nat.lt_of_le_of_lt (rank_decided_le _ _) (by simp [Stage.rank])
  | recheckAt time =>
    exact Nat.lt_of_le_of_lt (rank_decided_le _ _) (by simp [Stage.rank, Purpose.rank])
  | unserved p => simp [advance, Stage.rank]
  | store p t => simp [advance, Stage.rank]
  | release p r =>
    exact Nat.lt_of_le_of_lt (rank_grant_le goal p r) (by simp [Stage.rank])
  | _ => contradiction

theorem exchangeEnded_rank (p : Purpose) (r : Except Error Token) :
    (exchangeEnded p r : Stage α).rank < (Stage.exchange p : Stage α).rank := by
  cases r <;> simp [exchangeEnded, Stage.rank]

theorem attemptEnded_rank (p : Purpose) (t : Token) (r : Except Error α) :
    (attemptEnded p t r).rank < (Stage.attempt p t : Stage α).rank := by
  rcases p with _ | rejected <;> rcases r with e | v
  · rw [attemptEnded]
    split <;> simp [Stage.rank, Purpose.rank]
  all_goals simp [attemptEnded, Stage.rank]

/-- Whose step an event is. -/
def Event.mover : Event α → Option Nat
  | .advance id => some id
  | .exchangeEnds id _ => some id
  | .attemptEnds id _ => some id
  | _ => none

/-- Who calls. -/
def Event.arrival : Event α → Option Nat
  | .arrive id _ => some id
  | _ => none

/-- How many steps a caller has left, none if there is no such caller. -/
def World.rankOf (w : World α) (id : Nat) : Nat := ((w.stageOf id).map Stage.rank).getD 0

theorem rankOf_eq {c : Caller α} (hc : w.callers id = some c) : w.rankOf id = c.stage.rank := by
  simp [World.rankOf, World.stageOf, hc]

/-- Where one caller has come further, it has a step less left, and the others have as many. -/
theorem rankOf_add_le {id' : Nat} (hlt : stage.rank < w.rankOf id')
    (hupdate : ∀ id, w'.stageOf id = if id = id' then some stage else w.stageOf id) (id : Nat) :
    w'.rankOf id + (if some id' = some id then 1 else 0) ≤ w.rankOf id := by
  rw [World.rankOf, hupdate]
  rcases eq_or_ne id id' with rfl | hne
  · simpa using Nat.succ_le_of_lt hlt
  · simp [hne, hne.symm, World.rankOf]

theorem rankOf_without_le (w : World α) (id id' : Nat) : (w.without id).rankOf id' ≤ w.rankOf id' := by
  rw [World.rankOf, World.stageOf_without]
  split
  · exact Nat.zero_le _
  · exact Nat.le_refl _

/-- **What an event costs a caller:** one of its steps, if it is its own. -/
theorem step_rankOf (id : Nat) : ∀ {e : Event α}, w.step e = some w' →
    w'.rankOf id + (if e.mover = some id then 1 else 0)
      ≤ w.rankOf id + (if e.arrival = some id then 20 else 0)
  | .arrive id' goal, he => by
      obtain ⟨-, rfl⟩ := World.step_arrive.mp he
      have hle := rank_start_le (α := α) goal
      simp only [World.rankOf, World.stageOf_put, Event.mover, Event.arrival, Option.some.injEq,
        eq_comm (a := id')]
      split
      · simp
        omega
      · simp
  | .advance id', he => by
      obtain ⟨c, hc, hidle, rfl⟩ := World.step_advance.mp he
      exact Nat.le_add_right_of_le
        (rankOf_add_le (rankOf_eq hc ▸ advance_rank hidle) (World.stageOf_moved w id' c) id)
  | .exchangeEnds id' r, he => by
      obtain ⟨goal, p, hc, rfl⟩ := World.step_exchangeEnds.mp he
      exact Nat.le_add_right_of_le
        (rankOf_add_le (rankOf_eq hc ▸ exchangeEnded_rank p r) (World.stageOf_put w id' _) id)
  | .attemptEnds id' r, he => by
      obtain ⟨goal, p, t, hc, rfl⟩ := World.step_attemptEnds.mp he
      exact Nat.le_add_right_of_le
        (rankOf_add_le (rankOf_eq hc ▸ attemptEnded_rank p t r) (World.stageOf_put w id' _) id)
  | .invalidate, he => by
      obtain rfl := Option.some.inj he
      exact Nat.le_refl _
  | .leave id', he => by
      obtain ⟨-, rfl⟩ := World.step_leave.mp he
      exact rankOf_without_le w id' id
  | .clock now, he => by
      obtain rfl := Option.some.inj he
      exact Nat.le_refl _

/-- **A caller makes twenty steps at most.** -/
theorem countP_mover_le {margin : Duration} {token : Option Token} {es : List (Event α)}
    (hrun : (World.opening margin token now).run es = some w) (id : Nat) :
    es.countP (·.mover = some id) ≤ 20 * es.countP (·.arrival = some id) := by
  have hle : w.rankOf id + es.countP (·.mover = some id) ≤ 20 * es.countP (·.arrival = some id) := by
    refine Steps.run_induction (P := fun es w => w.rankOf id + es.countP (·.mover = some id)
      ≤ 20 * es.countP (·.arrival = some id)) (Nat.le_refl _) (fun es w₁ e w₂ _ he h => ?_) hrun
    have hstep := step_rankOf id he
    simp only [List.countP_append, List.countP_singleton, decide_eq_true_eq]
    split at hstep <;> split at hstep <;> simp_all <;> omega
  omega

/-! ## Somebody can go on -/

/-- **At rest:** no caller can go on, and nothing is in flight. -/
def World.AtRest (w : World α) : Prop := ∀ e : Event α, e.mover.isSome = true → w.step e = none

namespace World.AtRest

variable {c : Caller α}

theorem idle (h : w.AtRest) (hc : w.callers id = some c) : c.stage.idle w.session id = true := by
  by_contra hidle
  have hstep := step_advance.mpr ⟨c, hc, Bool.not_eq_true _ ▸ hidle, rfl⟩
  cases hstep.symm.trans (h (.advance id) rfl)

theorem stage_ne_exchange (h : w.AtRest) (hc : w.callers id = some c) (p : Purpose) :
    c.stage ≠ .exchange p := by
  intro hs
  have hstep := step_exchangeEnds (r := .error (.authenticationFailure "")).mpr
    ⟨c.goal, p, by rw [hc, ← hs], rfl⟩
  cases hstep.symm.trans (h (.exchangeEnds id _) rfl)

theorem stage_ne_attempt (h : w.AtRest) (hc : w.callers id = some c) (p : Purpose) (t : Token) :
    c.stage ≠ .attempt p t := by
  intro hs
  have hstep := step_attemptEnds (r := .error (.authenticationFailure "")).mpr
    ⟨c.goal, p, t, by rw [hc, ← hs], rfl⟩
  cases hstep.symm.trans (h (.attemptEnds id _) rfl)

/-- Nobody holds the lock. -/
theorem not_locked (h : w.AtRest) (hc : w.callers id = some c) : c.stage.locked = false := by
  have hidle := h.idle hc
  have hex := h.stage_ne_exchange hc
  obtain ⟨goal, stage⟩ := c
  cases stage with
  | exchange p => exact absurd rfl (hex p)
  | _ => first | rfl | contradiction

/-- Nobody is in line: the first one would hold the lock. -/
theorem line_eq_nil (h : w.AtRest) (ho : w.Orderly) : w.session.line = [] := by
  cases hh : w.session.holder with
  | none => rw [line, hh, ho.queue_eq_nil hh, Option.toList_none, List.append_nil]
  | some id =>
    obtain ⟨c, hc, hin⟩ : ∃ c, w.callers id = some c ∧ c.stage.inLine = true := by
      simpa [Option.any_eq_true] using (ho.mem_line id).mp (mem_line_of_holder hh)
    have hidle := h.idle hc
    have hl := h.not_locked hc
    obtain ⟨goal, stage⟩ := c
    cases stage with
    | queued p => simp [Stage.idle, hh] at hidle
    | _ => cases hin.symm.trans hl

/-- **At rest every caller has come to its end.** -/
theorem isEnd (h : w.AtRest) (ho : w.Orderly) (hat : w.stageOf id = some stage) :
    stage.isEnd = true := by
  obtain ⟨goal, hc⟩ := stageOf_eq_some.mp hat
  have hout : ¬ stage.inLine = true := fun hin => by
    have hmem := (ho.mem_line id).mpr (by rw [hc]; exact hin)
    rw [h.line_eq_nil ho] at hmem
    exact List.not_mem_nil hmem
  have hidle := h.idle hc
  have hattempt := h.stage_ne_attempt hc
  cases stage with
  | granted r => rfl
  | ended r => rfl
  | attempt p t => exact absurd rfl (hattempt p t)
  | check => contradiction
  | checkAt time => contradiction
  | request p => contradiction
  | _ => exact absurd rfl hout

/-- …and nobody else is at rest. -/
theorem of_isEnd (h : ∀ id stage, w.stageOf id = some stage → stage.isEnd = true) : w.AtRest := by
  intro e he
  rw [Option.eq_none_iff_forall_ne_some]
  intro w' hstep
  cases e with
  | advance id =>
    obtain ⟨⟨goal, stage⟩, hc, hidle, -⟩ := step_advance.mp hstep
    have hend := h id stage (stageOf_eq hc)
    cases stage with
    | granted r => contradiction
    | ended r => contradiction
    | _ => contradiction
  | exchangeEnds id r =>
    obtain ⟨goal, p, hc, -⟩ := step_exchangeEnds.mp hstep
    cases h id _ (stageOf_eq hc)
  | attemptEnds id r =>
    obtain ⟨goal, p, t, hc, -⟩ := step_attemptEnds.mp hstep
    cases h id _ (stageOf_eq hc)
  | _ => contradiction

end World.AtRest

end Session

end OrderDesk
