import OrderDesk.Proofs.Session.Lock

/-!
# Proofs/Session/Exchange — why an exchange starts

A caller that is about to start an exchange has looked at the cached token with the lock in its
hands.  Only a caller with the lock caches a token, so at the start the token is still the one that
it found of no use, or has been dropped since.  `Visits` speaks of the worlds that a run has come
through; `Unfit` says what such a caller has seen in two of them.

An event is a step of a caller on its own or comes from outside (`step_cases`).  `CameFrom` says
where such a step leads from, and `External` all that any other event does.
-/

namespace OrderDesk.Session

variable {α : Type} {s : Session} {id : Nat} {now n : Int64} {goal : Goal} {stage : Stage α}

/-! ## Steps of a caller -/

/-- **Where a caller has come from on its own:** it reads the clock a second time when it has got the
lock, it goes on to an exchange only if the cached token does not serve it, an exchange in flight has
been so before or starts now, and no token is at hand without one. -/
def CameFrom (now : Int64) (s : Session) (stage : Stage α) : Stage α → Prop
  | .recheckAt n => stage = .recheck .refresh ∧ n = now
  | .unserved .refresh => ∃ time, stage = .recheckAt time ∧ s.fresh? time = none
  | .unserved (.replace rejected) =>
    stage = .recheck (.replace rejected) ∧ s.other? rejected = none
  | .exchange p => stage = .exchange p ∨ stage = .unserved p
  | .store _ _ => False
  | _ => True

theorem cameFrom_grant (goal : Goal) (p : Purpose) (r : Except Error Token) :
    CameFrom now s stage (grant goal p r) := by
  cases goal <;> cases r <;> exact trivial

theorem advance_cameFrom (now : Int64) (id : Nat) (goal : Goal) (s : Session) (stage : Stage α) :
    CameFrom now s stage (advance now id goal s stage).2 := by
  cases stage with
  | checkAt time =>
    rw [advance]
    split
    · exact cameFrom_grant ..
    · exact trivial
  | request p =>
    rw [advance]
    split <;> exact trivial
  | queued p =>
    rw [advance]
    split <;> exact trivial
  | recheck p =>
    cases p with
    | refresh => exact ⟨rfl, rfl⟩
    | replace rejected =>
      rw [advance]
      cases hother : s.other? rejected with
      | some t => exact trivial
      | none => exact ⟨rfl, hother⟩
  | recheckAt time =>
    rw [advance]
    cases hfresh : s.fresh? time with
    | some t => exact trivial
    | none => exact ⟨time, rfl, hfresh⟩
  | unserved p => exact .inr rfl
  | exchange p => exact .inl rfl
  | release p r => exact cameFrom_grant ..
  | _ => exact trivial

/-- A caller reads the clock a second time when it has got the lock. -/
theorem advance_eq_recheckAt (h : (advance now id goal s stage).2 = .recheckAt n) :
    stage = .recheck .refresh ∧ n = now := by
  have hfrom := advance_cameFrom now id goal s stage
  rwa [h] at hfrom

/-- **A caller goes on to an exchange only if the cached token does not serve it.** -/
theorem advance_eq_unserved {p : Purpose} (h : (advance now id goal s stage).2 = .unserved p) :
    (∃ time, stage = .recheckAt time ∧ p = .refresh ∧ s.fresh? time = none)
      ∨ ∃ rejected, stage = .recheck (.replace rejected) ∧ p = .replace rejected
        ∧ s.other? rejected = none := by
  have hfrom := advance_cameFrom now id goal s stage
  rw [h] at hfrom
  cases p with
  | refresh =>
    obtain ⟨time, hlast, hnone⟩ := hfrom
    exact .inl ⟨time, hlast, rfl, hnone⟩
  | replace rejected =>
    obtain ⟨hlast, hnone⟩ := hfrom
    exact .inr ⟨rejected, hlast, rfl, hnone⟩

/-- An exchange that is in flight has been so before, or starts now. -/
theorem advance_eq_exchange {p : Purpose} (h : (advance now id goal s stage).2 = .exchange p) :
    stage = .exchange p ∨ stage = .unserved p := by
  have hfrom := advance_cameFrom now id goal s stage
  rwa [h] at hfrom

/-- Only a caller that is about to cache a token does. -/
theorem advance_token (hstore : ∀ p t, stage ≠ .store p t) :
    (advance now id goal s stage).1.token = s.token := by
  cases stage with
  | store p t => exact absurd rfl (hstore p t)
  | checkAt time =>
    rw [advance]
    split <;> rfl
  | request p =>
    rw [advance, ask]
    split <;> rfl
  | recheck p => cases p <;> rfl
  | _ => rfl

theorem advance_margin (now : Int64) (id : Nat) (goal : Goal) (s : Session) (stage : Stage α) :
    (advance now id goal s stage).1.margin = s.margin := by
  cases stage with
  | checkAt time =>
    rw [advance]
    split <;> rfl
  | request p =>
    rw [advance, ask]
    split <;> rfl
  | recheck p => cases p <;> rfl
  | _ => rfl

/-! ## Events that are no step of a caller -/

theorem token_leave (s : Session) (id : Nat) : (s.leave id).token = s.token := by
  rw [leave]
  split <;> rfl

theorem margin_leave (s : Session) (id : Nat) : (s.leave id).margin = s.margin := by
  rw [leave]
  split <;> rfl

open World Steps

variable {w₀ w w' : World α} {es : List (Event α)} {e : Event α} {t : Token} {p : Purpose}

/-- **What an event does that is no step of a caller on its own:** it starts no exchange, drops the
cached token at most, and takes a caller to an entry only, with the lock only where its exchange
ends. -/
structure External (e : Event α) (w w' : World α) : Prop where
  ne_advance : ∀ id, e ≠ .advance id
  started_eq : w'.started = w.started
  margin_eq : w'.session.margin = w.session.margin
  now_eq : w'.now = w.now ∨ e = .clock w'.now
  token_eq : w'.session.token = w.session.token ∨ e = .invalidate ∧ w'.session.token = none
  stageOf_eq : ∀ id stage, w'.stageOf id = some stage → w.stageOf id = some stage
    ∨ stage.isEntry = true ∧ (stage.inLine = true → ∃ r, e = .exchangeEnds id r)

theorem external_put {c : Caller α} (hne : ∀ id', e ≠ .advance id')
    (hentry : c.stage.isEntry = true) (hline : c.stage.inLine = true → ∃ r, e = .exchangeEnds id r) :
    External e w (w.put id c) where
  ne_advance := hne
  started_eq := rfl
  margin_eq := rfl
  now_eq := .inl rfl
  token_eq := .inl rfl
  stageOf_eq id' stage hat := by
    rw [stageOf_put] at hat
    split at hat
    · next heq =>
      obtain rfl := Option.some.inj hat
      exact .inr ⟨hentry, heq ▸ hline⟩
    · exact .inl hat

theorem external_without (w : World α) (id : Nat) : External (.leave id) w (w.without id) where
  ne_advance := nofun
  started_eq := rfl
  margin_eq := margin_leave ..
  now_eq := .inl rfl
  token_eq := .inl (token_leave ..)
  stageOf_eq id' stage hat := by
    rw [stageOf_without] at hat
    split at hat
    · contradiction
    · exact .inl hat

/-- **An event is a step of a caller on its own, or external.** -/
theorem step_cases (he : w.step e = some w') :
    (∃ id c, e = .advance id ∧ w.callers id = some c ∧ c.stage.idle w.session id = false
      ∧ w.moved id c = w') ∨ External e w w' := by
  cases e with
  | advance id =>
    obtain ⟨c, hc, hidle, hmoved⟩ := step_advance.mp he
    exact .inl ⟨id, c, rfl, hc, hidle, hmoved⟩
  | arrive id goal =>
    obtain ⟨-, rfl⟩ := step_arrive.mp he
    exact .inr (external_put nofun (isEntry_start goal) (by simp))
  | exchangeEnds id r =>
    obtain ⟨goal, p, -, rfl⟩ := step_exchangeEnds.mp he
    exact .inr (external_put nofun (isEntry_exchangeEnded p r) fun _ => ⟨r, rfl⟩)
  | attemptEnds id r =>
    obtain ⟨goal, p, t, -, rfl⟩ := step_attemptEnds.mp he
    exact .inr (external_put nofun (isEntry_attemptEnded p t r) (by simp))
  | leave id =>
    obtain ⟨-, rfl⟩ := step_leave.mp he
    exact .inr (external_without w id)
  | invalidate =>
    obtain rfl := Option.some.inj he
    exact .inr ⟨nofun, rfl, rfl, .inl rfl, .inr ⟨rfl, rfl⟩, fun _ _ => .inl⟩
  | clock now =>
    obtain rfl := Option.some.inj he
    exact .inr ⟨nofun, rfl, rfl, .inr rfl, .inl rfl, fun _ _ => .inl⟩

/-- Nothing changes the margin, and only the clock changes the time. -/
theorem step_steady (he : w.step e = some w') :
    w'.session.margin = w.session.margin ∧ (w'.now = w.now ∨ e = .clock w'.now) := by
  rcases step_cases he with ⟨id, c, -, -, -, rfl⟩ | hout
  · exact ⟨advance_margin .., .inl rfl⟩
  · exact ⟨hout.margin_eq, hout.now_eq⟩

/-! ## What a caller has seen -/

/-- A run comes through a world in which a caller with the lock reads a time. -/
def Reads (w₀ : World α) (es : List (Event α)) (id : Nat) (time : Int64) : Prop :=
  Visits step w₀ es fun w =>
    w.session.holder = some id ∧ w.stageOf id = some (.recheck .refresh) ∧ w.now = time

/-- **A caller with the lock has found a token of no use:** it was the cached one and not fresh, at
a time that the caller had read with the lock in its hands, or it was the rejected one. -/
def Unfit (w₀ : World α) (es : List (Event α)) (id : Nat) (t : Token) : Purpose → Prop
  | .refresh => ∃ time, Reads w₀ es id time ∧ Visits step w₀ es fun w =>
      w.session.holder = some id ∧ w.stageOf id = some (.recheckAt time)
        ∧ w.session.token = some t ∧ t.isFreshAt time w.session.margin = false
  | .replace rejected => t = rejected ∧ Visits step w₀ es fun w =>
      w.session.holder = some id ∧ w.stageOf id = some (.recheck (.replace rejected))
        ∧ w.session.token = some t

theorem Unfit.concat : ∀ {p : Purpose}, Unfit w₀ es id t p → ∀ e, Unfit w₀ (es ++ [e]) id t p
  | .refresh, ⟨time, hreads, hlooks⟩, e => ⟨time, hreads.concat e, hlooks.concat e⟩
  | .replace _, ⟨heq, hlooks⟩, e => ⟨heq, hlooks.concat e⟩

/-- **What callers know of the cached token:** who is about to look has read the clock with the lock
in its hands, and who is about to start an exchange has found the cached token of no use. -/
structure Grounded (w₀ : World α) (es : List (Event α)) (w : World α) : Prop where
  reads : ∀ id time, w.stageOf id = some (.recheckAt time) → Reads w₀ es id time
  unfit : ∀ id p t, w.stageOf id = some (.unserved p) → w.session.token = some t →
    Unfit w₀ es id t p

theorem opening_grounded (margin : Duration) (token : Option Token) (now : Int64) :
    Grounded (opening (α := α) margin token now) [] (opening margin token now) :=
  ⟨fun _ _ hat => absurd hat nofun, fun _ _ _ hat => absurd hat nofun⟩

/-- To a stage that is no entry a caller comes on its own only. -/
theorem stageOf_of_step (hadvance : e ≠ .advance id) (hstage : stage.isEntry = false)
    (he : w.step e = some w') (h : w'.stageOf id = some stage) : w.stageOf id = some stage := by
  rcases step_cases he with ⟨id', c, rfl, -, -, rfl⟩ | hout
  · have hne : id ≠ id' := fun heq => hadvance (congrArg Event.advance heq.symm)
    rwa [stageOf_moved, if_neg hne] at h
  · refine (hout.stageOf_eq id stage h).resolve_right fun ⟨hentry, _⟩ => ?_
    cases hstage.symm.trans hentry

/-- A token comes into the cache by a caller that is about to cache it only. -/
theorem token_of_step (hstore : ∀ id p t, e = .advance id → w.stageOf id ≠ some (.store p t))
    (he : w.step e = some w') (h : w'.session.token = some t) : w.session.token = some t := by
  rcases step_cases he with ⟨id, c, rfl, hc, -, rfl⟩ | hout
  · rwa [moved, advance_token fun p t hs =>
      hstore id p t rfl (hs ▸ stageOf_eq hc)] at h
  · rcases hout.token_eq with heq | ⟨-, hnone⟩
    · exact heq ▸ h
    · cases hnone.symm.trans h

/-- A token that is cached and not fresh. -/
theorem fresh?_eq_none (ht : s.token = some t) (h : s.fresh? now = none) :
    t.isFreshAt now s.margin = false := by
  rw [fresh?, ht, Option.filter_eq_none_iff] at h
  simpa using h t rfl

/-- A token that is cached and no other than the rejected one. -/
theorem other?_eq_none {rejected : Token} (ht : s.token = some t) (h : s.other? rejected = none) :
    t = rejected := by
  rw [other?, ht, Option.filter_eq_none_iff] at h
  simpa using h t rfl

/-- A step of a caller keeps what callers know. -/
theorem moved_grounded {c : Caller α} (hrun : w₀.run es = some w) (ho : w.Orderly)
    (h : Grounded w₀ es w) (hc : w.callers id = some c) :
    Grounded w₀ (es ++ [.advance id]) (w.moved id c) where
  reads id' time hstage := by
    rw [stageOf_moved] at hstage
    split at hstage
    · next heq =>
      subst heq
      obtain ⟨hlast, rfl⟩ := advance_eq_recheckAt (Option.some.inj hstage)
      have hholder := ho.holder_eq id' c hc (by rw [hlast]; rfl)
      refine (visits_end hrun ⟨hholder, ?_, rfl⟩).concat _
      exact stageOf_eq_some.mpr ⟨c.goal, by rw [hc, ← hlast]⟩
    · exact (h.reads id' time hstage).concat _
  unfit id' p t hstage ht := by
    rw [stageOf_moved] at hstage
    split at hstage
    · next heq =>
      subst heq
      have hat : w.stageOf id' = some c.stage := stageOf_eq hc
      rcases advance_eq_unserved (Option.some.inj hstage) with
        ⟨time, hlast, rfl, hnone⟩ | ⟨rejected, hlast, rfl, hnone⟩
      · have hholder := ho.holder_eq id' c hc (by rw [hlast]; rfl)
        have htoken : w.session.token = some t := by
          rwa [moved, advance_token fun p t hs => by rw [hlast] at hs; contradiction] at ht
        rw [hlast] at hat
        exact ⟨time, (h.reads id' time hat).concat _, (visits_end hrun
          ⟨hholder, hat, htoken, fresh?_eq_none htoken hnone⟩).concat _⟩
      · have hholder := ho.holder_eq id' c hc (by rw [hlast]; rfl)
        have htoken : w.session.token = some t := by
          rwa [moved, advance_token fun p t hs => by rw [hlast] at hs; contradiction] at ht
        rw [hlast] at hat
        exact ⟨other?_eq_none htoken hnone,
          (visits_end hrun ⟨hholder, hat, htoken⟩).concat _⟩
    · next hne =>
      -- Had this step cached a token, two callers would hold the lock.
      have hstore : ∀ p t, c.stage ≠ .store p t := by
        intro p' t' hs
        have hat : w.stageOf id = some c.stage := stageOf_eq hc
        exact hne (ho.eq_of_locked hstage hat rfl (by rw [hs]; rfl))
      rw [moved, advance_token hstore] at ht
      exact (h.unfit id' p t hstage ht).concat _

/-- **Every event keeps what callers know.** -/
theorem step_grounded (hrun : w₀.run es = some w) (ho : w.Orderly) (he : w.step e = some w')
    (h : Grounded w₀ es w) : Grounded w₀ (es ++ [e]) w' := by
  by_cases hadvance : ∃ id, e = .advance id
  · obtain ⟨id, rfl⟩ := hadvance
    obtain ⟨c, hc, -, rfl⟩ := step_advance.mp he
    exact moved_grounded hrun ho h hc
  · have hne : ∀ id, e ≠ .advance id := fun id heq => hadvance ⟨id, heq⟩
    constructor
    · intro id time hstage
      exact (h.reads id time (stageOf_of_step (hne id) rfl he hstage)).concat e
    · intro id p t hstage ht
      exact (h.unfit id p t (stageOf_of_step (hne id) rfl he hstage)
        (token_of_step (fun id _ _ heq => absurd heq (hne id)) he ht)).concat e

/-- **So does every run.** -/
theorem run_grounded (ho : w₀.Orderly) (h : Grounded w₀ [] w₀) (hrun : w₀.run es = some w) :
    Grounded w₀ es w :=
  run_induction h (fun _ _ _ _ hw he h => step_grounded hw (run_orderly ho hw) he h) hrun

/-! ## When an exchange starts -/

/-- From one world to another an exchange of a caller has started. -/
def Starts (w w' : World α) (id : Nat) (p : Purpose) : Prop :=
  w.stageOf id ≠ some (.exchange p) ∧ w'.stageOf id = some (.exchange p)

/-- **An exchange is started by a caller that was about to.** -/
theorem Starts.eq_advance (h : Starts w w' id p) (he : w.step e = some w') :
    e = .advance id ∧ w.stageOf id = some (.unserved p) := by
  obtain ⟨hnot, hat⟩ := h
  by_cases hadvance : e = .advance id
  · subst hadvance
    obtain ⟨c, hc, -, rfl⟩ := step_advance.mp he
    rw [stageOf_moved, if_pos rfl] at hat
    have hc' : w.stageOf id = some c.stage := stageOf_eq hc
    rcases advance_eq_exchange (Option.some.inj hat) with hs | hs
    · exact absurd (hs ▸ hc') hnot
    · exact ⟨rfl, hs ▸ hc'⟩
  · exact absurd (stageOf_of_step hadvance rfl he hat) hnot

theorem started_moved {c : Caller α} (w : World α) (id : Nat) (hs : ∀ p, c.stage ≠ .unserved p) :
    (w.moved id c).started = w.started := by
  obtain ⟨goal, stage⟩ := c
  cases stage with
  | unserved p => exact absurd rfl (hs p)
  | _ => rfl

/-- **Exchanges are counted when they start.** -/
theorem started_step (he : w.step e = some w') :
    (w'.started = w.started + 1 ∧ ∃ id p, Starts w w' id p)
      ∨ (w'.started = w.started ∧ ∀ id p, ¬ Starts w w' id p) := by
  by_cases hadvance : ∃ id p, e = .advance id ∧ w.stageOf id = some (.unserved p)
  · obtain ⟨id, p, rfl, hat⟩ := hadvance
    obtain ⟨goal, hc'⟩ := stageOf_eq_some.mp hat
    obtain ⟨c, hc, -, rfl⟩ := step_advance.mp he
    obtain rfl := Option.some.inj (hc'.symm.trans hc)
    refine .inl ⟨rfl, id, p, ?_, ?_⟩
    · rw [hat]
      exact nofun
    · rw [stageOf_moved, if_pos rfl]
      rfl
  · refine .inr ⟨?_, fun id p hs => hadvance ⟨id, p, hs.eq_advance he⟩⟩
    rcases step_cases he with ⟨id, c, rfl, hc, -, rfl⟩ | hout
    · exact started_moved w id fun p hs =>
        hadvance ⟨id, p, rfl, stageOf_eq_some.mpr ⟨c.goal, by rw [hc, ← hs]⟩⟩
    · exact hout.started_eq

end OrderDesk.Session
