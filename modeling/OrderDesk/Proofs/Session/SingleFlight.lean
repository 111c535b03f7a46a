import OrderDesk.Proofs.Session.Exchange
import OrderDesk.Proofs.Session.Progress

/-!
# Proofs/Session/SingleFlight — one exchange for all

    before ──▸ in flight ──▸ landed

At most one exchange is in flight at any time, and a caller that starts one has found the cached
token of no use.  When all callers are `Spurned` by the cached token and the first exchange gives one
that serves them all, a run goes through three phases: every step keeps the phase or goes on to the
next one (`step_settling`), and after the last one nobody starts an exchange any more.
-/

namespace OrderDesk

variable {t : Token} {margin : Duration} {now now' : Int64}

/-- A token that is fresh was fresh before. -/
theorem Token.isFreshAt_of_le (hle : now ≤ now') (h : t.isFreshAt now' margin = true) :
    t.isFreshAt now margin = true := by
  rw [isFreshAt, decide_eq_true_eq] at h ⊢
  have hnow : now.toInt ≤ now'.toInt := Int64.le_iff_toInt_le.mp hle
  rw [later] at h ⊢
  omega

variable {α : Type}

/-- Whether a caller has not found out yet whether a cached token serves it. -/
def Stage.seeking : Stage α → Bool
  | .check => true
  | .checkAt _ => true
  | .request _ => true
  | .queued _ => true
  | .recheck _ => true
  | .recheckAt _ => true
  | _ => false

namespace Session

/-- Whether the cached token is of no use to a caller, and another token is not the rejected one. -/
def Spurned (s : Session) (now : Int64) (t : Token) : Purpose → Prop
  | .refresh => s.fresh? now = none
  | .replace rejected => s.token = some rejected ∧ t ≠ rejected

/-- **Calls for a token that one exchange can serve:** each caller is after a token and is spurned by
the one that was cached at the opening, the first exchange gives `t`, nobody drops the cached token,
no caller is given up between the start of its exchange and the caching of the token, and the clock
never goes back. -/
def Calm (w₀ : World α) (t : Token) (w : World α) : Event α → Prop
  | .arrive _ goal => ∃ p, goal = .token p ∧ w₀.session.Spurned w₀.now t p
  | .exchangeEnds _ r => w.started = 1 → r = .ok t
  | .invalidate => False
  | .leave id => ∀ p t', w.stageOf id ≠ some (.exchange p) ∧ w.stageOf id ≠ some (.store p t')
  | .clock now => w.now ≤ now
  | _ => True

/-! ## Looking at the cache -/

variable {w₀ w w' : World α} {s : Session} {id : Nat} {goal : Goal} {stage : Stage α} {p : Purpose}
  {time : Int64}

/-- As long as the token of the opening is cached, it is fresh for nobody. -/
theorem Spurned.fresh? {s₀ : Session} (h : s₀.Spurned now t .refresh) (htoken : s.token = s₀.token)
    (hmargin : s.margin = s₀.margin) (hle : now ≤ time) : s.fresh? time = none := by
  rw [Session.fresh?, Option.filter_eq_none_iff, htoken]
  intro t' ht' hfresh
  rw [hmargin] at hfresh
  rw [Spurned, Session.fresh?, Option.filter_eq_none_iff] at h
  exact h t' ht' (Token.isFreshAt_of_le hle hfresh)

/-- …and it is the rejected one. -/
theorem Spurned.other? {s₀ : Session} {rejected : Token} (h : s₀.Spurned now t (.replace rejected))
    (htoken : s.token = s₀.token) : s.other? rejected = none := by
  rw [Session.other?, htoken, h.1]
  simp

theorem fresh?_eq_some (htoken : s.token = some t) (hfresh : t.isFreshAt now s.margin = true)
    (hle : time ≤ now) : s.fresh? time = some t := by
  rw [fresh?, htoken, Option.filter_some, if_pos (Token.isFreshAt_of_le hle hfresh)]

theorem other?_eq_some {rejected : Token} (htoken : s.token = some t) (hne : t ≠ rejected) :
    s.other? rejected = some t := by
  simp [other?, htoken, hne]

/-- What is known of a caller by its stage: why it is spurned, and when it has read the clock. -/
def Suits (w₀ : World α) (t : Token) (now : Int64) : Stage α → Prop
  | .check => w₀.session.Spurned w₀.now t .refresh
  | .checkAt time => w₀.session.Spurned w₀.now t .refresh ∧ w₀.now ≤ time ∧ time ≤ now
  | .request p => w₀.session.Spurned w₀.now t p
  | .queued p => w₀.session.Spurned w₀.now t p
  | .recheck p => w₀.session.Spurned w₀.now t p
  | .recheckAt time => w₀.session.Spurned w₀.now t .refresh ∧ w₀.now ≤ time ∧ time ≤ now
  | _ => True

/-- Whether a caller is still to look, or has been served. -/
def Served (t : Token) (stage : Stage α) : Prop :=
  stage.seeking = true ∨ (∃ p, stage = .release p (.ok t)) ∨ stage = .granted (.ok t)

theorem suits_mono (hle : now ≤ now') : ∀ {stage : Stage α}, Suits w₀ t now stage →
    Suits w₀ t now' stage
  | .checkAt _, h => ⟨h.1, h.2.1, Int64.le_trans h.2.2 hle⟩
  | .recheckAt _, h => ⟨h.1, h.2.1, Int64.le_trans h.2.2 hle⟩
  | .check, h => h
  | .request _, h => h
  | .queued _, h => h
  | .recheck _, h => h
  | .unserved _, _ => trivial
  | .exchange _, _ => trivial
  | .store _ _, _ => trivial
  | .release _ _, _ => trivial
  | .attempt _ _, _ => trivial
  | .granted _, _ => trivial
  | .ended _, _ => trivial

theorem suits_decided (p : Purpose) (t' : Option Token) :
    Suits w₀ t now (decided p t' : Stage α) := by
  cases t' <;> exact trivial

/-- A step of a caller keeps what is known of it. -/
theorem advance_suits (hnow : w₀.now ≤ now) (p : Purpose) : ∀ {stage : Stage α},
    Suits w₀ t now stage → Suits w₀ t now (advance now id (.token p) s stage).2
  | .check, h => ⟨h, hnow, Int64.le_refl now⟩
  | .checkAt time, h => by
      rw [advance]
      split
      · exact trivial
      · exact h.1
  | .request p, h => by
      rw [advance]
      split <;> exact h
  | .queued p, h => by
      rw [advance]
      split <;> exact h
  | .recheck .refresh, h => ⟨h, hnow, Int64.le_refl now⟩
  | .recheck (.replace rejected), _ => suits_decided _ _
  | .recheckAt time, _ => suits_decided _ _
  | .unserved _, _ => trivial
  | .exchange _, _ => trivial
  | .store _ _, _ => trivial
  | .release _ _, _ => trivial
  | .attempt _ _, _ => trivial
  | .granted _, _ => trivial
  | .ended _, _ => trivial

/-- **A look at the token of the opening** serves nobody: who has no lock seeks on, and who has it
may be about to start an exchange. -/
theorem advance_spurned (htoken : s.token = w₀.session.token)
    (hmargin : s.margin = w₀.session.margin) : ∀ {stage : Stage α}, stage.seeking = true →
    Suits w₀ t now stage → (advance now id goal s stage).2.seeking = true
      ∨ stage.locked = true ∧ ∃ p, (advance now id goal s stage).2 = .unserved p
  | .check, _, _ => .inl rfl
  | .checkAt time, _, h => by
      rw [advance, h.1.fresh? htoken hmargin h.2.1]
      exact .inl rfl
  | .request p, _, _ => by
      rw [advance]
      split <;> exact .inl rfl
  | .queued p, _, _ => by
      rw [advance]
      split <;> exact .inl rfl
  | .recheck .refresh, _, _ => .inl rfl
  | .recheck (.replace rejected), _, h => by
      have hother : s.other? rejected = none :=
        Spurned.other? (show w₀.session.Spurned w₀.now t (.replace rejected) from h) htoken
      rw [advance, hother]
      exact .inr ⟨rfl, _, rfl⟩
  | .recheckAt time, _, h => by
      rw [advance, h.1.fresh? htoken hmargin h.2.1]
      exact .inr ⟨rfl, _, rfl⟩

/-- **A look at the new token** serves everybody. -/
theorem advance_served (htoken : s.token = some t) (hfresh : t.isFreshAt now s.margin = true)
    (p : Purpose) : ∀ {stage : Stage α}, Served t stage → Suits w₀ t now stage →
    Served t (advance now id (.token p) s stage).2
  | .check, _, _ => .inl rfl
  | .checkAt time, _, h => by
      rw [advance, fresh?_eq_some htoken hfresh h.2.2]
      exact .inr (.inr rfl)
  | .request p, _, _ => by
      rw [advance]
      split <;> exact .inl rfl
  | .queued p, _, _ => by
      rw [advance]
      split <;> exact .inl rfl
  | .recheck .refresh, _, _ => .inl rfl
  | .recheck (.replace rejected), _, h => by
      rw [advance, other?_eq_some htoken h.2]
      exact .inr (.inl ⟨_, rfl⟩)
  | .recheckAt time, _, h => by
      rw [advance, fresh?_eq_some htoken hfresh h.2.2]
      exact .inr (.inl ⟨_, rfl⟩)
  | .release p' r, h, _ => by
      rcases h with h | ⟨_, h⟩ | h
      · contradiction
      · obtain ⟨-, rfl⟩ := Stage.release.inj h
        exact .inr (.inr rfl)
      · contradiction
  | .granted r, h, _ => h
  | .unserved _, h, _ => by rcases h with h | ⟨_, h⟩ | h <;> contradiction
  | .exchange _, h, _ => by rcases h with h | ⟨_, h⟩ | h <;> contradiction
  | .store _ _, h, _ => by rcases h with h | ⟨_, h⟩ | h <;> contradiction
  | .attempt _ _, h, _ => by rcases h with h | ⟨_, h⟩ | h <;> contradiction
  | .ended _, h, _ => by rcases h with h | ⟨_, h⟩ | h <;> contradiction

/-! ## Phases -/

/-- **The phases of a calm run:** nobody has started an exchange, one is in flight or its token is
about to be cached, everybody is served. -/
inductive Phase (w₀ : World α) (t : Token) (w : World α) : Prop
  | before (started_eq : w.started = 0) (token_eq : w.session.token = w₀.session.token)
      (stages : ∀ id stage, w.stageOf id = some stage →
        stage.seeking = true ∨ ∃ p, stage = .unserved p)
  | inFlight (id : Nat) (p : Purpose) (started_eq : w.started = 1)
      (token_eq : w.session.token = w₀.session.token)
      (flies : w.stageOf id = some (.exchange p) ∨ w.stageOf id = some (.store p t))
      (stages : ∀ id' stage, w.stageOf id' = some stage → id' ≠ id → stage.seeking = true)
  | landed (started_eq : w.started = 1) (token_eq : w.session.token = some t)
      (stages : ∀ id stage, w.stageOf id = some stage → Served t stage)

/-- What a calm run keeps. -/
structure Settling (w₀ : World α) (t : Token) (w : World α) : Prop where
  now_le : w₀.now ≤ w.now
  margin_eq : w.session.margin = w₀.session.margin
  goals : ∀ id c, w.callers id = some c → ∃ p, c.goal = .token p
  suits : ∀ id stage, w.stageOf id = some stage → Suits w₀ t w.now stage
  phase : Phase w₀ t w

theorem opening_settling (margin : Duration) (token : Option Token) (now : Int64) (t : Token) :
    Settling (World.opening (α := α) margin token now) t (World.opening margin token now) :=
  ⟨Int64.le_refl now, rfl, fun _ _ hc => absurd hc nofun, fun _ _ hat => absurd hat nofun,
    .before rfl rfl fun _ _ hat => absurd hat nofun⟩

/-- The stages after a change of one caller. -/
theorem forall_stageOf {P : Nat → Stage α → Prop} {o : Option (Stage α)}
    (hupdate : ∀ id', w'.stageOf id' = if id' = id then o else w.stageOf id')
    (hid : ∀ stage, o = some stage → P id stage)
    (hrest : ∀ id' stage, id' ≠ id → w.stageOf id' = some stage → P id' stage) (id' : Nat)
    (stage : Stage α) (h : w'.stageOf id' = some stage) : P id' stage := by
  rw [hupdate] at h
  split at h
  · next heq => exact heq ▸ hid stage h
  · next hne => exact hrest id' stage hne h

theorem seeking_start (goal : Goal) : (start goal : Stage α).seeking = true := by
  rcases goal with (_ | _) | _ <;> rfl

/-- A new caller does not change the phase. -/
theorem Phase.arrive (h : Phase w₀ t w) (hnone : w.callers id = none) (goal : Goal) :
    Phase w₀ t (w.put id ⟨goal, start goal⟩) := by
  have hstart : ∀ stage : Stage α, some (start goal) = some stage → stage.seeking = true :=
    fun stage heq => Option.some.inj heq ▸ seeking_start goal
  have hupdate := World.stageOf_put w id ⟨goal, start goal⟩
  cases h with
  | before hstarted htoken hstages =>
    exact .before hstarted htoken (forall_stageOf hupdate (fun stage heq => .inl (hstart stage heq))
      fun id' stage _ => hstages id' stage)
  | inFlight id₁ p hstarted htoken hflies hstages =>
    have hne : id₁ ≠ id := by
      rintro rfl
      rw [World.stageOf, hnone] at hflies
      rcases hflies with hs | hs <;> cases hs
    refine .inFlight id₁ p hstarted htoken ?_ (forall_stageOf hupdate
      (fun stage heq _ => hstart stage heq) fun id' stage _ => hstages id' stage)
    rwa [hupdate, if_neg hne]
  | landed hstarted htoken hstages =>
    exact .landed hstarted htoken (forall_stageOf hupdate (fun stage heq => .inl (hstart stage heq))
      fun id' stage _ => hstages id' stage)

/-- Nor does a caller that is given up before or after its exchange. -/
theorem Phase.leave (h : Phase w₀ t w) (hleave : ∀ p t', w.stageOf id ≠ some (.exchange p)
      ∧ w.stageOf id ≠ some (.store p t')) : Phase w₀ t (w.without id) := by
  have hupdate := World.stageOf_without w id
  have htoken : (w.without id).session.token = w.session.token := token_leave w.session id
  cases h with
  | before hstarted htoken' hstages =>
    exact .before hstarted (htoken.trans htoken')
      (forall_stageOf hupdate (fun _ hat => absurd hat nofun) fun id' stage _ => hstages id' stage)
  | inFlight id₁ p hstarted htoken' hflies hstages =>
    have hne : id₁ ≠ id := by
      rintro rfl
      exact hflies.elim (hleave p t).1 (hleave p t).2
    refine .inFlight id₁ p hstarted (htoken.trans htoken') ?_
      (forall_stageOf hupdate (fun _ hat => absurd hat nofun) fun id' stage _ => hstages id' stage)
    rwa [hupdate, if_neg hne]
  | landed hstarted htoken' hstages =>
    exact .landed hstarted (htoken.trans htoken')
      (forall_stageOf hupdate (fun _ hat => absurd hat nofun) fun id' stage _ => hstages id' stage)

/-- **The end of the first exchange** gives the token that is to be cached. -/
theorem Phase.exchangeEnds (h : Phase w₀ t w) (hc : w.callers id = some ⟨goal, .exchange p⟩)
    {r : Except Error Token} (hr : w.started = 1 → r = .ok t) :
    Phase w₀ t (w.put id ⟨goal, exchangeEnded p r⟩) := by
  have hat := World.stageOf_eq hc
  have hupdate := World.stageOf_put w id ⟨goal, exchangeEnded p r⟩
  cases h with
  | before hstarted htoken hstages =>
    rcases hstages id _ hat with h | ⟨_, h⟩ <;> contradiction
  | inFlight id₁ p₁ hstarted htoken hflies hstages =>
    obtain rfl : id = id₁ := by
      by_contra hne
      cases hstages id _ hat hne
    obtain rfl := hr hstarted
    refine .inFlight id p hstarted htoken (.inr ?_) (forall_stageOf hupdate
      (fun _ _ hne => absurd rfl hne) fun id' stage _ => hstages id' stage)
    rw [hupdate, if_pos rfl]
    rfl
  | landed hstarted htoken hstages =>
    rcases hstages id _ hat with h | ⟨_, h⟩ | h <;> contradiction

theorem Served.ne_store (h : Served t stage) (p : Purpose) (t' : Token) : stage ≠ .store p t' := by
  rintro rfl
  rcases h with h | ⟨_, h⟩ | h <;> contradiction

theorem Served.starting_eq_zero (h : Served t stage) : stage.starting = 0 := by
  cases stage with
  | unserved p => rcases h with h | ⟨_, h⟩ | h <;> contradiction
  | _ => rfl

/-- **The first exchange starts:** nobody else was about to start one. -/
theorem Phase.begun {c : Caller α} (ho : w.Orderly) (hat : w.stageOf id = some c.stage)
    (hs : c.stage = .unserved p) (hstarted : w.started = 0)
    (htoken : w.session.token = w₀.session.token) (hstages : ∀ id stage,
      w.stageOf id = some stage → stage.seeking = true ∨ ∃ p, stage = .unserved p) :
    Phase w₀ t (w.moved id c) := by
  have hupdate := World.stageOf_moved w id c
  refine .inFlight id p (by rw [World.moved, hs, hstarted]; rfl)
    ((advance_token fun _ _ hst => by rw [hs] at hst; contradiction).trans htoken)
    (.inl (by rw [hupdate, if_pos rfl, hs]; rfl))
    (forall_stageOf hupdate (fun _ _ hne => absurd rfl hne) fun id' stage _ hat' hne => ?_)
  refine (hstages id' stage hat').resolve_right ?_
  rintro ⟨_, rfl⟩
  exact hne (ho.eq_of_locked hat' hat rfl (by rw [hs]; rfl))

/-- **Its token is cached,** and everybody else still seeks one. -/
theorem Phase.stored {c : Caller α} (hs : c.stage = .store p t) (hstarted : w.started = 1)
    (hstages : ∀ id' stage, w.stageOf id' = some stage → id' ≠ id → stage.seeking = true) :
    Phase w₀ t (w.moved id c) := by
  refine .landed (by rw [World.moved, hs, hstarted]; rfl) (by rw [World.moved, hs]; rfl)
    (forall_stageOf (World.stageOf_moved w id c) ?_
      fun id' stage hne hat' => .inl (hstages id' stage hat' hne))
  rintro _ ⟨⟩
  rw [hs]
  exact .inr (.inl ⟨p, rfl⟩)

/-- **A step of a caller** keeps the phase, starts the first exchange, or caches its token. -/
theorem Phase.moved {c : Caller α} (h : Phase w₀ t w) (ho : w.Orderly)
    (hmargin : w.session.margin = w₀.session.margin)
    (hfresh : t.isFreshAt w.now w.session.margin = true) (hsuits : Suits w₀ t w.now c.stage)
    (hgoal : c.goal = .token p) (hc : w.callers id = some c)
    (hidle : c.stage.idle w.session id = false) : Phase w₀ t (w.moved id c) := by
  have hat : w.stageOf id = some c.stage := World.stageOf_eq hc
  have hupdate := World.stageOf_moved w id c
  cases h with
  | before hstarted htoken hstages =>
    rcases hstages id c.stage hat with hseek | ⟨p', hs⟩
    · have hserved : Served t c.stage := .inl hseek
      refine .before (by rw [World.moved, hserved.starting_eq_zero, hstarted])
        ((advance_token hserved.ne_store).trans htoken) (forall_stageOf hupdate ?_
          fun id' stage _ => hstages id' stage)
      rintro _ ⟨⟩
      exact (advance_spurned htoken hmargin hseek hsuits).imp_right And.right
    · exact .begun ho hat hs hstarted htoken hstages
  | inFlight id₁ p₁ hstarted htoken hflies hstages =>
    by_cases hid : id = id₁
    · subst hid
      rw [hat] at hflies
      rcases hflies with hs | hs
      · rw [Option.some.inj hs] at hidle
        contradiction
      · exact .stored (Option.some.inj hs) hstarted hstages
    · have hseek := hstages id c.stage hat hid
      have hserved : Served t c.stage := .inl hseek
      -- The exchange in flight has the lock, so this caller has it not and starts no other.
      have hout : ¬ c.stage.locked = true := fun hl =>
        hid (hflies.elim (fun hf => ho.eq_of_locked hat hf hl rfl)
          fun hf => ho.eq_of_locked hat hf hl rfl)
      refine .inFlight id₁ p₁ (by rw [World.moved, hserved.starting_eq_zero, hstarted])
        ((advance_token hserved.ne_store).trans htoken) ?_ (forall_stageOf hupdate ?_
          fun id' stage _ => hstages id' stage)
      · rwa [hupdate, if_neg (Ne.symm hid)]
      · rintro _ ⟨⟩ -
        exact (advance_spurned htoken hmargin hseek hsuits).resolve_right fun hl => hout hl.1
  | landed hstarted htoken hstages =>
    have hserved := hstages id c.stage hat
    refine .landed (by rw [World.moved, hserved.starting_eq_zero, hstarted])
      ((advance_token hserved.ne_store).trans htoken) (forall_stageOf hupdate ?_
        fun id' stage _ => hstages id' stage)
    rintro _ ⟨⟩
    rw [hgoal]
    exact advance_served htoken hfresh p hserved hsuits

/-! ## Every event of a calm run -/

theorem suits_start {p : Purpose} (h : w₀.session.Spurned w₀.now t p) :
    Suits w₀ t now (start (.token p) : Stage α) := by
  cases p <;> exact h

/-- **Each event of a calm run keeps what such a run keeps.** -/
theorem step_settling (ho : w.Orderly) (h : Settling w₀ t w) : ∀ {e : Event α},
    Calm w₀ t w e → w.step e = some w' → t.isFreshAt w'.now w'.session.margin = true →
    Settling w₀ t w'
  | .arrive id goal, ⟨p, hgoal, hspurned⟩, he, _ => by
      obtain ⟨hnone, rfl⟩ := World.step_arrive.mp he
      subst hgoal
      refine ⟨h.now_le, h.margin_eq, World.forall_update ?_ fun id' c _ => h.goals id' c,
        forall_stageOf (World.stageOf_put _ _ _) ?_ fun id' stage _ => h.suits id' stage,
        h.phase.arrive hnone _⟩
      · rintro _ ⟨⟩
        exact ⟨p, rfl⟩
      · rintro _ ⟨⟩
        exact suits_start hspurned
  | .advance id, _, he, hfresh => by
      obtain ⟨c, hc, hidle, rfl⟩ := World.step_advance.mp he
      obtain ⟨p, hgoal⟩ := h.goals id c hc
      have hat : w.stageOf id = some c.stage := World.stageOf_eq hc
      have hmargin : (w.moved id c).session.margin = w.session.margin := advance_margin ..
      refine ⟨h.now_le, hmargin.trans h.margin_eq,
        World.forall_update ?_ fun id' c _ => h.goals id' c,
        forall_stageOf (World.stageOf_moved _ _ _) ?_ fun id' stage _ => h.suits id' stage,
        h.phase.moved ho h.margin_eq (hmargin ▸ hfresh) (h.suits id _ hat) hgoal hc hidle⟩
      · rintro _ ⟨⟩
        exact ⟨p, hgoal⟩
      · rintro _ ⟨⟩
        rw [hgoal]
        exact advance_suits h.now_le p (h.suits id _ hat)
  | .exchangeEnds id r, hr, he, _ => by
      obtain ⟨goal, p, hc, rfl⟩ := World.step_exchangeEnds.mp he
      refine ⟨h.now_le, h.margin_eq,
        World.forall_update ?_ fun id' c _ => h.goals id' c,
        forall_stageOf (World.stageOf_put _ _ _) ?_ fun id' stage _ => h.suits id' stage,
        h.phase.exchangeEnds hc hr⟩
      · rintro _ ⟨⟩
        obtain ⟨p', hgoal⟩ := h.goals id _ hc
        exact ⟨p', hgoal⟩
      · rintro _ ⟨⟩
        cases r <;> exact trivial
  | .attemptEnds id r, _, he, _ => by
      obtain ⟨goal, p, t', hc, rfl⟩ := World.step_attemptEnds.mp he
      have hat := World.stageOf_eq hc
      cases h.phase with
      | before _ _ hstages => rcases hstages id _ hat with hs | ⟨_, hs⟩ <;> contradiction
      | inFlight id₁ p₁ _ _ hflies hstages =>
        by_cases hid : id = id₁
        · subst hid
          rw [hat] at hflies
          rcases hflies with hs | hs <;> cases hs
        · cases hstages id _ hat hid
      | landed _ _ hstages => rcases hstages id _ hat with hs | ⟨_, hs⟩ | hs <;> contradiction
  | .leave id, hleave, he, _ => by
      obtain ⟨-, rfl⟩ := World.step_leave.mp he
      have hmargin : (w.without id).session.margin = w.session.margin := margin_leave w.session id
      exact ⟨h.now_le, hmargin.trans h.margin_eq,
        World.forall_update (fun _ hc => absurd hc nofun) fun id' c _ => h.goals id' c,
        forall_stageOf (World.stageOf_without _ _) (fun _ hat => absurd hat nofun)
          fun id' stage _ => h.suits id' stage,
        h.phase.leave hleave⟩
  | .clock now, hle, he, _ => by
      obtain rfl := Option.some.inj he
      refine ⟨Int64.le_trans h.now_le hle, h.margin_eq, h.goals,
        fun id' stage hat => suits_mono hle (h.suits id' stage hat), ?_⟩
      cases h.phase with
      | before hstarted htoken hstages => exact .before hstarted htoken hstages
      | inFlight id p hstarted htoken hflies hstages =>
        exact .inFlight id p hstarted htoken hflies hstages
      | landed hstarted htoken hstages => exact .landed hstarted htoken hstages

/-- What is fresh after an event of a calm run was fresh before. -/
theorem fresh_of_step {e : Event α} (hc : Calm w₀ t w e) (he : w.step e = some w')
    (hfresh : t.isFreshAt w'.now w'.session.margin = true) :
    t.isFreshAt w.now w.session.margin = true := by
  obtain ⟨hmargin, hnow⟩ := step_steady he
  rw [hmargin] at hfresh
  rcases hnow with hnow | rfl
  · exact hnow ▸ hfresh
  · exact Token.isFreshAt_of_le hc hfresh

/-- **So does a calm run.** -/
theorem run_settling {es : List (Event α)} (ho : w₀.Orderly) (h₀ : Settling w₀ t w₀)
    (hrun : w₀.run es = some w) (hcalm : Steps.Each World.step (Calm w₀ t) w₀ es)
    (hfresh : t.isFreshAt w.now w.session.margin = true) : Settling w₀ t w := by
  induction es using List.reverseRecOn generalizing w with
  | nil => exact Option.some.inj hrun ▸ h₀
  | append_singleton es e ih =>
    obtain ⟨w₁, hw₁, he⟩ := Steps.run_concat.mp hrun
    obtain ⟨hes, hc⟩ := hcalm.concat hw₁
    exact step_settling (run_orderly ho hw₁) (ih hw₁ hes (fresh_of_step hc he hfresh)) hc he hfresh

theorem Phase.started_le (h : Phase w₀ t w) : w.started ≤ 1 := by
  cases h with
  | before hstarted => exact hstarted ▸ Nat.zero_le 1
  | inFlight _ _ hstarted => exact Nat.le_of_eq hstarted
  | landed hstarted => exact Nat.le_of_eq hstarted

/-- Who has come to its end has been granted the token of the one exchange that was started. -/
theorem Phase.eq_granted (h : Phase w₀ t w) (hat : w.stageOf id = some stage)
    (hend : stage.isEnd = true) : w.started = 1 ∧ stage = .granted (.ok t) := by
  have hseek : ¬ stage.seeking = true := by
    cases stage with
    | granted r => exact nofun
    | ended r => exact nofun
    | _ => contradiction
  cases h with
  | before _ _ hstages =>
    rcases hstages id _ hat with hs | ⟨_, rfl⟩
    · exact absurd hs hseek
    · contradiction
  | inFlight id₁ p _ _ hflies hstages =>
    by_cases hid : id = id₁
    · subst hid
      rw [hat] at hflies
      rcases hflies with hs | hs
      all_goals
        rw [Option.some.inj hs] at hend
        contradiction
    · exact absurd (hstages id _ hat hid) hseek
  | landed hstarted _ hstages =>
    rcases hstages id _ hat with hs | ⟨_, rfl⟩ | hs
    · exact absurd hs hseek
    · contradiction
    · exact ⟨hstarted, hs⟩

/-- **In any run, one exchange is in flight at most, and each has a reason:** when it starts, no
token is cached, or one that its caller has found of no use with the lock in its hands.  In a calm
run, whose token stays fresh, no second exchange starts and callers are granted nothing but the token
of the first one; all of them are, once nobody can go on, which twenty steps of each caller bring
about. -/
theorem run_exchanges (margin : Duration) (token : Option Token) (now : Int64)
    (es : List (Event α)) (w : World α)
    (hrun : (World.opening margin token now).run es = some w) :
    (∀ id id' p p', w.stageOf id = some (.exchange p) → w.stageOf id' = some (.exchange p') →
        id = id')
      ∧ (∀ e w' id p, w.step e = some w' → Starts w w' id p →
        e = .advance id ∧ w.session.holder = some id
          ∧ (w.session.token = none ∨ ∃ t, w.session.token = some t
            ∧ Unfit (World.opening margin token now) es id t p))
      ∧ (∀ e w', w.step e = some w' → w'.started = w.started + 1 ∧ (∃ id p, Starts w w' id p)
        ∨ w'.started = w.started ∧ ∀ id p, ¬ Starts w w' id p)
      ∧ (∀ t, Steps.Each World.step (Calm (World.opening margin token now) t)
          (World.opening margin token now) es →
        t.isFreshAt w.now w.session.margin = true →
        w.started ≤ 1
          ∧ (∀ id r, w.stageOf id = some (.granted r) → r = .ok t)
          ∧ (w.AtRest → ∀ id stage, w.stageOf id = some stage →
            w.started = 1 ∧ stage = .granted (.ok t)))
      ∧ ∀ id, es.countP (·.mover = some id) ≤ 20 * es.countP (·.arrival = some id) := by
  have ho := run_orderly (opening_orderly margin token now) hrun
  have hg := run_grounded (opening_orderly margin token now) (opening_grounded margin token now) hrun
  refine ⟨fun id id' p p' hat hat' => ?_, fun e w' id p he hs => ?_, fun e w' he => started_step he,
    fun t hcalm hfresh => ?_, countP_mover_le hrun⟩
  · exact ho.eq_of_locked hat hat' rfl rfl
  · obtain ⟨rfl, hat⟩ := hs.eq_advance he
    obtain ⟨goal, hc⟩ := World.stageOf_eq_some.mp hat
    refine ⟨rfl, ho.holder_eq id _ hc rfl, ?_⟩
    cases ht : w.session.token with
    | none => exact .inl rfl
    | some t => exact .inr ⟨t, rfl, hg.unfit id p t hat ht⟩
  · have hset := run_settling (opening_orderly margin token now) (opening_settling margin token now t)
      hrun hcalm hfresh
    exact ⟨hset.phase.started_le,
      fun id r hat => Stage.granted.inj (hset.phase.eq_granted hat rfl).2,
      fun hrest id stage hat => hset.phase.eq_granted hat (hrest.isEnd ho hat)⟩

/-- Two callers that find no token: one exchanges a nonce while the other waits for the lock. -/
def twoCallers (t : Token) : List (Event Unit) :=
  [.arrive 0 (.token .refresh), .arrive 1 (.token .refresh), .advance 0, .advance 1, .advance 0,
    .advance 1, .advance 0, .advance 1, .advance 0, .advance 0, .advance 0, .exchangeEnds 0 (.ok t),
    .advance 0, .advance 0, .advance 1, .advance 1, .advance 1, .advance 1]

/-- Both callers are granted the one token. -/
theorem run_exchanges_twoCallers :
    ∃ w, (World.opening ⟨1⟩ none 0).run (twoCallers ⟨"abc", 5⟩) = some w ∧ w.AtRest
      ∧ w.started = 1 ∧ ∀ id stage, w.stageOf id = some stage →
        stage = .granted (.ok ⟨"abc", 5⟩) := by
  obtain ⟨w, hrun⟩ : ∃ w, (World.opening ⟨1⟩ none 0).run (twoCallers ⟨"abc", 5⟩) = some w := ⟨_, rfl⟩
  have hcalm : Steps.Each World.step (Calm (World.opening ⟨1⟩ none 0) ⟨"abc", 5⟩)
      (World.opening ⟨1⟩ none 0) (twoCallers ⟨"abc", 5⟩) :=
    ⟨⟨.refresh, rfl, rfl⟩, ⟨.refresh, rfl, rfl⟩, trivial, trivial, trivial, trivial, trivial,
      trivial, trivial, trivial, trivial, fun _ => rfl, trivial, trivial, trivial, trivial, trivial,
      trivial, trivial⟩
  have hfresh : Token.isFreshAt ⟨"abc", 5⟩ w.now w.session.margin = true := by
    obtain rfl := Option.some.inj hrun
    rfl
  have hrest : w.AtRest := World.AtRest.of_isEnd fun
    | 0, _, hat => by
        obtain rfl := Option.some.inj hrun
        obtain rfl := Option.some.inj hat
        rfl
    | 1, _, hat => by
        obtain rfl := Option.some.inj hrun
        obtain rfl := Option.some.inj hat
        rfl
    | id + 2, _, hat => by
        obtain rfl := Option.some.inj hrun
        contradiction
  obtain ⟨stage, hat⟩ : ∃ stage, w.stageOf 0 = some stage := by
    obtain rfl := Option.some.inj hrun
    exact ⟨_, rfl⟩
  have hserved := ((run_exchanges ⟨1⟩ none 0 _ w hrun).2.2.2.1 _ hcalm hfresh).2.2 hrest
  exact ⟨w, hrun, hrest, (hserved 0 stage hat).1, fun id stage hat => (hserved id stage hat).2⟩

end Session

end OrderDesk
