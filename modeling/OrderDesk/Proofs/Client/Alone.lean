import OrderDesk.Proofs.Client.Redial

/-!
# Proofs/Client/Alone — opening a stream again without other callers

    check ──▸ exchange ──▸ attempt ──▸ exchange ──▸ attempt ──▸ ended

A call that nobody interferes with waits four times at most, so that `Session.drive` takes it to its
end (`At.drives`).  A round of the loop is such a call (`connect_alone`).  What `Client.reconnect` does
is a run of the loop without other callers, and each event of it is what the world outside answers; the
loop ends with the result, and without one it has done as many rounds as it had tries
(`reconnect_alone`).
-/

namespace OrderDesk

variable {α σ κ : Type}

/-- How often a call waits behind an attempt with a token for a purpose. -/
def Purpose.waits : Purpose → Nat
  | .refresh => 2
  | .replace _ => 0

namespace Session

/-! ## A call to its end -/

/-- The lock is free, and nobody waits for it. -/
def Free (s : Session) : Prop := s.holder = none ∧ s.queue = []

/-- The lock is held by a caller that is alone. -/
def Held (s : Session) : Prop := s.holder = some alone ∧ s.queue = []

/-- **A call that waits a number of times at most:** it has come to its end, or waits for an attempt
without the lock, or for an exchange with it. -/
inductive Waits (k : Nat) : Session × Stage α → Prop
  | ended {s : Session} (hs : s.Free) (r : Except Error α) : Waits k (s, .ended r)
  | attempt {s : Session} (hs : s.Free) {p : Purpose} (t : Token) (hk : p.waits < k) :
      Waits k (s, .attempt p t)
  | exchange {s : Session} (hs : s.Held) {p : Purpose} (hk : p.waits + 1 < k) :
      Waits k (s, .exchange p)

/-- A call that is going to wait so when it has done what it can. -/
def WillWait (k : Nat) (s : Session) (stage : Stage α) : Prop :=
  ∀ now, Waits k (settle now alone .call s stage)

variable {s : Session} {k : Nat} {p : Purpose} {t : Token}

theorem Free.ask (h : s.Free) : (s.ask alone).Held := by
  obtain ⟨hh, hq⟩ := h
  rw [Session.ask, hh]
  exact ⟨rfl, hq⟩

theorem Held.unlock (h : s.Held) : s.unlock.Free := by
  rw [Free, Session.unlock, h.2]
  exact ⟨rfl, rfl⟩

theorem fresh?_ask (s : Session) (id : Nat) (now : Int64) : (s.ask id).fresh? now = s.fresh? now := by
  rw [ask]
  split <;> rfl

theorem other?_ask (s : Session) (id : Nat) (t : Token) : (s.ask id).other? t = s.other? t := by
  rw [ask]
  split <;> rfl

theorem Waits.mono {k' : Nat} {x : Session × Stage α} (h : Waits k x) (hk : k ≤ k') :
    Waits k' x := by
  cases h with
  | ended hs r => exact .ended hs r
  | attempt hs t hp => exact .attempt hs t (Nat.lt_of_lt_of_le hp hk)
  | exchange hs hp => exact .exchange hs (Nat.lt_of_lt_of_le hp hk)

/-- A call waits four times at most… -/
theorem willWait_check (h : s.Free) : WillWait 4 s (.check : Stage α) := by
  intro now
  cases hf : s.fresh? now with
  | some t =>
    have hs : settle now alone .call s (.check : Stage α) = (s, .attempt .refresh t) := by
      simp only [settle, Nat.repeat, advance, hf, grant]
    rw [hs]
    exact .attempt h t (by decide)
  | none =>
    have hs : settle now alone .call s (.check : Stage α) = (s.ask alone, .exchange .refresh) := by
      simp only [settle, Nat.repeat, advance, hf, fresh?_ask, h.1, Option.isNone_none, if_true,
        decided]
    rw [hs]
    exact .exchange h.ask (by decide)

/-- …twice when its token was rejected… -/
theorem willWait_request (h : s.Free) (t : Token) :
    WillWait 2 s (.request (.replace t) : Stage α) := by
  intro now
  cases hf : s.other? t with
  | some t' =>
    have hs : settle now alone .call s (.request (.replace t) : Stage α)
        = ((s.ask alone).unlock, .attempt (.replace t) t') := by
      simp only [settle, Nat.repeat, advance, hf, other?_ask, h.1, Option.isNone_none, if_true,
        decided, grant]
    rw [hs]
    exact .attempt h.ask.unlock t' Nat.two_pos
  | none =>
    have hs : settle now alone .call s (.request (.replace t) : Stage α)
        = (s.ask alone, .exchange (.replace t)) := by
      simp only [settle, Nat.repeat, advance, hf, other?_ask, h.1, Option.isNone_none, if_true,
        decided]
    rw [hs]
    exact .exchange h.ask Nat.one_lt_two

theorem willWait_ended (h : s.Free) (r : Except Error α) : WillWait k s (.ended r) :=
  fun _ => .ended h r

/-- …as often as it may behind an attempt… -/
theorem willWait_attemptEnded (h : s.Free) (p : Purpose) (t : Token) (r : Except Error α) :
    WillWait p.waits s (attemptEnded p t r) := by
  cases p with
  | replace rejected => exact willWait_ended h r
  | refresh =>
    cases r with
    | ok a => exact willWait_ended h _
    | error e =>
      rw [attemptEnded]
      split
      · exact willWait_request h t
      · exact willWait_ended h _

/-- …and once more behind an exchange. -/
theorem willWait_exchangeEnded (h : s.Held) (p : Purpose) (r : Except Error Token) :
    WillWait (p.waits + 1) s (exchangeEnded p r : Stage α) := by
  intro now
  cases r with
  | ok t => exact .attempt (s := { s with token := some t }.unlock) h.unlock t (Nat.lt_succ_self _)
  | error e => exact .ended h.unlock _

variable {s' : Session} {stage : Stage α} {x : σ} {goal : Goal} {e : Surroundings α σ}

theorem driveFor_of_ended {r : Except Error α}
    (h : settle (e.now x) alone goal s stage = (s', .ended r)) (k : Nat) :
    driveFor e goal k s stage x = (.ended r, s', x) := by
  unfold driveFor
  simp only [h]

theorem driveFor_of_attempt (h : settle (e.now x) alone goal s stage = (s', .attempt p t))
    (k : Nat) : driveFor e goal (k + 1) s stage x
      = driveFor e goal k s' (attemptEnded p t (e.attempt t x).1) (e.attempt t x).2 := by
  rw [driveFor.eq_def]
  simp only [h]

theorem driveFor_of_exchange (h : settle (e.now x) alone goal s stage = (s', .exchange p))
    (k : Nat) : driveFor e goal (k + 1) s stage x
      = driveFor e goal k s' (exchangeEnded p (e.exchange x).1) (e.exchange x).2 := by
  rw [driveFor.eq_def]
  simp only [h]

end Session

/-! ## What a client meets without other callers -/

namespace Redial

open Client (redialled)
open Session (alone settle driveFor Free WillWait Waits)

variable {c : Client} {t : Transport σ κ} {url : Url} {listens : σ → Bool}

/-- **What comes to a call without other callers:** a step of its own, or what the world outside
answers. -/
inductive Answers (c : Client) (t : Transport σ κ) (url : Url) (r : Redial κ) (x : σ) :
    Event κ → σ → Prop
  | clock : Answers c t url r x (.session (.clock (t.now x))) x
  | advance : Answers c t url r x (.session (.advance alone)) x
  | exchange : Answers c t url r x
      (.session (.exchangeEnds alone (c.authenticate t x).1)) (c.authenticate t x).2
  | dial {p : Purpose} {token : Token} (h : r.world.stageOf alone = some (.attempt p token)) :
      Answers c t url r x (.dialled (t.dial (c.dialRequest url token) x).1)
        (t.dial (c.dialRequest url token) x).2

theorem Answers.ne_goesOn {r : Redial κ} {x x' : σ} {e : Event κ} (h : Answers c t url r x e x') :
    e ≠ .goesOn := by
  rintro rfl
  cases h

/-- **What comes to a loop without other callers:** whether anybody listens, what comes to its calls,
and their ends. -/
inductive Meets (c : Client) (t : Transport σ κ) (url : Url) (listens : σ → Bool) (r : Redial κ)
    (x : σ) : Event κ → σ → Prop
  | looks : Meets c t url listens r x (.looks (listens x) alone) x
  | calls {e : Event κ} {x' : σ} (h : Answers c t url r x e x') : Meets c t url listens r x e x'
  | goesOn : Meets c t url listens r x .goesOn x

/-- **A run without other callers:** each event comes as it may with the world outside. -/
inductive Encounters (url : Url) (meets : Redial κ → σ → Event κ → σ → Prop) :
    Redial κ → σ → List (Event κ) → Redial κ → σ → Prop
  | nil (r : Redial κ) (x : σ) : Encounters url meets r x [] r x
  | cons {r r₁ r' : Redial κ} {x x₁ x' : σ} {e : Event κ} {es : List (Event κ)}
      (hm : meets r x e x₁) (he : step url r e = some r₁)
      (hes : Encounters url meets r₁ x₁ es r' x') : Encounters url meets r x (e :: es) r' x'

section Encounters

variable {meets : Redial κ → σ → Event κ → σ → Prop} {r r₁ r' : Redial κ} {x x₁ x' : σ}
  {es es' : List (Event κ)}

theorem Encounters.append (h : Encounters url meets r x es r₁ x₁)
    (h' : Encounters url meets r₁ x₁ es' r' x') : Encounters url meets r x (es ++ es') r' x' := by
  induction h with
  | nil => exact h'
  | cons hm he _ ih => exact .cons hm he (ih h')

theorem Encounters.single {e : Event κ} (hm : meets r x e x') (he : step url r e = some r') :
    Encounters url meets r x [e] r' x' :=
  .cons hm he (.nil r' x')

theorem Encounters.run (h : Encounters url meets r x es r' x') : r.run url es = some r' := by
  induction h with
  | nil => rfl
  | cons _ he _ ih => exact Steps.run_cons.mpr ⟨_, he, ih⟩

/-- What a call meets, the loop meets. -/
theorem Encounters.calls (h : Encounters url (Answers c t url) r x es r' x') :
    Encounters url (Meets c t url listens) r x es r' x' := by
  induction h with
  | nil => exact .nil _ _
  | cons hm he _ ih => exact .cons (.calls hm) he ih

/-- **A call without other callers** goes on with its round. -/
theorem Encounters.stands (h : Encounters url (Answers c t url) r x es r' x') {l : List (Deed κ)}
    (hl : Stands url r l) : Stands url r' (l ++ log url r es) := by
  induction h generalizing l with
  | nil =>
    rw [log, Steps.trace, List.append_nil]
    exact hl
  | cons hm he hes ih =>
    rw [log, Steps.trace_cons he, ← List.append_assoc]
    exact ih (hl.step he hm.ne_goesOn)

end Encounters

/-! ### A call -/

variable (c t url) {r : Redial κ} {s : Session} {stage : Stage κ} {now : Int64}

/-- A loop whose call is at a stage. -/
structure At (r : Redial κ) (s : Session) (stage : Stage κ) : Prop where
  place : r.place = .connecting alone
  session : r.world.session = s
  caller : r.world.callers alone = some ⟨.call, stage⟩

theorem advance_of_idle {goal : Goal} {id : Nat} (h : stage.idle s id = true) :
    Session.advance now id goal s stage = (s, stage) := by
  cases stage with
  | queued p =>
    rw [Session.advance, if_neg (by simpa [Stage.idle] using h)]
  | exchange p => rfl
  | attempt p t => rfl
  | granted r => rfl
  | ended r => rfl
  | _ => contradiction

theorem at_put (w : Session.World κ) (stage : Stage κ) :
    At ⟨w.put alone ⟨.call, stage⟩, .connecting alone⟩ w.session stage :=
  ⟨rfl, rfl, by simp only [Session.World.put, Function.update_self]⟩

/-- A call goes on on its own, if it can. -/
theorem At.advances (h : At r s stage) (x : σ) (hnow : r.world.now = now) :
    ∃ es r', Encounters url (Answers c t url) r x es r' x ∧ r'.world.now = now
      ∧ At r' (Session.advance now alone .call s stage).1
        (Session.advance now alone .call s stage).2 := by
  obtain ⟨hplace, rfl, hc⟩ := h
  subst hnow
  cases hidle : stage.idle r.world.session alone with
  | true =>
    rw [advance_of_idle hidle]
    exact ⟨[], r, .nil r x, rfl, hplace, rfl, hc⟩
  | false =>
    have hstep : r.world.step (.advance alone) = some (r.world.moved alone ⟨.call, stage⟩) :=
      Session.World.step_advance.mpr ⟨_, hc, hidle, rfl⟩
    refine ⟨_, ⟨r.world.moved alone ⟨.call, stage⟩, .connecting alone⟩, .single .advance ?_, rfl,
      rfl, rfl, ?_⟩
    · rw [step, hplace]
      simp only [ends, hstep, Bool.false_eq_true, if_false, Option.map_some]
    · simp only [Session.World.moved, Function.update_self]

/-- A call that has gone on a number of times. -/
def advanced (now : Int64) (n : Nat) (s : Session) (stage : Stage κ) : Session × Stage κ :=
  Nat.repeat (fun p => Session.advance now alone .call p.1 p.2) n (s, stage)

/-- **It does what it can.** -/
theorem At.settles (h : At r s stage) (x : σ) :
    ∃ es r', Encounters url (Answers c t url) r x es r' x
      ∧ At r' (settle (t.now x) alone .call s stage).1 (settle (t.now x) alone .call s stage).2 := by
  have hadvanced : ∀ n, ∃ es r', Encounters url (Answers c t url) r x es r' x ∧ r'.world.now = t.now x
      ∧ At r' (advanced (t.now x) n s stage).1 (advanced (t.now x) n s stage).2 := by
    intro n
    induction n with
    | zero =>
      obtain ⟨hplace, hs, hc⟩ := h
      refine ⟨_, ⟨{ r.world with now := t.now x }, .connecting alone⟩, .single .clock ?_, rfl,
        rfl, hs, hc⟩
      rw [step, hplace]
      rfl
    | succ n ih =>
      obtain ⟨es, r₁, hes, hnow, hat⟩ := ih
      obtain ⟨es', r', hes', hnow', hat'⟩ := hat.advances c t url x hnow
      exact ⟨es ++ es', r', hes.append hes', hnow', hat'⟩
  obtain ⟨es, r', hes, -, hat⟩ := hadvanced 6
  exact ⟨es, r', hes, hat⟩

theorem surroundings_now (x : σ) : (c.surroundings t (c.handshake t url)).now x = t.now x := rfl

/-- An attempt to open the stream is what comes of asking for it. -/
theorem surroundings_attempt (token : Token) (x : σ) :
    (c.surroundings t (c.handshake t url)).attempt token x
      = (Client.dialOutcome url (t.dial (c.dialRequest url token) x).1,
        (t.dial (c.dialRequest url token) x).2) := rfl

theorem surroundings_exchange (x : σ) :
    (c.surroundings t (c.handshake t url)).exchange x = c.authenticate t x := rfl

/-- An attempt of a call ends with what comes of asking for the stream… -/
theorem At.dials {p : Purpose} {token : Token} (h : At r s (.attempt p token)) (x : σ) :
    ∃ e r', Encounters url (Answers c t url) r x [e] r' (t.dial (c.dialRequest url token) x).2
      ∧ At r' s (Session.attemptEnded p token
        (Client.dialOutcome url (t.dial (c.dialRequest url token) x).1)) := by
  obtain ⟨hplace, rfl, hc⟩ := h
  refine ⟨_, _, .single (.dial (Session.World.stageOf_eq hc)) ?_, at_put r.world _⟩
  rw [step, hplace]
  simp only [Session.World.step_attemptEnds.mpr ⟨_, _, _, hc, rfl⟩, Option.map_some]

/-- …and an exchange with what the service answers. -/
theorem At.exchanges {p : Purpose} (h : At r s (.exchange p)) (x : σ) :
    ∃ e r', Encounters url (Answers c t url) r x [e] r' (c.authenticate t x).2
      ∧ At r' s (Session.exchangeEnded p (c.authenticate t x).1) := by
  obtain ⟨hplace, rfl, hc⟩ := h
  refine ⟨_, _, .single .exchange ?_, at_put r.world _⟩
  rw [step, hplace]
  simp only [ends, Session.World.step_exchangeEnds.mpr ⟨_, _, hc, rfl⟩, Option.map_some,
    Bool.false_eq_true, if_false]

/-- **A call that waits a number of times comes to its end,** and `driveFor` takes it there. -/
theorem At.drives : ∀ (k : Nat) {r : Redial κ} {s : Session} {stage : Stage κ} (x : σ),
    At r s stage → WillWait k s stage →
    ∃ es r' outcome s' x', Encounters url (Answers c t url) r x es r' x' ∧ At r' s' (.ended outcome)
      ∧ s'.Free
      ∧ driveFor (c.surroundings t (c.handshake t url)) .call k s stage x = (.ended outcome, s', x')
  | k, r, s, stage, x, h, hwait => by
      obtain ⟨es, r₁, hes, hat⟩ := h.settles c t url x
      obtain ⟨s₁, stage₁, hsettle⟩ :
          ∃ s' stage', settle (t.now x) alone .call s stage = (s', stage') := ⟨_, _, rfl⟩
      have hat : At r₁ s₁ stage₁ := by rwa [hsettle] at hat
      have hwaits := hwait (t.now x)
      rw [hsettle] at hwaits
      rw [← surroundings_now c t url] at hsettle
      cases hwaits with
      | ended hs outcome =>
        exact ⟨es, r₁, outcome, s₁, x, hes, hat, hs, Session.driveFor_of_ended hsettle k⟩
      | @attempt _ hs p token hk =>
        cases k with
        | zero => exact absurd hk (Nat.not_lt_zero _)
        | succ k =>
          obtain ⟨e, r₂, he, hat⟩ := hat.dials c t url x
          obtain ⟨es', r', outcome, s', x', hes', hat', hs', hdrive⟩ :=
            At.drives k _ hat fun now =>
              (Session.willWait_attemptEnded hs p token _ now).mono (Nat.le_of_lt_succ hk)
          refine ⟨es ++ ([e] ++ es'), r', outcome, s', x', hes.append (he.append hes'), hat', hs', ?_⟩
          rw [Session.driveFor_of_attempt hsettle, surroundings_attempt c t url token x]
          exact hdrive
      | @exchange _ hs p hk =>
        cases k with
        | zero => exact absurd hk (Nat.not_lt_zero _)
        | succ k =>
          obtain ⟨e, r₂, he, hat⟩ := hat.exchanges c t url x
          obtain ⟨es', r', outcome, s', x', hes', hat', hs', hdrive⟩ :=
            At.drives k _ hat fun now =>
              (Session.willWait_exchangeEnded hs p _ now).mono (Nat.le_of_lt_succ hk)
          refine ⟨es ++ ([e] ++ es'), r', outcome, s', x', hes.append (he.append hes'), hat', hs', ?_⟩
          rw [Session.driveFor_of_exchange hsettle, surroundings_exchange c t url x]
          exact hdrive

/-! ### A loop -/

/-- A caller that is gone has left nothing behind. -/
theorem leave_of_free (h : s.Free) : s.leave alone = s := by
  obtain ⟨hh, hq⟩ := h
  obtain ⟨margin, token, holder, queue⟩ := s
  obtain rfl : holder = none := hh
  obtain rfl : queue = [] := hq
  rfl

section Loop

variable (c : Client) (t : Transport σ κ) (url : Url) (listens : σ → Bool)

/-- **A round:** when somebody listens, `connect` is a call of the loop, which goes where that leads. -/
theorem connect_alone (l : Link σ) (w : Session.World κ) (hs : w.session = l.session)
    (hfree : l.session.Free) (hnone : w.callers alone = none) (hl : listens l.world = true) :
    ∃ es r' m, Encounters url (Meets c t url listens) ⟨w, .looking⟩ l.world es r'
        (c.connect t url l).2.world
      ∧ r'.place = .ofResult (redialled (c.connect t url l).1)
      ∧ r'.world.session = (c.connect t url l).2.session
      ∧ (c.connect t url l).2.session.Free ∧ r'.world.callers alone = none
      ∧ Conduct url (.ended (c.connect t url l).1) m
      ∧ Redial.log url ⟨w, .looking⟩ es
        = .looks true :: (m ++ (redialled (c.connect t url l).1).toList.map .returns) := by
  have hlooks : step url ⟨w, .looking⟩ (.looks (listens l.world) alone)
      = some ⟨w.put alone ⟨.call, .check⟩, .connecting alone⟩ := by
    rw [step, hl]
    simp only [Session.World.step_arrive.mpr ⟨hnone, rfl⟩, if_true, Option.map_some]
    rfl
  obtain ⟨es, r₁, outcome, s', x', hes, hat, hs', hdrive⟩ :=
    At.drives c t url 4 l.world (at_put w .check) (Session.willWait_check (hs ▸ hfree))
  have hdrive : Session.drive (c.surroundings t (c.handshake t url)) .call l.session l.world
      = (.ended outcome, s', x') := hs ▸ hdrive
  have hconnect : c.connect t url l = (outcome, ⟨s', x'⟩) := by
    rw [Client.connect, Client.call, hdrive]
  have houtcome : r₁.outcome? alone = some outcome :=
    outcome?_eq_some.mpr (Session.World.stageOf_eq hat.caller)
  have hgoesOn : step url r₁ .goesOn
      = some ⟨r₁.world.without alone, .ofResult (redialled outcome)⟩ := by
    rw [step, hat.place]
    simp only [houtcome, Option.bind_some, Session.World.step_leave.mpr ⟨⟨_, hat.caller⟩, rfl⟩,
      Option.map_some]
  have hstart : Stands url ⟨w, .looking⟩ [] := .looking rfl
  obtain ⟨m, hm, hconduct, hdeeds⟩ :=
    (hes.stands (hstart.step hlooks (by simp))).goesOn hat.place houtcome
  have hlog : Redial.log url ⟨w, .looking⟩ (.looks (listens l.world) alone :: (es ++ [.goesOn]))
      = .looks true :: (m ++ (redialled outcome).toList.map .returns) := by
    rw [Redial.log, Steps.trace_cons hlooks, Steps.trace_concat _ hes.run, ← List.append_assoc,
      hdeeds, ← List.cons_append, ← hm]
    rfl
  rw [hconnect]
  refine ⟨_, _, m, .cons .looks hlooks (hes.calls.append (.single .goesOn hgoesOn)), rfl, ?_, hs', ?_,
    hconduct, hlog⟩
  · exact (leave_of_free (hat.session ▸ hs')).trans hat.session
  · simp only [Session.World.without, Function.update_self]

variable {c t url listens} {n : Nat} {l : Link σ}

theorem reconnect_of_not_listens (hl : listens l.world = false) :
    c.reconnect t url listens (n + 1) l = (some none, l) := by
  rw [Client.reconnect, hl]
  rfl

/-- A round that is the last… -/
theorem reconnect_of_some (hl : listens l.world = true) {result : Option κ}
    (hr : redialled (c.connect t url l).1 = some result) :
    c.reconnect t url listens (n + 1) l = (some result, (c.connect t url l).2) := by
  rw [Client.reconnect, if_pos hl]
  simp only [hr]

/-- …and one that came to nothing. -/
theorem reconnect_of_none (hl : listens l.world = true)
    (hr : redialled (c.connect t url l).1 = none) :
    c.reconnect t url listens (n + 1) l = c.reconnect t url listens n (c.connect t url l).2 := by
  rw [Client.reconnect, if_pos hl]
  simp only [hr]

/-- **More tries change nothing** when opening a stream again is over. -/
theorem reconnect_of_isSome (k : Nat) : ∀ {n : Nat} {l : Link σ},
    (c.reconnect t url listens n l).1.isSome = true →
    c.reconnect t url listens (n + k) l = c.reconnect t url listens n l
  | 0, _, h => by contradiction
  | n + 1, l, h => by
      rw [Nat.add_right_comm]
      cases hl : listens l.world with
      | false => rw [reconnect_of_not_listens hl, reconnect_of_not_listens hl]
      | true =>
        cases hr : redialled (c.connect t url l).1 with
        | some result => rw [reconnect_of_some hl hr, reconnect_of_some hl hr]
        | none =>
          rw [reconnect_of_none hl hr] at h ⊢
          rw [reconnect_of_none hl hr]
          exact reconnect_of_isSome k h

variable (c t url listens)

/-- **Opening a stream again is a run of the loop** without other callers, in which everything that
comes from outside is what the world outside answers.  The loop ends with the result; if there is
none, it has done as many rounds that came to nothing as it had tries, and is about to look again. -/
theorem reconnect_alone : ∀ (n : Nat) (l : Link σ) (w : Session.World κ), w.session = l.session →
    l.session.Free → w.callers alone = none →
    ∃ es r', Encounters url (Meets c t url listens) ⟨w, .looking⟩ l.world es r'
        (c.reconnect t url listens n l).2.world
      ∧ r'.world.session = (c.reconnect t url listens n l).2.session
      ∧ r'.place = .ofResult (c.reconnect t url listens n l).1
      ∧ ((c.reconnect t url listens n l).1 = none → Rounds url n (Redial.log url ⟨w, .looking⟩ es))
  | 0, l, w, hs, _, _ => ⟨[], ⟨w, .looking⟩, .nil _ _, hs, rfl, fun _ => .nil⟩
  | n + 1, l, w, hs, hfree, hnone => by
      cases hl : listens l.world with
      | false =>
        rw [reconnect_of_not_listens hl]
        refine ⟨_, ⟨w, .returned none⟩, .single .looks ?_, hs, rfl, nofun⟩
        rw [hl]
        rfl
      | true =>
        obtain ⟨es, r₁, m, hes, hplace, hs₁, hfree₁, hnone₁, hm, hlog⟩ :=
          connect_alone c t url listens l w hs hfree hnone hl
        cases hr : redialled (c.connect t url l).1 with
        | some result =>
          rw [reconnect_of_some hl hr]
          rw [hr] at hplace
          exact ⟨es, r₁, hes, hs₁, hplace, nofun⟩
        | none =>
          rw [reconnect_of_none hl hr]
          rw [hr] at hplace hlog
          obtain ⟨w₁, _⟩ := r₁
          obtain rfl := hplace
          obtain ⟨es', r', hes', hs', hplace', hrounds⟩ :=
            reconnect_alone n (c.connect t url l).2 w₁ hs₁ hfree₁ hnone₁
          refine ⟨es ++ es', r', hes.append hes', hs', hplace', fun hnot => ?_⟩
          rw [Option.toList_none, List.map_nil, List.append_nil] at hlog
          rw [Redial.log, Steps.trace_append hes.run, ← Redial.log, hlog]
          exact .cons hm hr (hrounds hnot)

end Loop

end Redial

end OrderDesk
