import OrderDesk.Client.Dial
import OrderDesk.Proofs.Session.Retry

/-!
# Proofs/Client/Redial — opening a stream again

    looks ─ served ─ tries ─ dialled ─ renews ─ served ─ tries ─ dialled ─ looks ─ …

A loop opens a stream again: it looks whether anybody listens, and asks for the stream with the
session's credentials, like any other caller and among them.  Its log is what it does.  A log is some
rounds that came to nothing and what stands behind them (`Rounds`, `Stands`), a round is what a call of
the session does (`Conduct`), and so it shows behind each refusal how the loop goes on (`Heeds`).
-/

namespace OrderDesk

open Client (dialOutcome redialled)
open Session (World Obtains Keeps purpose? reported authenticationFailure)

variable {κ : Type}

/-! ## Refusals -/

/-- The service refuses a stream for the token's sake. -/
def Dialled.Rejects (d : Dialled κ) : Prop := d = .refused 401 ∨ d = .refused 403

variable {url : Url} {d : Dialled κ}

theorem dialOutcome_of_rejects (url : Url) (h : d.Rejects) :
    ∃ e, dialOutcome url d = .error e ∧ e.isUnauthorized = true := by
  rcases h with rfl | rfl
  · exact ⟨_, rfl, rfl⟩
  · exact ⟨_, rfl, rfl⟩

/-- **Only the status 401 or 403 rejects credentials.** -/
theorem isUnauthorized_of_not_rejects (h : ¬ d.Rejects) {e : Error}
    (he : dialOutcome url d = .error e) : e.isUnauthorized = false := by
  cases d with
  | opened k => contradiction
  | refused status =>
    rw [dialOutcome, Client.refusal] at he
    obtain rfl := Except.error.inj he
    split
    · refine Bool.eq_false_iff.mpr fun hu => h ?_
      obtain ⟨code, body, heq, hcode⟩ := Error.isUnauthorized_iff.mp hu
      obtain ⟨rfl, -⟩ := Error.status.inj heq
      exact hcode.imp (congrArg Dialled.refused) (congrArg Dialled.refused)
    · rfl
  | failed =>
    obtain rfl := Except.error.inj he
    rfl
  | timedOut =>
    obtain rfl := Except.error.inj he
    rfl

/-- A loop returns a stream that was opened, and nothing behind a rejection. -/
theorem redialled_eq_some {r : Option κ} (h : redialled (dialOutcome url d) = some r) :
    (∃ k, d = .opened k ∧ r = some k) ∨ d.Rejects ∧ r = none := by
  by_cases hd : d.Rejects
  · obtain ⟨e, he, hu⟩ := dialOutcome_of_rejects url hd
    rw [he, redialled, if_pos hu] at h
    exact .inr ⟨hd, (Option.some.inj h).symm⟩
  · cases hr : dialOutcome url d with
    | error e =>
      rw [hr, redialled, isUnauthorized_of_not_rejects hd hr] at h
      contradiction
    | ok k =>
      rw [hr] at h
      cases d with
      | opened k' =>
        obtain rfl := Except.ok.inj hr
        exact .inl ⟨k', rfl, (Option.some.inj h).symm⟩
      | _ => contradiction

/-- It goes on behind what is no rejection. -/
theorem not_rejects_of_redialled (h : redialled (dialOutcome url d) = none) : ¬ d.Rejects := by
  intro hd
  obtain ⟨e, he, hu⟩ := dialOutcome_of_rejects url hd
  rw [he, redialled, if_pos hu] at h
  contradiction

/-- …and so it does behind a token that could not be got. -/
theorem redialled_authenticationFailure (e : Error) :
    redialled (.error (authenticationFailure e) : Except Error κ) = none := by
  obtain ⟨reason, hreason, -⟩ := Session.authenticationFailure_eq e
  rw [hreason]
  rfl

/-! ## The loop -/

namespace Redial

/-- Where a loop is. -/
inductive Place (κ : Type) where
  /-- About to look whether anybody listens. -/
  | looking
  /-- Asking for the stream, as a caller of the session. -/
  | connecting (id : Nat)
  /-- At its end. -/
  | returned (r : Option κ)

/-- Where a loop goes with what opening the stream came to. -/
def Place.ofResult : Option (Option κ) → Place κ
  | some r => returned r
  | none => looking

end Redial

/-- **A loop that opens a stream again,** among the callers of its session. -/
structure Redial (κ : Type) where
  world : World κ
  place : Redial.Place κ

namespace Redial

/-- What can happen around a loop. -/
inductive Event (κ : Type) where
  /-- It looks whether anybody listens, and calls if somebody does. -/
  | looks (listens : Bool) (id : Nat)
  /-- Its attempt to open the stream ends. -/
  | dialled (d : Dialled κ)
  /-- Its call has ended, and it goes on. -/
  | goesOn
  /-- Anything else around the session. -/
  | session (e : Session.Event κ)

/-- Whether an event is the end of an attempt of a caller, or of the caller. -/
def ends (id : Nat) : Session.Event κ → Bool
  | .attemptEnds id' _ => id' = id
  | .leave id' => id' = id
  | _ => false

variable {r r' : Redial κ}

/-- What the loop's call has come to. -/
def outcome? (r : Redial κ) (id : Nat) : Option (Except Error κ) :=
  match r.world.stageOf id with
  | some (.ended outcome) => some outcome
  | _ => none

/-- **What an event does,** where it can come. -/
def step (url : Url) (r : Redial κ) : Event κ → Option (Redial κ)
  | .looks listens id =>
    match r.place with
    | .looking =>
      if listens then (r.world.step (.arrive id .call)).map (Redial.mk · (.connecting id))
      else some ⟨r.world, .returned none⟩
    | _ => none
  | .dialled d =>
    match r.place with
    | .connecting id =>
      (r.world.step (.attemptEnds id (dialOutcome url d))).map (Redial.mk · (.connecting id))
    | _ => none
  | .goesOn =>
    match r.place with
    | .connecting id => (r.outcome? id).bind fun outcome =>
      (r.world.step (.leave id)).map (Redial.mk · (.ofResult (redialled outcome)))
    | _ => none
  | .session e =>
    match r.place with
    | .connecting id =>
      if ends id e then none else (r.world.step e).map (Redial.mk · (.connecting id))
    | place => (r.world.step e).map (Redial.mk · place)

/-- **A run:** events one after the other. -/
abbrev run (url : Url) (r : Redial κ) (es : List (Event κ)) : Option (Redial κ) :=
  Steps.run (step url) r es

/-! ### What it does -/

/-- Something that a loop does, or that comes of it. -/
inductive Deed (κ : Type) where
  /-- It looks whether anybody listens. -/
  | looks (listens : Bool)
  /-- What a caller of the session does. -/
  | does (d : Session.Deed κ)
  /-- Its attempt to open the stream ends. -/
  | dialled (d : Dialled κ)
  /-- It asks for another token in place of a rejected one. -/
  | renews (t : Token)
  /-- It comes to its end. -/
  | returns (r : Option κ)

/-- What a caller asks for that goes for another token. -/
def renewals : Stage κ → List (Deed κ)
  | .request (.replace t) => [.renews t]
  | _ => []

/-- What a loop does when an event comes. -/
def deeds (url : Url) (r : Redial κ) : Event κ → List (Deed κ)
  | .looks listens _ => if listens then [.looks true] else [.looks false, .returns none]
  | .dialled d =>
    match r.place with
    | .connecting id =>
      match r.world.stageOf id with
      | some (.attempt p t) => .dialled d :: renewals (Session.attemptEnded p t (dialOutcome url d))
      | _ => []
    | _ => []
  | .goesOn =>
    match r.place with
    | .connecting id => ((r.outcome? id).bind redialled).toList.map .returns
    | _ => []
  | .session e =>
    match r.place with
    | .connecting id => (r.world.deeds id e).map .does
    | _ => []

/-- **What a loop does in a run.** -/
def log (url : Url) (r : Redial κ) (es : List (Event κ)) : List (Deed κ) :=
  Steps.trace (step url) (deeds url) r es

/-! ## A round -/

/-- What a call has done when it goes for a token: nothing, or asked for the stream once with a token
that was rejected. -/
inductive Opened : Purpose → List (Deed κ) → Prop
  | first : Opened .refresh []
  | again {t : Token} {m : List (Session.Deed κ)} {d : Dialled κ}
      (hm : Obtains .refresh (.ok t) m) (hd : d.Rejects) :
      Opened (.replace t) (m.map .does ++ [.does (.tries t), .dialled d, .renews t])

/-- **Where a call is and what it has done** since it went for a token. -/
inductive Pursues (url : Url) (p : Purpose) : Stage κ → List (Deed κ) → Prop
  | seeks {stage : Stage κ} (hs : purpose? stage = some p) : Pursues url p stage []
  | asks : Pursues url p (.exchange p) [.does .asks]
  | told (t : Token) : Pursues url p (.store p t) [.does .asks, .does (.told (.ok t))]
  | found (t : Token) : Pursues url p (.release p (.ok t)) []
  | ready (r : Except Error Token) :
      Pursues url p (.release p (reported r)) [.does .asks, .does (.told r)]
  | tries {t : Token} {m : List (Session.Deed κ)} (hm : Obtains p (.ok t) m) :
      Pursues url p (.attempt p t) (m.map .does ++ [.does (.tries t)])
  | dialled {t : Token} {m : List (Session.Deed κ)} (hm : Obtains p (.ok t) m) {d : Dialled κ}
      (hd : p = .refresh → ¬ d.Rejects) :
      Pursues url p (.ended (dialOutcome url d)) (m.map .does ++ [.does (.tries t), .dialled d])
  | fails (e : Error) {m : List (Session.Deed κ)}
      (hm : Obtains p (.error (authenticationFailure e)) m) :
      Pursues url p (.ended (.error (authenticationFailure e))) (m.map .does)

/-- **Where a call is and what it has done** to open the stream. -/
inductive Conduct (url : Url) (stage : Stage κ) : List (Deed κ) → Prop
  | mk {p : Purpose} {l m : List (Deed κ)} (h : Opened p l) (hm : Pursues url p stage m) :
      Conduct url stage (l ++ m)

/-! ### One step of a round -/

variable {now : Int64} {id : Nat} {s : Session} {stage : Stage κ} {p : Purpose} {t : Token}
  {l : List (Deed κ)}

variable {m : List (Deed κ)}

/-- A step without a deed. -/
theorem Pursues.still (h : Pursues url p stage m) :
    Pursues url p stage (m ++ ([] : List (Session.Deed κ)).map .does) := by
  rwa [List.map_nil, List.append_nil]

theorem Pursues.advance (h : Pursues url p stage m) :
    Pursues url p (Session.advance now id .call s stage).2
      (m ++ (Session.between stage (Session.advance now id .call s stage).2).map .does) := by
  cases h with
  | seeks hs =>
    rcases Session.advance_of_purpose? now id s hs with
      ⟨hs', hb⟩ | ⟨hs', hb⟩ | ⟨t, ⟨hs', hb⟩ | ⟨hs', hb⟩⟩
    · rw [hb]
      exact .seeks hs'
    · rw [hb, hs']
      exact .asks
    · rw [hb, hs']
      exact .found t
    · rw [hb, hs']
      exact .tries (.cached t)
  | asks => exact .asks
  | told t => exact .ready (.ok t)
  | found t => exact .tries (.cached t)
  | ready r =>
    cases r with
    | ok t => exact .tries (.exchanged (.ok t))
    | error e => exact .fails e (.exchanged (.error e))
  | tries hm => exact (Pursues.tries hm).still
  | dialled hm hd => exact (Pursues.dialled hm hd).still
  | fails e hm => exact (Pursues.fails e hm).still

theorem Pursues.exchangeEnded {p' : Purpose} {r : Except Error Token}
    (h : Pursues url p (.exchange p') m) :
    Pursues url p (Session.exchangeEnded p' r) (m ++ [.does (.told r)]) := by
  cases h with
  | seeks hs => contradiction
  | asks =>
    cases r with
    | ok t => exact .told t
    | error e => exact .ready (.error e)

/-- What a call tries for a token's purpose, it does at the end of its log. -/
theorem Pursues.attempt {p' : Purpose} (h : Pursues url p (.attempt p' t) m) :
    p' = p ∧ ∃ m', Obtains p (.ok t) m' ∧ m = m'.map .does ++ [.does (.tries t)] := by
  cases h with
  | seeks hs => contradiction
  | tries hm => exact ⟨rfl, _, hm, rfl⟩

/-- **A call goes on on its own.** -/
theorem Conduct.advance (h : Conduct url stage l) :
    Conduct url (Session.advance now id .call s stage).2
      (l ++ (Session.between stage (Session.advance now id .call s stage).2).map .does) := by
  obtain ⟨h, hm⟩ := h
  rw [List.append_assoc]
  exact ⟨h, hm.advance⟩

/-- An exchange ends. -/
theorem Conduct.exchangeEnded {r : Except Error Token} (h : Conduct url (.exchange p) l) :
    Conduct url (Session.exchangeEnded p r) (l ++ [.does (.told r)]) := by
  obtain ⟨h, hm⟩ := h
  rw [List.append_assoc]
  exact ⟨h, hm.exchangeEnded⟩

/-- **An attempt to open the stream ends:** a first rejection sends the call for another token, all
else ends it. -/
theorem Conduct.attemptEnded (h : Conduct url (.attempt p t) l) (d : Dialled κ) :
    Conduct url (Session.attemptEnded p t (dialOutcome url d))
      (l ++ .dialled d :: renewals (Session.attemptEnded p t (dialOutcome url d))) := by
  obtain @⟨_, l₀, _, h, hpursues⟩ := h
  obtain ⟨rfl, m, hm, rfl⟩ := hpursues.attempt
  have hends (hd : p = .refresh → ¬ d.Rejects) : Conduct url (.ended (dialOutcome url d))
      (l₀ ++ (m.map .does ++ [.does (.tries t)]) ++ [.dialled d]) := by
    rw [List.append_assoc, List.append_assoc]
    exact ⟨h, .dialled hm hd⟩
  cases p with
  | replace rejected => exact hends fun hp => by contradiction
  | refresh =>
    by_cases hd : d.Rejects
    · obtain ⟨e, he, hu⟩ := dialOutcome_of_rejects url hd
      rw [he, Session.attemptEnded, if_pos hu]
      -- a first attempt: nothing was done before its token was got
      cases h with
      | first =>
        rw [List.nil_append, List.append_assoc, ← List.append_nil (_ ++ _)]
        exact ⟨.again hm hd, .seeks rfl⟩
    · cases hr : dialOutcome url d with
      | ok k =>
        rw [hr] at hends
        exact hends fun _ => hd
      | error e =>
        rw [hr] at hends
        rw [Session.attemptEnded, isUnauthorized_of_not_rejects hd hr]
        exact hends fun _ => hd

/-! ## When an event can come -/

theorem place_of_looks {listens : Bool} (h : step url r (.looks listens id) = some r') :
    r.place = .looking ∧ (listens = true ∧ r.world.callers id = none
          ∧ r' = ⟨r.world.put id ⟨.call, .check⟩, .connecting id⟩
        ∨ listens = false ∧ r' = ⟨r.world, .returned none⟩) := by
  rw [step] at h
  split at h
  · next hp =>
    refine ⟨hp, ?_⟩
    cases listens with
    | true =>
      obtain ⟨w, hw, rfl⟩ := Option.map_eq_some_iff.mp h
      obtain ⟨hnone, rfl⟩ := World.step_arrive.mp hw
      exact .inl ⟨rfl, hnone, rfl⟩
    | false => exact .inr ⟨rfl, (Option.some.inj h).symm⟩
  · contradiction

theorem place_of_dialled (h : step url r (.dialled d) = some r') :
    ∃ id goal p t, r.place = .connecting id ∧ r.world.callers id = some ⟨goal, .attempt p t⟩
      ∧ r' = ⟨r.world.put id ⟨goal, Session.attemptEnded p t (dialOutcome url d)⟩,
        .connecting id⟩ := by
  rw [step] at h
  split at h
  · next id hp =>
    obtain ⟨w, hw, rfl⟩ := Option.map_eq_some_iff.mp h
    obtain ⟨goal, p, t, hc, rfl⟩ := World.step_attemptEnds.mp hw
    exact ⟨id, goal, p, t, hp, hc, rfl⟩
  · contradiction

theorem outcome?_eq_some {outcome : Except Error κ} :
    r.outcome? id = some outcome ↔ r.world.stageOf id = some (.ended outcome) := by
  rw [outcome?]
  split
  · next outcome' h => simp [h]
  · next hne => exact iff_of_false nofun fun h => hne outcome h

theorem place_of_goesOn (h : step url r .goesOn = some r') :
    ∃ id outcome, r.place = .connecting id ∧ r.outcome? id = some outcome
      ∧ r' = ⟨r.world.without id, .ofResult (redialled outcome)⟩ := by
  rw [step] at h
  split at h
  · next id hp =>
    obtain ⟨outcome, ho, hmap⟩ := Option.bind_eq_some_iff.mp h
    obtain ⟨w, hw, rfl⟩ := Option.map_eq_some_iff.mp hmap
    obtain ⟨-, rfl⟩ := World.step_leave.mp hw
    exact ⟨id, outcome, hp, ho, rfl⟩
  · contradiction

theorem place_of_session {e : Session.Event κ} (h : step url r (.session e) = some r') :
    r.world.step e = some r'.world ∧ r'.place = r.place
      ∧ ∀ id, r.place = .connecting id → ends id e = false := by
  rw [step] at h
  split at h
  · next id hp =>
    split at h
    · contradiction
    · next he =>
      obtain ⟨w, hw, rfl⟩ := Option.map_eq_some_iff.mp h
      refine ⟨hw, hp.symm, fun id' hp' => ?_⟩
      obtain rfl := Place.connecting.inj (hp.symm.trans hp')
      exact Bool.eq_false_iff.mpr he
  · next hp =>
    obtain ⟨w, hw, rfl⟩ := Option.map_eq_some_iff.mp h
    exact ⟨hw, rfl, fun id' hp' => absurd hp' (hp id')⟩

/-! ## What a loop has done -/

/-- A number of rounds that came to nothing. -/
inductive Rounds (url : Url) : Nat → List (Deed κ) → Prop
  | nil : Rounds url 0 []
  | cons {outcome : Except Error κ} {n : Nat} {m l : List (Deed κ)}
      (hm : Conduct url (.ended outcome) m) (ho : redialled outcome = none) (hl : Rounds url n l) :
      Rounds url (n + 1) (.looks true :: (m ++ l))

/-- **Where a loop is and what it has done** behind such rounds. -/
inductive Stands (url : Url) (r : Redial κ) : List (Deed κ) → Prop
  | looking (hp : r.place = .looking) : Stands url r []
  | connecting {id : Nat} {stage : Stage κ} {m : List (Deed κ)} (hp : r.place = .connecting id)
      (hc : r.world.callers id = some ⟨.call, stage⟩) (hm : Conduct url stage m) :
      Stands url r (.looks true :: m)
  | gone (hp : r.place = .returned none) : Stands url r [.looks false, .returns none]
  | returned {outcome : Except Error κ} {o : Option κ} {m : List (Deed κ)}
      (hp : r.place = .returned o) (hm : Conduct url (.ended outcome) m)
      (ho : redialled outcome = some o) : Stands url r (.looks true :: (m ++ [.returns o]))

/-- **What a loop has done:** rounds, and what stands behind them. -/
def Course (url : Url) (r : Redial κ) (l : List (Deed κ)) : Prop :=
  ∃ n l₁ l₂, l = l₁ ++ l₂ ∧ Rounds url n l₁ ∧ Stands url r l₂

theorem Rounds.concat {outcome : Except Error κ} {n : Nat} {l m : List (Deed κ)}
    (hl : Rounds url n l) (hm : Conduct url (.ended outcome) m) (ho : redialled outcome = none) :
    Rounds url (n + 1) (l ++ .looks true :: m) := by
  induction hl with
  | nil =>
    have h := Rounds.cons hm ho .nil
    rwa [List.append_nil] at h
  | cons hm' ho' _ ih =>
    rw [List.cons_append, List.append_assoc]
    exact .cons hm' ho' ih

/-- What happens elsewhere leaves a round as it is; what a call does goes on with it. -/
theorem Conduct.session {w w' : World κ} {e : Session.Event κ}
    (hc : w.callers id = some ⟨.call, stage⟩) (hm : Conduct url stage l) (he : w.step e = some w')
    (hends : ends id e = false) :
    ∃ stage', w'.callers id = some ⟨.call, stage'⟩
      ∧ Conduct url stage' (l ++ (w.deeds id e).map .does) := by
  have hstay : e ≠ .leave id := by
    rintro rfl
    simp [ends] at hends
  obtain ⟨stage', m, hc', hdeeds, hturn⟩ := Session.step_turn hc he hstay
  refine ⟨stage', hc', ?_⟩
  rw [hdeeds]
  cases hturn with
  | rests =>
    rw [List.map_nil, List.append_nil]
    exact hm
  | advances hidle => exact hm.advance
  | told p r => exact hm.exchangeEnded
  | gets p t r => simp [ends] at hends

/-- What stands behind the rounds of a loop that is asking for the stream. -/
theorem Stands.exists_conduct {l : List (Deed κ)} (h : Stands url r l)
    (hp : r.place = .connecting id) : ∃ stage m, l = .looks true :: m
      ∧ r.world.callers id = some ⟨.call, stage⟩ ∧ Conduct url stage m := by
  cases h with
  | @connecting id' stage m hp' hc hm =>
    obtain rfl := Place.connecting.inj (hp.symm.trans hp')
    exact ⟨stage, m, rfl, hc, hm⟩
  | looking hp' => exact absurd (hp.symm.trans hp') nofun
  | gone hp' => exact absurd (hp.symm.trans hp') nofun
  | returned hp' => exact absurd (hp.symm.trans hp') nofun

theorem Stands.eq_nil {l : List (Deed κ)} (h : Stands url r l) (hp : r.place = .looking) :
    l = [] := by
  cases h with
  | looking _ => rfl
  | connecting hp' => exact absurd (hp.symm.trans hp') nofun
  | gone hp' => exact absurd (hp.symm.trans hp') nofun
  | returned hp' => exact absurd (hp.symm.trans hp') nofun

/-- A loop that is not asking for the stream has nothing to do with its session. -/
theorem Stands.of_place {l : List (Deed κ)} (h : Stands url r l) (hp : r'.place = r.place)
    (hnot : ∀ id, r.place ≠ .connecting id) : Stands url r' l := by
  cases h with
  | looking hp' => exact .looking (hp.trans hp')
  | connecting hp' _ _ => exact absurd hp' (hnot _)
  | gone hp' => exact .gone (hp.trans hp')
  | returned hp' hm ho => exact .returned (hp.trans hp') hm ho

/-- **What stands behind the rounds goes on** until the call is over. -/
theorem Stands.step {l : List (Deed κ)} {e : Event κ} (h : Stands url r l)
    (he : Redial.step url r e = some r') (hne : e ≠ .goesOn) : Stands url r' (l ++ deeds url r e) := by
  cases e with
  | looks listens id =>
    obtain ⟨hp, ⟨rfl, hnone, rfl⟩ | ⟨rfl, rfl⟩⟩ := place_of_looks he
    · obtain rfl := h.eq_nil hp
      exact .connecting rfl (Function.update_self ..) (.mk .first (.seeks rfl))
    · obtain rfl := h.eq_nil hp
      exact .gone rfl
  | dialled d =>
    obtain ⟨id, goal, p, t, hp, hc, rfl⟩ := place_of_dialled he
    obtain ⟨stage, m, rfl, hc', hm⟩ := h.exists_conduct hp
    obtain ⟨rfl, rfl⟩ := Session.Caller.mk.inj (Option.some.inj (hc.symm.trans hc'))
    rw [deeds, hp]
    simp only [World.stageOf_eq hc]
    exact .connecting rfl (Function.update_self ..) (hm.attemptEnded d)
  | goesOn => contradiction
  | session e =>
    obtain ⟨hw, hp, hends⟩ := place_of_session he
    rw [deeds]
    cases hp' : r.place with
    | connecting id =>
      obtain ⟨stage, m, rfl, hc, hm⟩ := h.exists_conduct hp'
      obtain ⟨stage', hc', hm'⟩ := hm.session hc hw (hends id hp')
      exact .connecting (hp.trans hp') hc' hm'
    | looking =>
      rw [List.append_nil]
      exact h.of_place hp fun id hid => by rw [hp'] at hid; contradiction
    | returned o =>
      rw [List.append_nil]
      exact h.of_place hp fun id hid => by rw [hp'] at hid; contradiction

/-- **When it is over** a round has been done, and the loop returns what it leads to, if anything. -/
theorem Stands.goesOn {outcome : Except Error κ} {l : List (Deed κ)} (h : Stands url r l)
    (hp : r.place = .connecting id) (ho : r.outcome? id = some outcome) :
    ∃ m, l = .looks true :: m ∧ Conduct url (.ended outcome) m
      ∧ deeds url r .goesOn = (redialled outcome).toList.map .returns := by
  obtain ⟨stage, m, rfl, hc, hm⟩ := h.exists_conduct hp
  obtain rfl := Option.some.inj ((World.stageOf_eq hc).symm.trans (outcome?_eq_some.mp ho))
  refine ⟨m, rfl, hm, ?_⟩
  rw [deeds, hp]
  simp only [ho, Option.bind_some]

/-- **Every event keeps to the course.** -/
theorem Course.step {l : List (Deed κ)} {e : Event κ} (h : Course url r l)
    (he : Redial.step url r e = some r') : Course url r' (l ++ deeds url r e) := by
  obtain ⟨n, l₁, l₂, rfl, hl₁, hl₂⟩ := h
  rw [List.append_assoc]
  by_cases hgo : e = .goesOn
  · subst hgo
    obtain ⟨id, outcome, hp, ho, rfl⟩ := place_of_goesOn he
    obtain ⟨m, rfl, hm, hdeeds⟩ := hl₂.goesOn hp ho
    rw [hdeeds]
    cases hr : redialled outcome with
    | none => exact ⟨n + 1, _, [], by simp, hl₁.concat hm hr, .looking rfl⟩
    | some o => exact ⟨n, l₁, _, rfl, hl₁, .returned rfl hm hr⟩
  · exact ⟨n, l₁, _, rfl, hl₁, hl₂.step he hgo⟩

/-- **So does every run.** -/
theorem run_course {es : List (Event κ)} (hp : r.place = .looking) (hrun : r.run url es = some r') :
    Course url r' (r.log url es) := by
  refine Steps.run_induction (P := fun es r' => Course url r' (r.log url es))
    ⟨0, [], [], rfl, .nil, .looking hp⟩ (fun es r₁ e r₂ hr₁ he h => ?_) hrun
  rw [log, Steps.trace_concat e hr₁]
  exact h.step he

end Redial

end OrderDesk
