import OrderDesk.Proofs.Session.Exchange
import OrderDesk.Proofs.Session.Retry

/-!
# Proofs/Session/Newest — no token comes back

    exchange 1 ──▸ cached      exchange 2 ──▸ failed      exchange 3 ──▸ cached ──▸ …

A token is cached some time after its exchange has ended, and in between the cached one may be read,
compared and dropped without the lock.  `Journal` notes beside a run which exchange is whose, what came
of it and which tokens were cached.  Whoever is about to cache a token holds it from the exchange that
was started last (`Booked`), so tokens are cached in the order of their exchanges, and an exchange that
failed is none of these.
-/

namespace OrderDesk

variable {α : Type}

/-- Whether an exchange of a caller is in flight, or its token is about to be cached. -/
def Stage.trading : Stage α → Bool
  | .exchange _ => true
  | .store _ _ => true
  | _ => false

theorem Stage.locked_of_trading : ∀ {stage : Stage α}, stage.trading = true → stage.locked = true
  | .exchange _, _ => rfl
  | .store _ _, _ => rfl

theorem Stage.inLine_of_trading {stage : Stage α} (h : stage.trading = true) :
    stage.inLine = true :=
  inLine_of_locked (locked_of_trading h)

namespace Session

open World (step_exchangeEnds)

/-! ## Exchanges and what came of them -/

/-- **The exchanges of a run,** numbered as they start. -/
structure Journal where
  /-- Which exchange a caller has started last. -/
  number : Nat → Nat
  /-- What exchanges gave, in the order in which they ended. -/
  results : List (Nat × Except Error Token)
  /-- The tokens that were cached, each with the exchange that gave it, the last one at the end. -/
  cached : List (Nat × Token)

namespace Journal

/-- Before the first exchange. -/
def empty : Journal := ⟨fun _ => 0, [], []⟩

/-- A caller has started an exchange. -/
def begun (j : Journal) (id n : Nat) : Journal := { j with number := Function.update j.number id n }

/-- The exchange of a caller has ended. -/
def ended (j : Journal) (id : Nat) (r : Except Error Token) : Journal :=
  { j with results := j.results ++ [(j.number id, r)] }

/-- A caller has cached the token of its exchange. -/
def stored (j : Journal) (id : Nat) (t : Token) : Journal :=
  { j with cached := j.cached ++ [(j.number id, t)] }

/-- What is noted of an event. -/
def note (j : Journal) (w : World α) : Event α → Journal
  | .advance id =>
    match w.stageOf id with
    | some (.unserved _) => j.begun id (w.started + 1)
    | some (.store _ t) => j.stored id t
    | _ => j
  | .exchangeEnds id r => j.ended id r
  | _ => j

end Journal

/-- **What is noted of a run.** -/
def World.journal (w : World α) (es : List (Event α)) : Journal :=
  Steps.tally step Journal.note .empty w es

/-! ## One step -/

variable {w w' : World α} {j : Journal} {id : Nat} {stage : Stage α} {ev : Event α}

/-- What is no step of a caller and ends no exchange is not noted. -/
theorem Journal.note_eq (hadvance : ∀ id, ev ≠ .advance id) (hends : ∀ id r, ev ≠ .exchangeEnds id r) :
    j.note w ev = j := by
  cases ev with
  | advance id => exact absurd rfl (hadvance id)
  | exchangeEnds id r => exact absurd rfl (hends id r)
  | _ => rfl

/-- What is noted as cached changes only where a caller caches a token. -/
theorem Journal.cached_note
    (hstore : ∀ id p t, ev = .advance id → w.stageOf id ≠ some (.store p t)) :
    (j.note w ev).cached = j.cached := by
  cases ev with
  | advance id =>
    rw [note]
    split
    · rfl
    · next p t hat => exact absurd hat (hstore id p t rfl)
    · rfl
  | _ => rfl

/-- On its own a caller comes to an exchange only by starting it, and never to caching a token. -/
theorem trading_advance {now : Int64} {goal : Goal} {s : Session} (hidle : stage.idle s id = false)
    (h : (advance now id goal s stage).2.trading = true) : ∃ p, stage = .unserved p := by
  have hfrom := advance_cameFrom now id goal s stage
  generalize (advance now id goal s stage).2 = stage' at h hfrom
  cases stage' with
  | exchange p =>
    refine ⟨p, hfrom.resolve_left fun hs => ?_⟩
    rw [hs] at hidle
    contradiction
  | store p t => exact hfrom.elim
  | _ => contradiction

/-- **What is known of the exchanges of a run.**  Of a caller whose exchange is in flight, or whose
token is about to be cached, that is the exchange started last; the former has given nothing yet, and
the latter no token that was cached. -/
structure Booked (w : World α) (j : Journal) : Prop where
  inFlight : ∀ id p, w.stageOf id = some (.exchange p) →
    j.number id = w.started ∧ 0 < w.started ∧ ∀ x ∈ j.results, x.1 < w.started
  atHand : ∀ id p t, w.stageOf id = some (.store p t) →
    j.number id = w.started ∧ (w.started, .ok t) ∈ j.results ∧ ∀ x ∈ j.cached, x.1 < w.started
  number_pos : ∀ x ∈ j.results, 0 < x.1
  number_le : ∀ x ∈ j.results, x.1 ≤ w.started
  nodup : (j.results.map Prod.fst).Nodup
  issued : ∀ x ∈ j.cached, (x.1, .ok x.2) ∈ j.results
  ordered : j.cached.Pairwise (·.1 < ·.1)
  newest : ∀ t, w.session.token = some t → ∃ n, j.cached.getLast? = some (n, t)

theorem opening_booked (margin : Duration) (now : Int64) :
    Booked (World.opening (α := α) margin none now) .empty where
  inFlight _ _ hat := absurd hat nofun
  atHand _ _ _ hat := absurd hat nofun
  number_pos _ hx := absurd hx List.not_mem_nil
  number_le _ hx := absurd hx List.not_mem_nil
  nodup := List.nodup_nil
  issued _ hx := absurd hx List.not_mem_nil
  ordered := .nil
  newest _ ht := absurd ht nofun

namespace Booked

/-- What starts no exchange, ends none and caches nothing leaves the journal right. -/
theorem quiet (h : Booked w j) (hstarted : w'.started = w.started)
    (htoken : ∀ t, w'.session.token = some t → w.session.token = some t)
    (hstages : ∀ id stage, w'.stageOf id = some stage → stage.trading = true →
      w.stageOf id = some stage) : Booked w' j where
  inFlight id p hat := by
    rw [hstarted]
    exact h.inFlight id p (hstages id _ hat rfl)
  atHand id p t hat := by
    rw [hstarted]
    exact h.atHand id p t (hstages id _ hat rfl)
  number_pos := h.number_pos
  number_le := hstarted ▸ h.number_le
  nodup := h.nodup
  issued := h.issued
  ordered := h.ordered
  newest t ht := h.newest t (htoken t ht)

/-- While a caller holds the lock, nobody else has an exchange in flight or a token at hand. -/
theorem trading_update {c : Caller α} {s : Stage α} {id' : Nat} (ho : w.Orderly)
    (hc : w.callers id = some c) (hl : c.stage.locked = true)
    (hupdate : ∀ id', w'.stageOf id' = if id' = id then some s else w.stageOf id')
    (hat : w'.stageOf id' = some stage) (ht : stage.trading = true) : id' = id ∧ stage = s := by
  rw [hupdate] at hat
  split at hat
  · next heq => exact ⟨heq, (Option.some.inj hat).symm⟩
  · next hne =>
    have hat' : w.stageOf id = some c.stage := World.stageOf_eq hc
    exact absurd (ho.eq_of_locked hat hat' (Stage.locked_of_trading ht) hl) hne

/-- **A caller starts an exchange.** -/
theorem begun {c : Caller α} {p : Purpose} (h : Booked w j) (ho : w.Orderly)
    (hc : w.callers id = some c) (hs : c.stage = .unserved p) :
    Booked (w.moved id c) (j.begun id (w.started + 1)) := by
  have hstarted : (w.moved id c).started = w.started + 1 := by rw [World.moved, hs]; rfl
  have hlt : ∀ x ∈ j.results, x.1 < w.started + 1 := fun x hx => Nat.lt_succ_of_le (h.number_le x hx)
  have hown : ∀ id' stage, (w.moved id c).stageOf id' = some stage → stage.trading = true →
      id' = id ∧ stage = (advance w.now id c.goal w.session c.stage).2 := fun _ _ =>
    trading_update ho hc (by rw [hs]; rfl) (World.stageOf_moved w id c)
  constructor
  · intro id' p' hat
    obtain ⟨rfl, -⟩ := hown id' _ hat rfl
    rw [hstarted]
    exact ⟨Function.update_self .., Nat.succ_pos _, hlt⟩
  · intro id' p' t hat
    obtain ⟨-, hat⟩ := hown id' _ hat rfl
    rw [hs] at hat
    cases hat
  · exact h.number_pos
  · rw [hstarted]
    exact fun x hx => Nat.le_of_lt (hlt x hx)
  · exact h.nodup
  · exact h.issued
  · exact h.ordered
  · intro t ht
    refine h.newest t ?_
    rwa [World.moved, advance_token fun p t hst => by rw [hs] at hst; contradiction] at ht

/-- **The exchange of a caller ends.** -/
theorem ended {goal : Goal} {p : Purpose} {r : Except Error Token} (h : Booked w j) (ho : w.Orderly)
    (hc : w.callers id = some ⟨goal, .exchange p⟩) :
    Booked (w.put id ⟨goal, exchangeEnded p r⟩) (j.ended id r) := by
  obtain ⟨hnumber, hpos, hlt⟩ := h.inFlight id p (World.stageOf_eq hc)
  have hown : ∀ id' stage, (w.put id ⟨goal, exchangeEnded p r⟩).stageOf id' = some stage →
      stage.trading = true → id' = id ∧ stage = exchangeEnded p r := fun _ _ =>
    trading_update ho hc rfl (World.stageOf_put w id _)
  have hresults : (j.ended id r).results = j.results ++ [(w.started, r)] := by
    rw [Journal.ended, hnumber]
  constructor
  · intro id' p' hat
    obtain ⟨rfl, hend⟩ := hown id' _ hat rfl
    cases r <;> cases hend
  · intro id' p' t hat
    obtain ⟨rfl, hend⟩ := hown id' _ hat rfl
    refine ⟨hnumber, ?_, fun x hx => hlt _ (h.issued x hx)⟩
    rw [hresults]
    cases r with
    | error e => cases hend
    | ok t' =>
      obtain ⟨-, rfl⟩ := Stage.store.inj hend
      exact List.mem_append_right _ (List.mem_singleton_self _)
  · rw [hresults]
    intro x hx
    rcases List.mem_append.mp hx with hx | hx
    · exact h.number_pos x hx
    · rw [List.mem_singleton.mp hx]
      exact hpos
  · rw [hresults]
    intro x hx
    rcases List.mem_append.mp hx with hx | hx
    · exact h.number_le x hx
    · rw [List.mem_singleton.mp hx]
      exact Nat.le_refl _
  · rw [hresults, List.map_append, List.map_singleton]
    refine h.nodup.append (List.nodup_singleton _) (List.disjoint_singleton.mpr fun hmem => ?_)
    obtain ⟨x, hx, heq⟩ := List.mem_map.mp hmem
    exact Nat.lt_irrefl _ (heq ▸ hlt x hx)
  · rw [hresults]
    exact fun x hx => List.mem_append_left _ (h.issued x hx)
  · exact h.ordered
  · exact h.newest

/-- **A caller caches the token of its exchange,** and that is the newest. -/
theorem stored {c : Caller α} {p : Purpose} {t : Token} (h : Booked w j) (ho : w.Orderly)
    (hc : w.callers id = some c) (hs : c.stage = .store p t) :
    Booked (w.moved id c) (j.stored id t) := by
  have hat : w.stageOf id = some (.store p t) := hs ▸ World.stageOf_eq hc
  obtain ⟨hnumber, hmem, hlt⟩ := h.atHand id p t hat
  have hstarted : (w.moved id c).started = w.started := by rw [World.moved, hs]; rfl
  have hnone : ∀ id' stage, (w.moved id c).stageOf id' = some stage → ¬ stage.trading = true := by
    intro id' stage hat ht
    obtain ⟨-, rfl⟩ := trading_update ho hc (by rw [hs]; rfl) (World.stageOf_moved w id c) hat ht
    rw [hs] at ht
    contradiction
  have hcached : (j.stored id t).cached = j.cached ++ [(w.started, t)] := by
    rw [Journal.stored, hnumber]
  constructor
  · exact fun id' p' hat => absurd rfl (hnone id' _ hat)
  · exact fun id' p' t' hat => absurd rfl (hnone id' _ hat)
  · exact h.number_pos
  · rw [hstarted]
    exact h.number_le
  · exact h.nodup
  · rw [hcached]
    intro x hx
    rcases List.mem_append.mp hx with hx | hx
    · exact h.issued x hx
    · rw [List.mem_singleton.mp hx]
      exact hmem
  · rw [hcached, List.pairwise_append]
    refine ⟨h.ordered, List.pairwise_singleton _ _, fun x hx y hy => ?_⟩
    rw [List.mem_singleton.mp hy]
    exact hlt x hx
  · intro t' ht
    rw [World.moved, hs] at ht
    obtain rfl := Option.some.inj ht
    rw [hcached, List.getLast?_concat]
    exact ⟨_, rfl⟩

/-- A step of a caller on its own keeps the journal right. -/
theorem moved {c : Caller α} (h : Booked w j) (ho : w.Orderly) (hc : w.callers id = some c)
    (hidle : c.stage.idle w.session id = false) :
    Booked (w.moved id c) (j.note w (.advance id)) := by
  have hat : w.stageOf id = some c.stage := World.stageOf_eq hc
  rw [Journal.note, hat]
  split
  · next p hs => exact h.begun ho hc (Option.some.inj hs)
  · next p t hs => exact h.stored ho hc (Option.some.inj hs)
  · next hunserved hstore =>
    refine h.quiet (started_moved w id fun p hs => hunserved p (congrArg some hs)) (fun t ht => ?_)
      fun id' stage hat' ht => ?_
    · rwa [World.moved, advance_token fun p t hs => hstore p t (congrArg some hs)] at ht
    · rw [World.stageOf_moved] at hat'
      split at hat'
      · obtain rfl := Option.some.inj hat'
        obtain ⟨p, hs⟩ := trading_advance hidle ht
        exact absurd (congrArg some hs) (hunserved p)
      · exact hat'

end Booked

/-- **Each event keeps the journal right.** -/
theorem step_booked (ho : w.Orderly) (h : Booked w j) (he : w.step ev = some w') :
    Booked w' (j.note w ev) := by
  rcases step_cases he with ⟨id, c, rfl, hc, hidle, rfl⟩ | hout
  · exact h.moved ho hc hidle
  · by_cases hends : ∃ id r, ev = .exchangeEnds id r
    · obtain ⟨id, r, rfl⟩ := hends
      obtain ⟨goal, p, hc, rfl⟩ := step_exchangeEnds.mp he
      exact h.ended ho hc
    · rw [Journal.note_eq hout.ne_advance fun id r heq => hends ⟨id, r, heq⟩]
      refine h.quiet hout.started_eq (fun t ht => ?_) fun id stage hat ht => ?_
      · exact token_of_step (fun id _ _ heq => absurd heq (hout.ne_advance id)) he ht
      · refine (hout.stageOf_eq id stage hat).resolve_right fun ⟨_, hline⟩ => hends ⟨id, ?_⟩
        exact hline (Stage.inLine_of_trading ht)

/-- **So does each run.** -/
theorem run_booked {w₀ : World α} {es : List (Event α)} (ho : w₀.Orderly) (h : Booked w₀ .empty)
    (hrun : w₀.run es = some w) : Booked w (w₀.journal es) := by
  refine Steps.run_induction (P := fun es w => Booked w (w₀.journal es)) h ?_ hrun
  intro es w ev w' hw he h
  rw [World.journal, Steps.tally_concat he hw]
  exact step_booked (run_orderly ho hw) h he

/-! ## Exchanges that fail -/

/-- **A caller whose exchange has failed** is about to give the lock up, or has come to its end with
the failure. -/
def Fails (e : Error) : Stage α → Prop
  | .release _ r => r = .error e
  | .granted r => r = .error e
  | .ended r => r = .error e
  | _ => False

theorem Fails.advance {e : Error} {goal : Goal} {now : Int64} {s : Session} (h : Fails e stage)
    (hidle : stage.idle s id = false) : Fails e (advance now id goal s stage).2 := by
  cases stage with
  | release p r =>
    obtain rfl : r = .error e := h
    cases goal <;> exact rfl
  | granted r => contradiction
  | ended r => contradiction
  | _ => exact h.elim

/-- It stays so, whatever happens, as long as it is not given up. -/
theorem step_fails {e : Error} (hat : w.stageOf id = some stage) (h : Fails e stage)
    (hstep : w.step ev = some w') (hstay : ev ≠ .leave id) :
    ∃ stage', w'.stageOf id = some stage' ∧ Fails e stage' := by
  obtain ⟨goal, hc⟩ := World.stageOf_eq_some.mp hat
  obtain ⟨stage', m, hc', -, hturn⟩ := step_turn hc hstep hstay
  refine ⟨stage', World.stageOf_eq hc', ?_⟩
  cases hturn with
  | rests => exact h
  | advances hidle => exact h.advance hidle
  | told p r => exact h.elim
  | gets p t r => exact h.elim

theorem run_fails {e : Error} {es : List (Event α)} (hat : w.stageOf id = some stage)
    (h : Fails e stage) (hrun : w.run es = some w') (hstay : .leave id ∉ es) :
    ∃ stage', w'.stageOf id = some stage' ∧ Fails e stage' := by
  refine Steps.run_induction (P := fun es w' => .leave id ∉ es →
    ∃ stage', w'.stageOf id = some stage' ∧ Fails e stage') (fun _ => ⟨stage, hat, h⟩) ?_ hrun hstay
  intro es w₁ ev w₂ _ hstep ih hstay
  rw [List.mem_append, List.mem_singleton, not_or] at hstay
  obtain ⟨stage₁, hat₁, h₁⟩ := ih hstay.1
  exact step_fails hat₁ h₁ hstep (Ne.symm hstay.2)

/-! ## The cached token -/

/-- **What changes the cached token:** dropping it, and a caller that caches the token of its
exchange. -/
theorem Booked.step_token (h : Booked w j) (hstep : w.step ev = some w') :
    w'.session.token = w.session.token ∧ (j.note w ev).cached = j.cached
      ∨ ev = .invalidate ∧ w'.session.token = none ∧ (j.note w ev).cached = j.cached
      ∨ ∃ id n t, ev = .advance id ∧ w'.session.token = some t ∧ (n, .ok t) ∈ j.results
        ∧ (j.note w ev).cached = j.cached ++ [(n, t)] := by
  rcases step_cases hstep with ⟨id, c, rfl, hc, -, rfl⟩ | hout
  · have hat : w.stageOf id = some c.stage := World.stageOf_eq hc
    by_cases hs : ∃ p t, c.stage = .store p t
    · obtain ⟨p, t, hs⟩ := hs
      rw [hs] at hat
      obtain ⟨hnumber, hmem, -⟩ := h.atHand id p t hat
      refine .inr (.inr ⟨id, w.started, t, rfl, ?_, hmem, ?_⟩)
      · rw [World.moved, hs]
        rfl
      · rw [Journal.note, hat, ← hnumber]
        rfl
    · have hne : ∀ p t, c.stage ≠ .store p t := fun p t hst => hs ⟨p, t, hst⟩
      refine .inl ⟨by rw [World.moved, advance_token hne], Journal.cached_note ?_⟩
      rintro _ p t ⟨⟩ hst
      exact hne p t (Option.some.inj (hat.symm.trans hst))
  · have hcached : (j.note w ev).cached = j.cached :=
      Journal.cached_note fun id _ _ heq => absurd heq (hout.ne_advance id)
    rcases hout.token_eq with heq | ⟨hdrop, hnone⟩
    · exact .inl ⟨heq, hcached⟩
    · exact .inr (.inl ⟨hdrop, hnone, hcached⟩)

/-- An exchange that failed gave no token that was cached. -/
theorem Booked.not_cached (h : Booked w j) {n : Nat} {e : Error} {t : Token}
    (he : (n, .error e) ∈ j.results) : (n, t) ∉ j.cached := by
  intro ht
  have hx := List.inj_on_of_nodup_map h.nodup (h.issued _ ht) he rfl
  cases (Prod.mk.inj hx).2

/-- **In any run from a session without a token, the cached token is the newest.**  It is absent or
the last one that was cached; tokens are cached in the order in which their exchanges were started,
each of them given by its exchange; and nothing but dropping and caching changes what is cached.  An
exchange that fails leaves the session as it is, gives no token that is cached, then or later, and is
reported as a failure to authenticate. -/
theorem run_newest (margin : Duration) (now : Int64) (es : List (Event α)) (w : World α)
    (hrun : (World.opening margin none now).run es = some w) :
    let j := (World.opening margin none now).journal es
    (w.session.token = none
        ∨ ∃ n t, w.session.token = some t ∧ j.cached.getLast? = some (n, t))
      ∧ j.cached.Pairwise (·.1 < ·.1)
      ∧ (∀ n t, (n, t) ∈ j.cached → (n, .ok t) ∈ j.results)
      ∧ (j.results.map Prod.fst).Nodup
      ∧ (∀ n r, (n, r) ∈ j.results → 0 < n ∧ n ≤ w.started)
      ∧ (∀ n e, (n, .error e) ∈ j.results → ∀ t, (n, t) ∉ j.cached)
      ∧ (∀ ev w', w.step ev = some w' →
        w'.session.token = w.session.token ∧ (j.note w ev).cached = j.cached
          ∨ ev = .invalidate ∧ w'.session.token = none ∧ (j.note w ev).cached = j.cached
          ∨ ∃ id n t, ev = .advance id ∧ w'.session.token = some t ∧ (n, .ok t) ∈ j.results
            ∧ (j.note w ev).cached = j.cached ++ [(n, t)])
      ∧ (∀ id e w', w.step (.exchangeEnds id (.error e)) = some w' → w'.session = w.session)
      ∧ ∀ es₁ id e es₂, es = es₁ ++ .exchangeEnds id (.error e) :: es₂ → .leave id ∉ es₂ →
        ∃ reason stage, (e = .authenticationFailure reason ∨ reason = e.message)
          ∧ w.stageOf id = some stage ∧ Fails (.authenticationFailure reason) stage := by
  intro j
  have h : Booked w j := run_booked (opening_orderly margin none now) (opening_booked margin now) hrun
  refine ⟨?_, h.ordered, fun n t ht => h.issued _ ht, h.nodup,
    fun n r hr => ⟨h.number_pos _ hr, h.number_le _ hr⟩, fun n e he t => h.not_cached he,
    fun ev w' hstep => h.step_token hstep, fun id e w' hstep => ?_, ?_⟩
  · cases ht : w.session.token with
    | none => exact .inl rfl
    | some t =>
      obtain ⟨n, hn⟩ := h.newest t ht
      exact .inr ⟨n, t, rfl, hn⟩
  · obtain ⟨goal, p, -, rfl⟩ := step_exchangeEnds.mp hstep
    rfl
  · rintro es₁ id e es₂ rfl hstay
    rw [World.run, Steps.run_append, Option.bind_eq_some_iff] at hrun
    obtain ⟨w₁, -, hrun⟩ := hrun
    obtain ⟨w₂, hstep, hrun⟩ := Steps.run_cons.mp hrun
    obtain ⟨goal, p, -, rfl⟩ := step_exchangeEnds.mp hstep
    obtain ⟨reason, heq, hreason⟩ := authenticationFailure_eq e
    have hfails : Fails (.authenticationFailure reason)
        (exchangeEnded p (.error e) : Stage α) := congrArg Except.error heq
    obtain ⟨stage, hat, hf⟩ := run_fails (by rw [World.stageOf_put, if_pos rfl]) hfails hrun hstay
    exact ⟨reason, stage, hreason, hat, hf⟩

/-- The steps of a caller from asking for the free lock to the start of an exchange in place of a
rejected token. -/
def replacing (id : Nat) (rejected : Token) : List (Event Unit) :=
  [.arrive id (.token (.replace rejected)), .advance id, .advance id, .advance id]

/-- Three callers, one after the other: the second one's exchange fails, and the token is dropped while
that of the third is in flight. -/
def threeExchanges (t t' : Token) : List (Event Unit) :=
  replacing 0 t ++ [.exchangeEnds 0 (.ok t), .advance 0, .advance 0]
    ++ replacing 1 t ++ [.exchangeEnds 1 (.error (.status 400 "bad nonce")), .advance 1]
    ++ replacing 2 t ++ [.invalidate, .exchangeEnds 2 (.ok t'), .advance 2]

/-- The first and the third token are cached, the third one last, and the second caller is told of a
failure to authenticate. -/
theorem run_newest_threeExchanges : ∃ w,
    (World.opening ⟨1⟩ none 0).run (threeExchanges ⟨"abc", 5⟩ ⟨"def", 9⟩) = some w
      ∧ ((World.opening ⟨1⟩ none 0).journal (threeExchanges ⟨"abc", 5⟩ ⟨"def", 9⟩)).cached
        = [(1, ⟨"abc", 5⟩), (3, ⟨"def", 9⟩)]
      ∧ w.session.token = some ⟨"def", 9⟩
      ∧ ∃ reason stage, w.stageOf 1 = some stage ∧ Fails (.authenticationFailure reason) stage := by
  obtain ⟨w, hrun⟩ : ∃ w, (World.opening ⟨1⟩ none 0).run
      (threeExchanges ⟨"abc", 5⟩ ⟨"def", 9⟩) = some w := ⟨_, rfl⟩
  have hcached : ((World.opening ⟨1⟩ none 0).journal
      (threeExchanges ⟨"abc", 5⟩ ⟨"def", 9⟩)).cached = [(1, ⟨"abc", 5⟩), (3, ⟨"def", 9⟩)] := rfl
  have hsome : w.session.token ≠ none := by
    obtain rfl := Option.some.inj hrun
    exact nofun
  obtain ⟨hnewest, -, -, -, -, -, -, -, hfailed⟩ := run_newest ⟨1⟩ 0 _ w hrun
  obtain ⟨n, t, htoken, hlast⟩ := hnewest.resolve_left hsome
  rw [hcached] at hlast
  obtain ⟨rfl, rfl⟩ := Prod.mk.inj (Option.some.inj hlast)
  obtain ⟨reason, stage, -, hat, hf⟩ := hfailed
    (replacing 0 ⟨"abc", 5⟩ ++ [.exchangeEnds 0 (.ok ⟨"abc", 5⟩), .advance 0, .advance 0]
      ++ replacing 1 ⟨"abc", 5⟩) 1 (.status 400 "bad nonce")
    (.advance 1 :: (replacing 2 ⟨"abc", 5⟩
      ++ [.invalidate, .exchangeEnds 2 (.ok ⟨"def", 9⟩), .advance 2])) rfl (by simp [replacing])
  exact ⟨w, hrun, hcached, htoken, reason, stage, hat, hf⟩

end Session

end OrderDesk
