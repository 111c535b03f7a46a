import OrderDesk.Proofs.Session.Newest

/-!
# Proofs/Session/Origin — which exchange a token comes from

    invalidate ──▸ exchange n + 1 ──▸ cached ──▸ granted
    exchange n ──▸ invalidate ──▸ cached ──▸ granted

Dropping the cached token takes no lock, so an exchange may be in flight meanwhile, and its token is
cached afterwards.  `Origins` notes beside a run from which exchange a caller has its token.  After a
drop only `Late` tokens are cached: those of exchanges that start later, and the one of the exchange in
flight.  So whoever calls after the drop has a late token (`run_invalidated`).
-/

namespace OrderDesk

variable {α : Type} {stage : Stage α} {t : Token}

namespace Stage

/-- Whether a caller is about to read the cached token. -/
def reading : Stage α → Bool
  | .checkAt _ => true
  | .recheckAt _ => true
  | .recheck (.replace _) => true
  | _ => false

/-- The token that a caller has got, from the cache or by caching it. -/
def held? : Stage α → Option Token
  | .release _ (.ok t) => some t
  | .attempt _ t => some t
  | .granted (.ok t) => some t
  | _ => none

theorem isEntry_of_held? (h : stage.held? = some t) : stage.isEntry = false := by
  cases stage with
  | release p r =>
    cases r with
    | ok t' => rfl
    | error e => contradiction
  | attempt p t' => rfl
  | granted r => rfl
  | _ => contradiction

end Stage

namespace Session

open World (step_arrive step_advance step_exchangeEnds)

/-! ## Where tokens come from -/

/-- **The exchanges of a run and the tokens of its callers.** -/
structure Origins where
  journal : Journal
  /-- The exchange that gave the token which a caller has read, or cached, last. -/
  source : Nat → Option Nat

namespace Origins

/-- Before the first exchange. -/
def empty : Origins := ⟨.empty, fun _ => none⟩

/-- Which exchange gave the token that a caller goes on with. -/
def sourceFrom (o : Origins) (id : Nat) : Stage α → Option Nat
  | .store _ _ => some (o.journal.number id)
  | stage => if stage.reading then o.journal.cached.getLast?.map Prod.fst else o.source id

/-- What is noted of an event. -/
def note (o : Origins) (w : World α) (ev : Event α) : Origins where
  journal := o.journal.note w ev
  source :=
    match ev with
    | .advance id => Function.update o.source id ((w.stageOf id).bind (o.sourceFrom id))
    | _ => o.source

variable {o : Origins} {w : World α} {id : Nat} {ev : Event α}

/-- Whoever reads the cached token goes on with the one that was cached last… -/
theorem sourceFrom_of_reading (h : stage.reading = true) :
    o.sourceFrom id stage = o.journal.cached.getLast?.map Prod.fst := by
  cases stage with
  | checkAt time => rfl
  | recheckAt time => rfl
  | recheck p =>
    cases p with
    | refresh => contradiction
    | replace rejected => rfl
  | _ => contradiction

/-- …and whoever has a token keeps it. -/
theorem sourceFrom_of_held? (h : stage.held? = some t) : o.sourceFrom id stage = o.source id := by
  cases stage with
  | release p r => rfl
  | attempt p t' => rfl
  | granted r => rfl
  | _ => contradiction

theorem source_note_advance (hat : w.stageOf id = some stage) :
    (o.note w (.advance id)).source id = o.sourceFrom id stage := by
  rw [note, hat]
  exact Function.update_self ..

theorem source_note_of_ne (hne : ev ≠ .advance id) : (o.note w ev).source id = o.source id := by
  cases ev with
  | advance id' => exact Function.update_of_ne (fun heq => hne (congrArg Event.advance heq.symm)) ..
  | _ => rfl

end Origins

/-- **What is noted of a run.** -/
def World.origins (w : World α) (es : List (Event α)) : Origins :=
  Steps.tally step Origins.note .empty w es

theorem World.journal_origins (w : World α) (es : List (Event α)) :
    (w.origins es).journal = w.journal es :=
  Steps.tally_map (f := Origins.journal) (fun _ _ _ => rfl) es w .empty

variable {w₁ w w' : World α} {j : Journal} {o : Origins} {id : Nat} {ev : Event α}

/-- A result that is noted stays so. -/
theorem Journal.mem_results_note {x : Nat × Except Error Token} (h : x ∈ j.results) :
    x ∈ (j.note w ev).results := by
  cases ev with
  | advance id =>
    rw [note]
    split <;> exact h
  | exchangeEnds id r => exact List.mem_append_left _ h
  | _ => exact h

/-! ## Late tokens -/

/-- Somebody's exchange is in flight, or its token is about to be cached. -/
def World.Trading (w : World α) : Prop :=
  ∃ id stage, w.stageOf id = some stage ∧ stage.trading = true

/-- **An exchange that starts later, or is in flight.** -/
def World.Late (w₁ : World α) (n : Nat) : Prop := w₁.started < n ∨ n = w₁.started ∧ w₁.Trading

/-- **After a drop of the cached token** whoever exchanges is late, and so is what is cached. -/
structure Dropped (w₁ w : World α) (j : Journal) : Prop where
  orderly : w.Orderly
  booked : Booked w j
  started_le : w₁.started ≤ w.started
  trading : w.Trading → w₁.Late w.started
  cached : ∀ n t, w.session.token = some t → j.cached.getLast? = some (n, t) → w₁.Late n

theorem step_invalidate_dropped (ho : w₁.Orderly) (hb : Booked w₁ j)
    (hstep : w₁.step .invalidate = some w') : Dropped w₁ w' j where
  orderly := step_orderly ho _ hstep
  booked := step_booked ho hb hstep
  started_le := by
    obtain rfl := Option.some.inj hstep
    exact Nat.le_refl _
  trading htrading := by
    obtain rfl := Option.some.inj hstep
    exact .inr ⟨rfl, htrading⟩
  cached n t ht := by
    obtain rfl := Option.some.inj hstep
    contradiction

/-- An exchange in flight was so before, unless it starts. -/
theorem trading_of_step (hstep : w.step ev = some w') (hstarts : ∀ id p, ¬ Starts w w' id p) :
    w'.Trading → w.Trading := by
  rintro ⟨id, stage, hat, ht⟩
  rcases step_cases hstep with ⟨id', c, rfl, hc, hidle, rfl⟩ | hout
  · have hmoved := World.stageOf_moved w id' c id
    rw [hat] at hmoved
    split at hmoved
    · next heq =>
      subst heq
      obtain rfl := Option.some.inj hmoved
      obtain ⟨p, hs⟩ := trading_advance hidle ht
      have hbefore : w.stageOf id = some (.unserved p) :=
        hs ▸ World.stageOf_eq hc
      have hstart : Starts w (w.moved id c) id p := by
        rw [Starts, hbefore, hat, hs]
        exact ⟨nofun, rfl⟩
      exact absurd hstart (hstarts id p)
    · exact ⟨id, stage, hmoved.symm, ht⟩
  · rcases hout.stageOf_eq id stage hat with hbefore | ⟨-, hends⟩
    · exact ⟨id, stage, hbefore, ht⟩
    · obtain ⟨r, rfl⟩ := hends (Stage.inLine_of_trading ht)
      obtain ⟨goal, p, hc, -⟩ := step_exchangeEnds.mp hstep
      exact ⟨id, _, World.stageOf_eq hc, rfl⟩

/-- **Each event keeps it so.** -/
theorem step_dropped (h : Dropped w₁ w j) (hstep : w.step ev = some w') :
    Dropped w₁ w' (j.note w ev) := by
  have hstarted : w.started ≤ w'.started := by
    rcases started_step hstep with ⟨hs, -⟩ | ⟨hs, -⟩ <;> omega
  refine ⟨step_orderly h.orderly ev hstep, step_booked h.orderly h.booked hstep,
    Nat.le_trans h.started_le hstarted, fun htrading => ?_, fun n t ht hlast => ?_⟩
  · rcases started_step hstep with ⟨hs, -⟩ | ⟨hs, hstarts⟩
    · exact .inl (hs ▸ Nat.lt_succ_of_le h.started_le)
    · exact hs ▸ h.trading (trading_of_step hstep hstarts htrading)
  · by_cases hstore : ∃ id p t, ev = .advance id ∧ w.stageOf id = some (.store p t)
    · obtain ⟨id, p, t', rfl, hat⟩ := hstore
      obtain ⟨hnumber, -⟩ := h.booked.atHand id p t' hat
      have hcached : (j.note w (.advance id)).cached = j.cached ++ [(w.started, t')] := by
        rw [Journal.note, hat, ← hnumber]
        rfl
      rw [hcached, List.getLast?_concat] at hlast
      obtain ⟨rfl, -⟩ := Prod.mk.inj (Option.some.inj hlast)
      exact h.trading ⟨id, _, hat, rfl⟩
    · have hnone : ∀ id p t, ev = .advance id → w.stageOf id ≠ some (.store p t) :=
        fun id p t heq hat => hstore ⟨id, p, t, heq, hat⟩
      rw [Journal.cached_note hnone] at hlast
      exact h.cached n t (token_of_step hnone hstep ht) hlast

/-! ## Callers after a drop -/

/-- **A caller has no token but a late one.** -/
def HoldsLate (w₁ w : World α) (o : Origins) (id : Nat) : Prop :=
  ∀ stage t, w.stageOf id = some stage → stage.held? = some t →
    ∃ n, o.source id = some n ∧ (n, .ok t) ∈ o.journal.results ∧ w₁.Late n

theorem held?_start (goal : Goal) : (start goal : Stage α).held? = none := by
  rcases goal with ((_ | _) | _) <;> rfl

theorem held?_grant {goal : Goal} {p : Purpose} {r : Except Error Token}
    (h : (grant goal p r : Stage α).held? = some t) : r = .ok t := by
  cases r with
  | error e => cases goal <;> contradiction
  | ok t' => cases goal <;> exact congrArg Except.ok (Option.some.inj h)

theorem held?_decided (p : Purpose) (o : Option Token) :
    (decided p o : Stage α).held? = o := by
  cases o <;> rfl

/-- **A caller has its token already, or reads the cached one, or caches it.** -/
theorem held?_advance {now : Int64} {goal : Goal} {s : Session}
    (h : (advance now id goal s stage).2.held? = some t) :
    stage.held? = some t ∨ (stage.reading = true ∧ s.token = some t) ∨ ∃ p, stage = .store p t := by
  cases stage with
  | checkAt time =>
    rw [advance] at h
    split at h
    · next t' ht =>
      obtain rfl := Except.ok.inj (held?_grant h)
      exact .inr (.inl ⟨rfl, (Option.filter_eq_some_iff.mp ht).1⟩)
    · contradiction
  | request p =>
    rw [advance] at h
    split at h <;> contradiction
  | queued p =>
    rw [advance] at h
    split at h <;> contradiction
  | recheck p =>
    cases p with
    | refresh => contradiction
    | replace rejected =>
      rw [advance, held?_decided] at h
      exact .inr (.inl ⟨rfl, (Option.filter_eq_some_iff.mp h).1⟩)
  | recheckAt time =>
    rw [advance, held?_decided] at h
    exact .inr (.inl ⟨rfl, (Option.filter_eq_some_iff.mp h).1⟩)
  | store p t' =>
    obtain rfl := Option.some.inj h
    exact .inr (.inr ⟨p, rfl⟩)
  | release p r =>
    obtain rfl := held?_grant h
    exact .inl rfl
  | attempt p t' => exact .inl h
  | granted r => exact .inl h
  | _ => contradiction

/-- **A step of the caller on its own keeps it so:** the cached token is late, and so is the token of
its exchange. -/
theorem Dropped.holdsLate_moved {c : Caller α} (hd : Dropped w₁ w o.journal)
    (h : HoldsLate w₁ w o id) (hc : w.callers id = some c) :
    HoldsLate w₁ (w.moved id c) (o.note w (.advance id)) id := by
  intro stage t hat ht
  rw [World.stageOf_moved, if_pos rfl] at hat
  obtain rfl := Option.some.inj hat
  have hbefore : w.stageOf id = some c.stage := World.stageOf_eq hc
  rw [Origins.source_note_advance hbefore]
  rcases held?_advance ht with hheld | ⟨hreading, htoken⟩ | ⟨p, hstore⟩
  · obtain ⟨n, hn, hmem, hlate⟩ := h _ t hbefore hheld
    exact ⟨n, (Origins.sourceFrom_of_held? hheld).trans hn, Journal.mem_results_note hmem, hlate⟩
  · obtain ⟨n, hlast⟩ := hd.booked.newest t htoken
    have hmem := hd.booked.issued _ (List.mem_of_getLast? hlast)
    refine ⟨n, ?_, Journal.mem_results_note hmem, hd.cached n t htoken hlast⟩
    rw [Origins.sourceFrom_of_reading hreading, hlast]
    rfl
  · rw [hstore] at hbefore ⊢
    obtain ⟨hnumber, hmem, -⟩ := hd.booked.atHand id p t hbefore
    exact ⟨w.started, congrArg some hnumber, Journal.mem_results_note hmem,
      hd.trading ⟨id, _, hbefore, rfl⟩⟩

/-- **So does each event.** -/
theorem step_holdsLate (hd : Dropped w₁ w o.journal) (h : HoldsLate w₁ w o id)
    (hstep : w.step ev = some w') : HoldsLate w₁ w' (o.note w ev) id := by
  by_cases hown : ev = .advance id
  · subst hown
    obtain ⟨c, hc, -, rfl⟩ := step_advance.mp hstep
    exact hd.holdsLate_moved h hc
  · intro stage t hat ht
    have hbefore := stageOf_of_step hown (Stage.isEntry_of_held? ht) hstep hat
    obtain ⟨n, hn, hmem, hlate⟩ := h stage t hbefore ht
    exact ⟨n, (Origins.source_note_of_ne hown).trans hn, Journal.mem_results_note hmem, hlate⟩

/-- Whoever calls has no token yet. -/
theorem arrive_holdsLate {goal : Goal} (hstep : w.step (.arrive id goal) = some w') :
    HoldsLate w₁ w' o id := by
  obtain ⟨-, rfl⟩ := step_arrive.mp hstep
  intro stage t hat ht
  rw [World.stageOf_put, if_pos rfl] at hat
  obtain rfl := Option.some.inj hat
  cases (held?_start goal).symm.trans ht

/-- **So does each run,** for whoever calls in it. -/
theorem run_holdsLate {goal : Goal} {es : List (Event α)} (hd : Dropped w₁ w o.journal)
    (hrun : w.run es = some w') (harrive : .arrive id goal ∈ es) :
    HoldsLate w₁ w' (Steps.tally World.step Origins.note o w es) id := by
  refine (Steps.run_induction (P := fun es w' =>
    Dropped w₁ w' (Steps.tally World.step Origins.note o w es).journal
      ∧ (.arrive id goal ∈ es → HoldsLate w₁ w' (Steps.tally World.step Origins.note o w es) id))
    ⟨hd, fun hmem => absurd hmem List.not_mem_nil⟩ ?_ hrun).2 harrive
  rintro es w₂ ev w₃ hw hstep ⟨hd, h⟩
  rw [Steps.tally_concat hstep hw]
  refine ⟨step_dropped hd hstep, fun hmem => ?_⟩
  rcases List.mem_append.mp hmem with hmem | hmem
  · exact step_holdsLate hd (h hmem) hstep
  · obtain rfl := List.mem_singleton.mp hmem
    exact arrive_holdsLate hstep

/-- **Where the token of a caller comes from that calls after the cached token was dropped,** in any run
from a session without a token and among any callers that exchange and drop tokens.  Whether the caller
is granted the token or runs its operation with it, the token was given by an exchange that started
after the drop, or by the one exchange that was in flight, or whose token was about to be cached, at
the drop. -/
theorem run_invalidated (margin : Duration) (now : Int64) (es₁ es₂ : List (Event α)) (w₁ w : World α)
    (hdrop : (World.opening margin none now).run es₁ = some w₁)
    (hrun : w₁.run (.invalidate :: es₂) = some w) (id : Nat) (goal : Goal)
    (harrive : .arrive id goal ∈ es₂) (t : Token)
    (hat : w.stageOf id = some (.granted (.ok t)) ∨ ∃ p, w.stageOf id = some (.attempt p t)) :
    let o := (World.opening margin none now).origins (es₁ ++ .invalidate :: es₂)
    ∃ n, o.source id = some n ∧ (n, .ok t) ∈ o.journal.results
      ∧ (w₁.started < n ∨ n = w₁.started ∧ w₁.Trading) := by
  intro o
  have ho : w₁.Orderly := run_orderly (opening_orderly margin none now) hdrop
  have hbooked : Booked w₁ ((World.opening margin none now).origins es₁).journal := by
    rw [World.journal_origins]
    exact run_booked (opening_orderly margin none now) (opening_booked margin now) hdrop
  obtain ⟨w₂, hstep, hrun⟩ := Steps.run_cons.mp hrun
  have htally : o = Steps.tally World.step Origins.note
      (((World.opening margin none now).origins es₁).note w₁ .invalidate) w₂ es₂ := by
    rw [show o = _ from Steps.tally_append hdrop _, Steps.tally_cons hstep]
    rfl
  rw [htally]
  have hlate := run_holdsLate (step_invalidate_dropped ho hbooked hstep) hrun harrive
  rcases hat with hat | ⟨p, hat⟩
  · exact hlate _ t hat rfl
  · exact hlate _ t hat rfl

/-- A caller that finds no token that serves exchanges a nonce for one. -/
def exchanging (id : Nat) : List (Event Unit) :=
  [.arrive id (.token .refresh), .advance id, .advance id, .advance id, .advance id, .advance id,
    .advance id]

/-- Its exchange gives a token, which it caches. -/
def issued (id : Nat) (t : Token) : List (Event Unit) :=
  [.exchangeEnds id (.ok t), .advance id, .advance id]

/-- With no exchange in flight at the drop, the next caller has the token of an exchange of its
own. -/
theorem run_invalidated_idle : ∃ w₁ w n,
    (World.opening ⟨1⟩ none 0).run (exchanging 0 ++ issued 0 ⟨"abc", 5⟩) = some w₁
      ∧ w₁.run (.invalidate :: (exchanging 1 ++ issued 1 ⟨"def", 9⟩)) = some w
      ∧ w.stageOf 1 = some (.granted (.ok ⟨"def", 9⟩))
      ∧ ((World.opening ⟨1⟩ none 0).origins (exchanging 0 ++ issued 0 ⟨"abc", 5⟩
          ++ .invalidate :: (exchanging 1 ++ issued 1 ⟨"def", 9⟩))).source 1 = some n
      ∧ w₁.started < n := by
  obtain ⟨w₁, hdrop⟩ : ∃ w₁, (World.opening ⟨1⟩ none 0).run
      (exchanging 0 ++ issued 0 ⟨"abc", 5⟩) = some w₁ := ⟨_, rfl⟩
  have hstarted : w₁.started = 1 := by
    obtain rfl := Option.some.inj hdrop
    rfl
  obtain ⟨w, hrun⟩ : ∃ w, w₁.run (.invalidate :: (exchanging 1 ++ issued 1 ⟨"def", 9⟩)) = some w := by
    obtain rfl := Option.some.inj hdrop
    exact ⟨_, rfl⟩
  have hgranted : w.stageOf 1 = some (.granted (.ok ⟨"def", 9⟩)) := by
    obtain rfl := Option.some.inj hdrop
    obtain rfl := Option.some.inj hrun
    rfl
  have hsource : ((World.opening ⟨1⟩ none 0).origins (exchanging 0 ++ issued 0 ⟨"abc", 5⟩
      ++ .invalidate :: (exchanging 1 ++ issued 1 ⟨"def", 9⟩))).source 1 = some 2 := rfl
  obtain ⟨n, hn, -, hlate⟩ := run_invalidated ⟨1⟩ 0 _ _ w₁ w hdrop hrun 1 (.token .refresh)
    (by simp [exchanging]) ⟨"def", 9⟩ (.inl hgranted)
  obtain rfl := Option.some.inj (hsource.symm.trans hn)
  exact ⟨w₁, w, 2, hdrop, hrun, hgranted, hsource, hlate.resolve_right (by omega)⟩

/-- **A token that was dropped before it was cached is granted:** its exchange was in flight at the
drop, and had started before. -/
theorem not_run_invalidated_later :
    ¬ ∀ (es₁ es₂ : List (Event Unit)) w₁ w id t n,
      (World.opening ⟨1⟩ none 0).run es₁ = some w₁ → w₁.run (.invalidate :: es₂) = some w →
      .arrive id (.token .refresh) ∈ es₂ → w.stageOf id = some (.granted (.ok t)) →
      ((World.opening ⟨1⟩ none 0).origins (es₁ ++ .invalidate :: es₂)).source id = some n →
      w₁.started < n := by
  intro h
  have hlater := h (exchanging 0)
    (issued 0 ⟨"abc", 5⟩ ++ [.arrive 1 (.token .refresh), .advance 1, .advance 1]) _ _ 1 ⟨"abc", 5⟩ 1
    rfl rfl (by simp [issued]) rfl rfl
  exact absurd hlater (by decide)

end Session

end OrderDesk
