import OrderDesk.Proofs.Session.Progress

/-!
# Proofs/Session/Retry — what a call does

    asks ─ told ─ served ─ tries ─ gets ─ asks ─ told ─ served ─ tries ─ gets

A call takes a token that is cached or exchanges a nonce for one, and runs its operation with it; when
that is rejected, it does the same once more.  The log of a caller is what it does in a run, among
whatever other callers do.  Where a call is tells what its log looks like (`Conduct`), and nothing is
added to a log but what may follow it (`Follows`).  `Turn` is all that an event can do to a caller, so
that each invariant of one is a case analysis on it.
-/

namespace OrderDesk

variable {α : Type}

/-- Who rejects credentials says so by the status 401 or 403. -/
theorem Error.isUnauthorized_iff {e : Error} : e.isUnauthorized = true
    ↔ ∃ code body, e = .status code body ∧ (code = 401 ∨ code = 403) := by
  constructor
  · intro h
    cases e with
    | status code body =>
      exact ⟨code, body, rfl, by simpa [isUnauthorized, Http.isRejection] using h⟩
    | _ => contradiction
  · rintro ⟨code, body, rfl, rfl | rfl⟩
    · rfl
    · rfl

namespace Session

/-! ## Logs -/

/-- Something that a caller does, or that comes of it. -/
inductive Deed (α : Type) where
  /-- It starts an exchange. -/
  | asks
  /-- Its exchange ends. -/
  | told (r : Except Error Token)
  /-- It has got a token for a purpose, or failed to. -/
  | served (p : Purpose) (r : Except Error Token)
  /-- It runs its operation with a token. -/
  | tries (t : Token)
  /-- Its operation ends. -/
  | gets (r : Except Error α)

/-- Whether a deed is a run of the operation. -/
def Deed.isRun : Deed α → Bool
  | .tries _ => true
  | _ => false

/-- What a caller does that goes on from one stage to another. -/
def between : Stage α → Stage α → List (Deed α)
  | .unserved _, .exchange _ => [.asks]
  | .checkAt _, .granted r => [.served .refresh r]
  | .checkAt _, .attempt p t => [.served p (.ok t), .tries t]
  | .release p r, .attempt _ t => [.served p r, .tries t]
  | .release p r, _ => [.served p r]
  | _, _ => []

namespace World

/-- What a caller does when an event comes. -/
def deeds (w : World α) (id : Nat) : Event α → List (Deed α)
  | .advance id' =>
    if id' = id then
      match w.callers id with
      | some c => between c.stage (advance w.now id c.goal w.session c.stage).2
      | none => []
    else []
  | .exchangeEnds id' r => if id' = id then [.told r] else []
  | .attemptEnds id' r => if id' = id then [.gets r] else []
  | _ => []

/-- **What a caller does in a run.** -/
def log (w : World α) (id : Nat) (es : List (Event α)) : List (Deed α) :=
  Steps.trace step (deeds · id) w es

end World

/-! ## What may follow -/

variable {l m : List (Deed α)} {d : Deed α} {p : Purpose} {t : Token} {e : Error}

/-- No exchange has failed. -/
def Unfailed (l : List (Deed α)) : Prop := ∀ e, .told (.error e) ∉ l

/-- The operation has not been run. -/
def Unrun (l : List (Deed α)) : Prop := ∀ t, .tries t ∉ l

/-- **What a call may do after what it has done.**  It starts an exchange only if none has failed, and
either before the first run of its operation, or between the first and the second, for the first time
there.  It runs its operation only if no exchange has failed: for the first time with the token that
it has just got, and for the second and last time if the first run came back with the status 401 or
403, with the token that it has just got in place of the rejected one. -/
def Follows (l : List (Deed α)) : Deed α → Prop
  | .asks => Unfailed l ∧ (Unrun l ∧ .asks ∉ l
      ∨ ∃ l₀ t m, l = l₀ ++ .tries t :: m ∧ Unrun l₀ ∧ Unrun m ∧ .asks ∉ m)
  | .tries t => Unfailed l ∧ ((Unrun l ∧ ∃ l₀, l = l₀ ++ [.served .refresh (.ok t)])
      ∨ ∃ l₀ t₁ code body m,
        l = l₀ ++ .tries t₁ :: .gets (.error (.status code body))
          :: (m ++ [.served (.replace t₁) (.ok t)])
        ∧ (code = 401 ∨ code = 403) ∧ Unrun l₀ ∧ Unrun m)
  | _ => True

/-- Each deed of a log may follow those before it. -/
def Disciplined (l : List (Deed α)) : Prop := ∀ l₁ d l₂, l = l₁ ++ d :: l₂ → Follows l₁ d

theorem disciplined_nil : Disciplined ([] : List (Deed α)) := by
  intro l₁ d l₂ h
  simp at h

theorem Disciplined.concat (h : Disciplined l) (hd : Follows l d) : Disciplined (l ++ [d]) := by
  intro l₁ d' l₂ heq
  rcases List.eq_nil_or_concat l₂ with rfl | ⟨l₃, x, rfl⟩
  -- the deed in question is the new one, or stands in the log before it
  · obtain ⟨rfl, hlast⟩ := List.append_inj' heq rfl
    obtain ⟨rfl, -⟩ := List.cons.inj hlast
    exact hd
  · rw [List.concat_eq_append, ← List.cons_append, ← List.append_assoc] at heq
    exact h l₁ d' l₃ (List.append_inj' heq rfl).1

/-! ## Where a call is and what it has done -/

/-- An exchange as it is reported. -/
def reported (r : Except Error Token) : Except Error Token := r.mapError authenticationFailure

/-- **How a token is got for a purpose:** a cached one, or the outcome of one exchange. -/
inductive Obtains (p : Purpose) : Except Error Token → List (Deed α) → Prop
  | cached (t : Token) : Obtains p (.ok t) [.served p (.ok t)]
  | exchanged (r : Except Error Token) :
      Obtains p (reported r) [.asks, .told r, .served p (reported r)]

/-- **What a call has done when it goes for a token:** nothing, or run its operation once with a token
that was rejected. -/
inductive Opened : Purpose → List (Deed α) → Prop
  | first : Opened .refresh []
  | again {t : Token} {e : Error} {m : List (Deed α)} (hm : Obtains .refresh (.ok t) m)
      (he : e.isUnauthorized = true) : Opened (.replace t) (m ++ [.tries t, .gets (.error e)])

/-- What a caller goes for that does not know yet whether it will need an exchange, or is about to
start one. -/
def purpose? : Stage α → Option Purpose
  | .check => some .refresh
  | .checkAt _ => some .refresh
  | .request p => some p
  | .queued p => some p
  | .recheck p => some p
  | .recheckAt _ => some .refresh
  | .unserved p => some p
  | _ => none

/-- **Where a call is and what it has done.** -/
inductive Conduct : Stage α → List (Deed α) → Prop
  | seeks {stage : Stage α} {p : Purpose} {l : List (Deed α)} (h : Opened p l)
      (hs : purpose? stage = some p) : Conduct stage l
  | asks {p : Purpose} {l : List (Deed α)} (h : Opened p l) : Conduct (.exchange p) (l ++ [.asks])
  | told {p : Purpose} {t : Token} {l : List (Deed α)} (h : Opened p l) :
      Conduct (.store p t) (l ++ [.asks, .told (.ok t)])
  | found {p : Purpose} {t : Token} {l : List (Deed α)} (h : Opened p l) :
      Conduct (.release p (.ok t)) l
  | ready {p : Purpose} {l : List (Deed α)} (h : Opened p l) (r : Except Error Token) :
      Conduct (.release p (reported r)) (l ++ [.asks, .told r])
  | tries {p : Purpose} {t : Token} {l m : List (Deed α)} (h : Opened p l)
      (hm : Obtains p (.ok t) m) : Conduct (.attempt p t) (l ++ m ++ [.tries t])
  | gets {p : Purpose} {t : Token} {l m : List (Deed α)} (h : Opened p l)
      (hm : Obtains p (.ok t) m) (r : Except Error α) :
      Conduct (.ended r) (l ++ m ++ [.tries t, .gets r])
  | fails {p : Purpose} {l : List (Deed α)} (h : Opened p l) (e : Error) :
      Conduct (.ended (.error (authenticationFailure e)))
        (l ++ [.asks, .told (.error e), .served p (.error (authenticationFailure e))])

/-! ### Getting a token -/

variable {r : Except Error Token}

theorem reported_eq_ok (h : reported r = .ok t) : r = .ok t := by
  cases r with
  | error e => cases h
  | ok t' => exact h

theorem Obtains.exists_served (h : Obtains p r m) : ∃ m₀, m = m₀ ++ [.served p r] ∧ Unrun m₀ := by
  cases h with
  | cached t => exact ⟨[], rfl, by simp [Unrun]⟩
  | exchanged r => exact ⟨[.asks, .told r], rfl, by simp [Unrun]⟩

theorem Obtains.unrun (h : Obtains p r m) : Unrun m := by
  cases h <;> simp [Unrun]

/-- No exchange has failed where a token was got. -/
theorem Obtains.unfailed (h : Obtains p r m) (hr : r = .ok t) : Unfailed m := by
  cases h with
  | cached t => simp [Unfailed]
  | exchanged r =>
    obtain rfl := reported_eq_ok hr
    simp [Unfailed]

theorem Obtains.countP_eq (h : Obtains p r m) : m.countP Deed.isRun = 0 := by
  cases h <;> rfl

theorem Opened.unfailed (h : Opened p l) : Unfailed l := by
  cases h with
  | first => simp [Unfailed]
  | again hm he =>
    intro e hmem
    rcases List.mem_append.mp hmem with hmem | hmem
    · exact hm.unfailed rfl e hmem
    · simp at hmem

theorem Opened.countP_le (h : Opened p l) : l.countP Deed.isRun ≤ 1 := by
  cases h with
  | first => exact Nat.zero_le 1
  | again hm he =>
    rw [List.countP_append, hm.countP_eq]
    exact Nat.le_refl 1

/-- **A call that goes for a token may start an exchange…** -/
theorem Opened.follows_asks (h : Opened p l) : Follows l .asks := by
  refine ⟨h.unfailed, ?_⟩
  cases h with
  | first => exact .inl ⟨by simp [Unrun], by simp⟩
  | again hm he => exact .inr ⟨_, _, _, rfl, hm.unrun, by simp [Unrun], by simp⟩

/-- **…and run its operation with the token that it has got.** -/
theorem Opened.follows_tries (h : Opened p l) (hm : Obtains p (.ok t) m) :
    Follows (l ++ m) (.tries t) := by
  refine ⟨fun e hmem => ?_, ?_⟩
  · exact (List.mem_append.mp hmem).elim (h.unfailed e) (hm.unfailed rfl e)
  · obtain ⟨m₀, rfl, hm₀⟩ := hm.exists_served
    cases h with
    | first => exact .inl ⟨hm.unrun, m₀, rfl⟩
    | @again t₁ e l₀ hl he =>
      obtain ⟨code, body, rfl, hcode⟩ := Error.isUnauthorized_iff.mp he
      refine .inr ⟨l₀, t₁, code, body, m₀, ?_, hcode, hl.unrun, hm₀⟩
      rw [List.append_assoc]
      rfl

/-! ### One step -/

variable {now : Int64} {id : Nat} {s : Session} {stage : Stage α}

/-- A call that goes for a token goes on, or starts an exchange, or has found a token; without the lock
it tries that at once. -/
theorem advance_of_purpose? (now : Int64) (id : Nat) (s : Session) (hs : purpose? stage = some p) :
    purpose? (advance now id .call s stage).2 = some p
        ∧ between stage (advance now id .call s stage).2 = []
      ∨ (advance now id .call s stage).2 = .exchange p
        ∧ between stage (advance now id .call s stage).2 = [.asks]
      ∨ ∃ t, (advance now id .call s stage).2 = .release p (.ok t)
          ∧ between stage (advance now id .call s stage).2 = []
        ∨ (advance now id .call s stage).2 = .attempt p t
          ∧ between stage (advance now id .call s stage).2 = [.served p (.ok t), .tries t] := by
  cases stage with
  | check => exact .inl ⟨hs, rfl⟩
  | checkAt time =>
    obtain rfl := Option.some.inj hs
    rw [advance]
    cases s.fresh? time with
    | none => exact .inl ⟨rfl, rfl⟩
    | some t => exact .inr (.inr ⟨t, .inr ⟨rfl, rfl⟩⟩)
  | request p' =>
    rw [advance]
    cases s.holder with
    | none => exact .inl ⟨hs, rfl⟩
    | some id' => exact .inl ⟨hs, rfl⟩
  | queued p' =>
    rw [advance]
    by_cases hid : s.holder = some id
    · rw [if_pos hid]
      exact .inl ⟨hs, rfl⟩
    · rw [if_neg hid]
      exact .inl ⟨hs, rfl⟩
  | recheck p' =>
    obtain rfl := Option.some.inj hs
    cases p' with
    | refresh => exact .inl ⟨rfl, rfl⟩
    | replace rejected =>
      rw [advance]
      cases s.other? rejected with
      | none => exact .inl ⟨rfl, rfl⟩
      | some t => exact .inr (.inr ⟨t, .inl ⟨rfl, rfl⟩⟩)
  | recheckAt time =>
    obtain rfl := Option.some.inj hs
    rw [advance]
    cases s.fresh? time with
    | none => exact .inl ⟨rfl, rfl⟩
    | some t => exact .inr (.inr ⟨t, .inl ⟨rfl, rfl⟩⟩)
  | unserved p' =>
    obtain rfl := Option.some.inj hs
    exact .inr (.inl ⟨rfl, rfl⟩)
  | _ => contradiction

/-- **A call among others:** where it is fits what it has done, and that is disciplined. -/
structure Keeps (stage : Stage α) (l : List (Deed α)) : Prop where
  conduct : Conduct stage l
  disciplined : Disciplined l

/-- A step without a deed. -/
theorem Keeps.still (h : Keeps stage l) : Keeps stage (l ++ []) := by
  rwa [List.append_nil]

theorem Opened.keeps_seeks (h : Opened p l) (hl : Disciplined l) (hs : purpose? stage = some p) :
    Keeps stage (l ++ []) :=
  Keeps.still ⟨.seeks h hs, hl⟩

theorem Opened.keeps_found (h : Opened p l) (hl : Disciplined l) (t : Token) :
    Keeps (.release p (.ok t)) (l ++ []) :=
  Keeps.still ⟨.found h, hl⟩

/-- A call that has got a token runs its operation with it. -/
theorem Opened.keeps_tries {l' : List (Deed α)} (h : Opened p l) (hm : Obtains p (.ok t) m)
    (hl : Disciplined l') (heq : l' ++ [.served p (.ok t)] = l ++ m) :
    Keeps (.attempt p t) (l' ++ [.served p (.ok t), .tries t]) := by
  have hserved : Disciplined (l ++ m) := heq ▸ hl.concat trivial
  have hlog : l' ++ [.served p (.ok t), .tries t] = l ++ m ++ [.tries t] := by
    rw [← heq, List.append_assoc]
    rfl
  rw [hlog]
  exact ⟨.tries h hm, hserved.concat (h.follows_tries hm)⟩

/-- **A call that goes for a token** goes on, or has found one that serves, or starts an exchange. -/
theorem Opened.keeps_advance (h : Opened p l) (hl : Disciplined l) (hs : purpose? stage = some p) :
    Keeps (advance now id .call s stage).2
      (l ++ between stage (advance now id .call s stage).2) := by
  rcases advance_of_purpose? now id s hs with ⟨hs', hb⟩ | ⟨hs', hb⟩ | ⟨t, ⟨hs', hb⟩ | ⟨hs', hb⟩⟩
  · rw [hb]
    exact h.keeps_seeks hl hs'
  · rw [hb, hs']
    exact ⟨.asks h, hl.concat h.follows_asks⟩
  · rw [hb, hs']
    exact h.keeps_found hl t
  · rw [hb, hs']
    exact h.keeps_tries (.cached t) hl rfl

/-- **So does a call anywhere:** one that has got a token runs its operation, one that has not ends,
and one that waits or has ended stays where it is. -/
theorem Keeps.advance (h : Keeps stage l) : Keeps (Session.advance now id .call s stage).2
    (l ++ between stage (Session.advance now id .call s stage).2) := by
  obtain ⟨hc, hl⟩ := h
  cases hc with
  | seeks h hs => exact h.keeps_advance hl hs
  | asks h => exact Keeps.still ⟨.asks h, hl⟩
  | told h => exact Keeps.still ⟨.ready h (.ok _), hl⟩
  | @found p t l h => exact h.keeps_tries (.cached t) hl rfl
  | @ready p l h r =>
    cases r with
    | ok t => exact h.keeps_tries (.exchanged (.ok t)) hl (List.append_assoc ..)
    | error e =>
      refine ⟨?_, hl.concat trivial⟩
      rw [List.append_assoc]
      exact .fails h e
  | tries h hm => exact Keeps.still ⟨.tries h hm, hl⟩
  | gets h hm r => exact Keeps.still ⟨.gets h hm r, hl⟩
  | fails h e => exact Keeps.still ⟨.fails h e, hl⟩

/-- **The end of an exchange** is reported. -/
theorem Keeps.exchangeEnded {r : Except Error Token} (h : Keeps (.exchange p) l) :
    Keeps (Session.exchangeEnded p r) (l ++ [.told r]) := by
  obtain ⟨hc, hl⟩ := h
  refine ⟨?_, hl.concat trivial⟩
  cases hc with
  | seeks h hs => contradiction
  | asks h =>
    rw [List.append_assoc]
    cases r with
    | ok t => exact .told h
    | error e => exact .ready h (.error e)

/-- **The end of an operation:** a first rejection sends the call for another token, all else ends
it. -/
theorem Keeps.attemptEnded {r : Except Error α} (h : Keeps (.attempt p t) l) :
    Keeps (Session.attemptEnded p t r) (l ++ [.gets r]) := by
  obtain ⟨hc, hl⟩ := h
  refine ⟨?_, hl.concat trivial⟩
  cases hc with
  | seeks h hs => contradiction
  | @tries _ _ l m h hm =>
    have hends : Conduct (.ended r) (l ++ m ++ [.tries t] ++ [.gets r]) := by
      rw [List.append_assoc]
      exact .gets h hm r
    cases p with
    | replace rejected => exact hends
    | refresh =>
      cases r with
      | ok a => exact hends
      | error e =>
        rw [Session.attemptEnded]
        split
        · next he =>
          -- a first run: nothing was done before its token was got
          cases h with
          | first =>
            rw [List.append_assoc]
            exact .seeks (.again hm he) rfl
        · exact hends

/-! ## A call among others -/

open World (step_arrive step_advance step_exchangeEnds step_attemptEnds step_leave)

variable {w₀ w w' : World α} {es : List (Event α)} {ev : Event α}

/-- What others do leaves a caller where it is, and is no deed of it. -/
theorem step_of_mover_ne {c : Caller α} (hc : w.callers id = some c) (hstep : w.step ev = some w')
    (hother : ev.mover ≠ some id) (hstay : ev ≠ .leave id) :
    w'.callers id = some c ∧ w.deeds id ev = [] := by
  have hmover : ∀ {id'}, some id' ≠ some id → id ≠ id' := fun h heq => h (heq ▸ rfl)
  cases ev with
  | arrive id' goal =>
    obtain ⟨hnone, rfl⟩ := step_arrive.mp hstep
    have hne : id ≠ id' := by
      rintro rfl
      rw [hc] at hnone
      contradiction
    exact ⟨(Function.update_of_ne hne _ _).trans hc, rfl⟩
  | advance id' =>
    obtain ⟨c', -, -, rfl⟩ := step_advance.mp hstep
    have hne := hmover hother
    exact ⟨(Function.update_of_ne hne _ _).trans hc, if_neg hne.symm⟩
  | exchangeEnds id' r =>
    obtain ⟨goal, p, -, rfl⟩ := step_exchangeEnds.mp hstep
    have hne := hmover hother
    exact ⟨(Function.update_of_ne hne _ _).trans hc, if_neg hne.symm⟩
  | attemptEnds id' r =>
    obtain ⟨goal, p, t, -, rfl⟩ := step_attemptEnds.mp hstep
    have hne := hmover hother
    exact ⟨(Function.update_of_ne hne _ _).trans hc, if_neg hne.symm⟩
  | invalidate =>
    obtain rfl := Option.some.inj hstep
    exact ⟨hc, rfl⟩
  | leave id' =>
    obtain ⟨-, rfl⟩ := step_leave.mp hstep
    have hne : id ≠ id' := fun heq => hstay (heq ▸ rfl)
    exact ⟨(Function.update_of_ne hne _ _).trans hc, rfl⟩
  | clock now =>
    obtain rfl := Option.some.inj hstep
    exact ⟨hc, rfl⟩

/-- **What an event does to a caller:** nothing, or it goes on on its own, or what it waits for has
come. -/
inductive Turn (w : World α) (id : Nat) (goal : Goal) :
    Event α → Stage α → Stage α → List (Deed α) → Prop
  | rests {ev : Event α} {stage : Stage α} : Turn w id goal ev stage stage []
  | advances {stage : Stage α} (hidle : stage.idle w.session id = false) :
      Turn w id goal (.advance id) stage (advance w.now id goal w.session stage).2
        (between stage (advance w.now id goal w.session stage).2)
  | told (p : Purpose) (r : Except Error Token) :
      Turn w id goal (.exchangeEnds id r) (.exchange p) (exchangeEnded p r) [.told r]
  | gets (p : Purpose) (t : Token) (r : Except Error α) :
      Turn w id goal (.attemptEnds id r) (.attempt p t) (attemptEnded p t r) [.gets r]

/-- **Each event gives a caller its turn,** be it its own or that of another, unless it is given up. -/
theorem step_turn {goal : Goal} (hc : w.callers id = some ⟨goal, stage⟩)
    (hstep : w.step ev = some w') (hstay : ev ≠ .leave id) :
    ∃ stage' m, w'.callers id = some ⟨goal, stage'⟩ ∧ w.deeds id ev = m
      ∧ Turn w id goal ev stage stage' m := by
  by_cases hown : ev.mover = some id
  · cases ev with
    | advance id' =>
      obtain rfl := Option.some.inj hown
      obtain ⟨c, hc', hidle, rfl⟩ := step_advance.mp hstep
      obtain rfl := Option.some.inj (hc.symm.trans hc')
      refine ⟨_, _, Function.update_self .., ?_, .advances hidle⟩
      rw [World.deeds, if_pos rfl, hc]
    | exchangeEnds id' r =>
      obtain rfl := Option.some.inj hown
      obtain ⟨goal', p, hc', rfl⟩ := step_exchangeEnds.mp hstep
      obtain ⟨rfl, rfl⟩ := Caller.mk.inj (Option.some.inj (hc.symm.trans hc'))
      exact ⟨_, _, Function.update_self .., if_pos rfl, .told p r⟩
    | attemptEnds id' r =>
      obtain rfl := Option.some.inj hown
      obtain ⟨goal', p, t, hc', rfl⟩ := step_attemptEnds.mp hstep
      obtain ⟨rfl, rfl⟩ := Caller.mk.inj (Option.some.inj (hc.symm.trans hc'))
      exact ⟨_, _, Function.update_self .., if_pos rfl, .gets p t r⟩
    | _ => contradiction
  · obtain ⟨hc', hnone⟩ := step_of_mover_ne hc hstep hown hstay
    exact ⟨stage, [], hc', hnone, .rests⟩

/-- **An event keeps a call.** -/
theorem step_keeps (hc : w.callers id = some ⟨.call, stage⟩) (hk : Keeps stage l)
    (hstep : w.step ev = some w') (hstay : ev ≠ .leave id) :
    ∃ stage', w'.callers id = some ⟨.call, stage'⟩ ∧ Keeps stage' (l ++ w.deeds id ev) := by
  obtain ⟨stage', m, hc', hdeeds, hturn⟩ := step_turn hc hstep hstay
  refine ⟨stage', hc', ?_⟩
  rw [hdeeds]
  cases hturn with
  | rests => exact hk.still
  | advances hidle => exact hk.advance
  | told p r => exact hk.exchangeEnded
  | gets p t r => exact hk.attemptEnded

/-- **So does a run,** as long as the call is not given up. -/
theorem run_keeps (hc : w₀.callers id = some ⟨.call, .check⟩) (hrun : w₀.run es = some w)
    (hstay : .leave id ∉ es) :
    ∃ stage, w.callers id = some ⟨.call, stage⟩ ∧ Keeps stage (w₀.log id es) := by
  refine Steps.run_induction (P := fun es w => .leave id ∉ es →
    ∃ stage, w.callers id = some ⟨.call, stage⟩ ∧ Keeps stage (w₀.log id es)) ?_ ?_ hrun hstay
  · exact fun _ => ⟨.check, hc, .seeks .first rfl, disciplined_nil⟩
  · intro es w ev w' hw hstep ih hstay
    rw [List.mem_append, List.mem_singleton, not_or] at hstay
    obtain ⟨stage, hc, hk⟩ := ih hstay.1
    rw [World.log, Steps.trace_concat ev hw]
    exact step_keeps hc hk hstep (Ne.symm hstay.2)

/-! ## What a call does -/

/-- The operation is run twice at most. -/
theorem Conduct.countP_le (h : Conduct stage l) : l.countP Deed.isRun ≤ 2 := by
  cases h with
  | seeks h hs => exact Nat.le_succ_of_le h.countP_le
  | asks h => exact Nat.le_succ_of_le (by simpa [Deed.isRun] using h.countP_le)
  | told h => exact Nat.le_succ_of_le (by simpa [Deed.isRun] using h.countP_le)
  | found h => exact Nat.le_succ_of_le h.countP_le
  | ready h r => exact Nat.le_succ_of_le (by simpa [Deed.isRun] using h.countP_le)
  | tries h hm => simpa [Deed.isRun, hm.countP_eq] using h.countP_le
  | gets h hm r => simpa [Deed.isRun, List.countP_cons, hm.countP_eq] using h.countP_le
  | fails h e => exact Nat.le_succ_of_le (by simpa [Deed.isRun] using h.countP_le)

/-- While its operation is in flight, running it is the last thing that a call has done. -/
theorem Conduct.attempt (h : Conduct (.attempt p t) l) : ∃ l₀, l = l₀ ++ [.tries t] := by
  cases h with
  | seeks h hs => contradiction
  | tries h hm => exact ⟨_, rfl⟩

/-- While its exchange is in flight, starting it is. -/
theorem Conduct.exchange (h : Conduct (.exchange p) l) : ∃ l₀, l = l₀ ++ [.asks] := by
  cases h with
  | seeks h hs => contradiction
  | asks h => exact ⟨_, rfl⟩

/-- How a failed exchange is reported: as what it says itself if it is a failure to authenticate, and
else by its message. -/
theorem authenticationFailure_eq (e : Error) : ∃ reason,
    authenticationFailure e = .authenticationFailure reason
      ∧ (e = .authenticationFailure reason ∨ reason = e.message) := by
  cases e with
  | authenticationFailure reason => exact ⟨reason, rfl, .inl rfl⟩
  | _ => exact ⟨_, rfl, .inr rfl⟩

/-- **The end of a call** is the outcome of its last run, or the failure of its last exchange. -/
theorem Conduct.ended {r : Except Error α} (h : Conduct (.ended r) l) :
    (Unfailed l ∧ ∃ l₀ t, l = l₀ ++ [.tries t, .gets r])
      ∨ ∃ l₀ p e reason, l = l₀ ++ [.asks, .told (.error e),
          .served p (.error (.authenticationFailure reason))]
        ∧ r = .error (.authenticationFailure reason) := by
  cases h with
  | seeks h hs => contradiction
  | gets h hm r =>
    refine .inl ⟨fun e hmem => ?_, _, _, rfl⟩
    rcases List.mem_append.mp hmem with hmem | hmem
    · exact (List.mem_append.mp hmem).elim (h.unfailed e) (hm.unfailed rfl e)
    · simp at hmem
  | @fails p l h e =>
    obtain ⟨reason, hreason, -⟩ := authenticationFailure_eq e
    rw [hreason]
    exact .inr ⟨l, p, e, reason, rfl, rfl⟩

/-- **What a call does,** in any run and among any callers, as long as it is not given up.  Each of its
deeds may follow those before it (`Follows`), and it runs its operation twice at most.  When it ends,
no exchange of it has failed and its outcome is that of its last run, or its last exchange has failed
and it ends with a failure to authenticate.  While an operation or an exchange is in flight, starting
it is the last deed of the log. -/
theorem run_call (w₀ : World α) (id : Nat) (es : List (Event α)) (w : World α)
    (hrun : w₀.run (.arrive id .call :: es) = some w) (hstay : .leave id ∉ es) :
    (∀ l₁ d l₂, w₀.log id (.arrive id .call :: es) = l₁ ++ d :: l₂ → Follows l₁ d)
      ∧ (w₀.log id (.arrive id .call :: es)).countP Deed.isRun ≤ 2
      ∧ (∀ r, w.stageOf id = some (.ended r) →
        (Unfailed (w₀.log id (.arrive id .call :: es))
            ∧ ∃ l t, w₀.log id (.arrive id .call :: es) = l ++ [.tries t, .gets r])
          ∨ ∃ l p e reason, w₀.log id (.arrive id .call :: es) = l ++ [.asks, .told (.error e),
              .served p (.error (.authenticationFailure reason))]
            ∧ r = .error (.authenticationFailure reason))
      ∧ (∀ p t, w.stageOf id = some (.attempt p t) →
        ∃ l, w₀.log id (.arrive id .call :: es) = l ++ [.tries t])
      ∧ ∀ p, w.stageOf id = some (.exchange p) →
        ∃ l, w₀.log id (.arrive id .call :: es) = l ++ [.asks] := by
  obtain ⟨w₁, harrive, hrun⟩ := Steps.run_cons.mp hrun
  have hlog : w₀.log id (.arrive id .call :: es) = w₁.log id es := Steps.trace_cons harrive es
  obtain ⟨-, rfl⟩ := step_arrive.mp harrive
  obtain ⟨stage, hc, hk⟩ := run_keeps (Function.update_self ..) hrun hstay
  have hstage : ∀ stage', w.stageOf id = some stage' →
      Conduct stage' (w₀.log id (.arrive id .call :: es)) := by
    intro stage' hat
    obtain rfl := Option.some.inj ((World.stageOf_eq hc).symm.trans hat)
    rw [hlog]
    exact hk.conduct
  refine ⟨?_, (hstage stage (World.stageOf_eq hc)).countP_le, fun r hat => (hstage _ hat).ended,
    fun p t hat => (hstage _ hat).attempt, fun p hat => (hstage _ hat).exchange⟩
  rw [hlog]
  exact hk.disciplined

/-- A call whose first token is rejected, and that is served another one. -/
def rejectedOnce (t : Token) : List (Event Unit) :=
  [.advance 0, .advance 0, .attemptEnds 0 (.error (.status 401 "")), .advance 0, .advance 0,
    .advance 0, .exchangeEnds 0 (.ok t), .advance 0, .advance 0, .attemptEnds 0 (.ok ())]

/-- It runs its operation a second time with the other token, after the status 401. -/
theorem run_call_rejectedOnce : ∃ w,
    (World.opening ⟨1⟩ (some ⟨"abc", 5⟩) 0).run
        (.arrive 0 .call :: rejectedOnce ⟨"def", 9⟩) = some w
      ∧ w.stageOf 0 = some (.ended (.ok ()))
      ∧ Follows [.served .refresh (.ok ⟨"abc", 5⟩), .tries ⟨"abc", 5⟩,
          .gets (.error (.status 401 "")), .asks, .told (.ok ⟨"def", 9⟩),
          .served (.replace ⟨"abc", 5⟩) (.ok ⟨"def", 9⟩)]
        (.tries ⟨"def", 9⟩ : Deed Unit) := by
  obtain ⟨w, hrun⟩ : ∃ w, (World.opening ⟨1⟩ (some ⟨"abc", 5⟩) 0).run
      (.arrive 0 .call :: rejectedOnce ⟨"def", 9⟩) = some w := ⟨_, rfl⟩
  have hend : w.stageOf 0 = some (.ended (.ok ())) := by
    obtain rfl := Option.some.inj hrun
    rfl
  have hstay : Event.leave 0 ∉ rejectedOnce ⟨"def", 9⟩ := by simp [rejectedOnce]
  exact ⟨w, hrun, hend, (run_call _ 0 _ w hrun hstay).1 _ _ [.gets (.ok ())] rfl⟩

end Session

end OrderDesk
