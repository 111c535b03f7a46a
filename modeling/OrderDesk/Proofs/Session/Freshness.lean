import OrderDesk.Proofs.Session.Retry
import OrderDesk.Proofs.Session.SingleFlight

/-!
# Proofs/Session/Freshness — when a token is fresh, and which tokens callers are granted

    check ──fresh──▸ granted      recheck ──fresh──▸ granted      exchange ──▸ granted

A token is fresh while now and a margin are together before its expiry.  The sum is bounded twice: the
bound on the sum changes nothing, as no token expires later than the latest time there is, and the bound
on the margin matters only for a margin of more than 63 bits and a time before 1970
(`isFreshAt_iff_outlives_or`).  A caller that is after a fresh token looks at the cached one twice, and
whoever finds it fresh is granted it; what an exchange gives is granted whenever it expires
(`run_secures`).
-/

namespace OrderDesk

/-! ## When a token is fresh -/

namespace Token

variable {t : Token} {now : Int64} {margin : Duration}

/-- **A token expires later than a margin from now,** the sum being taken without any bound. -/
def Outlives (t : Token) (now : Int64) (margin : Duration) : Prop :=
  now.toInt + margin.nanoseconds < t.expiry.toInt

/-- No token expires later than the latest time. -/
theorem expiry_le_latest (t : Token) : t.expiry.toInt ≤ latest := by
  have hlt := t.expiry.toInt_lt
  rw [latest]
  exact Int.le_sub_one_of_lt hlt

/-- **The bound on the sum changes nothing.** -/
theorem isFreshAt_iff_clamped :
    t.isFreshAt now margin = true ↔ now.toInt + clamped margin < t.expiry.toInt := by
  have hle := t.expiry_le_latest
  rw [isFreshAt, decide_eq_true_eq, later]
  omega

/-- **A token is fresh exactly if it outlives the margin,** except that a margin beyond the latest time
counts as that time: a token that it covers is fresh, too, if it expires later than the latest time from
now, which is so before 1970 only. -/
theorem isFreshAt_iff_outlives_or (t : Token) (now : Int64) (margin : Duration) :
    t.isFreshAt now margin = true
      ↔ t.Outlives now margin
        ∨ latest < margin.nanoseconds ∧ now.toInt + latest < t.expiry.toInt := by
  rw [isFreshAt_iff_clamped, clamped, Outlives]
  omega

/-- **A margin of 64 bits is too long:** at the earliest time there is, a token that expires with the
margin is fresh. -/
theorem not_isFreshAt_iff_outlives :
    ¬ ∀ t now margin, isFreshAt t now margin = true ↔ t.Outlives now margin := by
  intro h
  have hfresh : isFreshAt ⟨"abc", 0⟩ Int64.minValue (.ofParts 9223372036 854775808) = true := by
    decide
  have houtlives := (h _ _ _).mp hfresh
  exact absurd houtlives (by rw [Outlives]; decide)

end Token

namespace Session

variable {α : Type}

/-! ## A caller that is after a fresh token -/

variable {now : Int64} {margin : Duration} {id : Nat} {s : Session} {stage : Stage α}
  {l : List (Deed α)}

theorem isFreshAt_of_fresh? {t : Token} (h : s.fresh? now = some t) :
    t.isFreshAt now s.margin = true := (Option.filter_eq_some_iff.mp h).2

/-- **Where a caller is that is after a fresh token, and what it has done,** while the clock stands
still: a cached token is granted only if it is fresh, and what its exchange gives is granted in any
case. -/
inductive Secures (now : Int64) (margin : Duration) : Stage α → List (Deed α) → Prop
  | seeks {stage : Stage α} (hs : purpose? stage = some .refresh)
      (htime : ∀ time, stage = .checkAt time ∨ stage = .recheckAt time → time = now) :
      Secures now margin stage []
  | asks : Secures now margin (.exchange .refresh) [.asks]
  | told (t : Token) : Secures now margin (.store .refresh t) [.asks, .told (.ok t)]
  | found {t : Token} (hfresh : t.isFreshAt now margin = true) :
      Secures now margin (.release .refresh (.ok t)) []
  | ready (r : Except Error Token) :
      Secures now margin (.release .refresh (reported r)) [.asks, .told r]
  | cached {t : Token} (hfresh : t.isFreshAt now margin = true) :
      Secures now margin (.granted (.ok t)) [.served .refresh (.ok t)]
  | issued (r : Except Error Token) :
      Secures now margin (.granted (reported r)) [.asks, .told r, .served .refresh (reported r)]

namespace Secures

/-- A step without a deed. -/
theorem still (h : Secures now margin stage l) : Secures now margin stage (l ++ []) := by
  rwa [List.append_nil]

/-- **A caller that seeks** goes on, or starts an exchange, or has found a fresh token. -/
theorem advance_of_purpose? (hs : purpose? stage = some .refresh)
    (htime : ∀ time, stage = .checkAt time ∨ stage = .recheckAt time → time = now) :
    Secures now s.margin (Session.advance now id (.token .refresh) s stage).2
      (between stage (Session.advance now id (.token .refresh) s stage).2) := by
  cases stage with
  | check =>
    refine .seeks rfl ?_
    rintro time (h | h)
    · exact (Stage.checkAt.inj h).symm
    · contradiction
  | checkAt time =>
    obtain rfl := htime time (.inl rfl)
    rw [Session.advance]
    split
    · next t ht => exact .cached (isFreshAt_of_fresh? ht)
    · exact .seeks rfl (by simp)
  | request p =>
    obtain rfl := Option.some.inj hs
    rw [Session.advance]
    split <;> exact .seeks rfl (by simp)
  | queued p =>
    obtain rfl := Option.some.inj hs
    rw [Session.advance]
    split <;> exact .seeks rfl (by simp)
  | recheck p =>
    obtain rfl := Option.some.inj hs
    refine .seeks rfl ?_
    rintro time (h | h)
    · contradiction
    · exact (Stage.recheckAt.inj h).symm
  | recheckAt time =>
    obtain rfl := htime time (.inr rfl)
    rw [Session.advance]
    cases ht : s.fresh? time with
    | none => exact .seeks rfl (by simp [decided])
    | some t => exact .found (isFreshAt_of_fresh? ht)
  | unserved p =>
    obtain rfl := Option.some.inj hs
    exact .asks
  | _ => contradiction

/-- **So does such a caller anywhere:** with a token at hand it gives the lock up and is granted it. -/
theorem advance (h : Secures now s.margin stage l) :
    Secures now s.margin (Session.advance now id (.token .refresh) s stage).2
      (l ++ between stage (Session.advance now id (.token .refresh) s stage).2) := by
  cases h with
  | seeks hs htime => exact advance_of_purpose? hs htime
  | asks => exact .asks
  | told t => exact .ready (.ok t)
  | found hfresh => exact .cached hfresh
  | ready r => exact .issued r
  | cached hfresh => exact .cached hfresh
  | issued r => exact .issued r

/-- **The end of its exchange** is what it will be granted. -/
theorem exchangeEnded {p : Purpose} {r : Except Error Token}
    (h : Secures now margin (.exchange p : Stage α) l) :
    Secures now margin (Session.exchangeEnded p r : Stage α) (l ++ [.told r]) := by
  cases h with
  | seeks hs => contradiction
  | asks =>
    cases r with
    | ok t => exact .told t
    | error e => exact .ready (.error e)

/-- **What is granted** is a cached token that is fresh, or what the exchange gave. -/
theorem granted {r : Except Error Token} (h : Secures now margin (.granted r : Stage α) l) :
    (∃ t, r = .ok t ∧ t.isFreshAt now margin = true ∧ l = [.served .refresh r])
      ∨ ∃ r', r = reported r' ∧ l = [.asks, .told r', .served .refresh r] := by
  cases h with
  | seeks hs => contradiction
  | @cached t hfresh => exact .inl ⟨t, rfl, hfresh, rfl⟩
  | issued r => exact .inr ⟨r, rfl, rfl⟩

end Secures

/-! ## …among others -/

open World (step_arrive step_advance step_exchangeEnds)

variable {w₀ w w' : World α} {es : List (Event α)} {ev : Event α}

/-- **A caller after a fresh token** among the others, in a session with a margin at a time. -/
structure Securing (now : Int64) (margin : Duration) (id : Nat) (w : World α) (l : List (Deed α)) :
    Prop where
  now_eq : w.now = now
  margin_eq : w.session.margin = margin
  secures : ∃ stage, w.callers id = some ⟨.token .refresh, stage⟩ ∧ Secures now margin stage l

/-- **An event keeps such a caller,** be it its own or that of another. -/
theorem step_securing (h : Securing now margin id w l) (hstep : w.step ev = some w')
    (hstay : ev ≠ .leave id) (hclock : ∀ time, ev = .clock time → time = now) :
    Securing now margin id w' (l ++ w.deeds id ev) := by
  obtain ⟨hnow, hmargin, stage, hc, hs⟩ := h
  obtain ⟨hmargin', htime⟩ := step_steady hstep
  have hnow' : w'.now = now := htime.elim (fun heq => heq.trans hnow) (hclock _)
  obtain ⟨stage', m, hc', hdeeds, hturn⟩ := step_turn hc hstep hstay
  refine ⟨hnow', hmargin'.trans hmargin, stage', hc', ?_⟩
  rw [hdeeds]
  cases hturn with
  | rests => exact hs.still
  | advances hidle =>
    subst hnow hmargin
    exact hs.advance
  | told p r => exact hs.exchangeEnded
  | gets p t r =>
    cases hs with
    | seeks hs => contradiction

/-- **So does a run,** as long as the caller is not given up and the clock stands still. -/
theorem run_securing (h : Securing now margin id w₀ []) (hrun : w₀.run es = some w)
    (hstay : .leave id ∉ es) (hclock : ∀ time, .clock time ∈ es → time = now) :
    Securing now margin id w (w₀.log id es) := by
  refine Steps.run_induction (P := fun es w => .leave id ∉ es →
    (∀ time, .clock time ∈ es → time = now) → Securing now margin id w (w₀.log id es))
    (fun _ _ => h) ?_ hrun hstay hclock
  intro es w ev w' hw hstep ih hstay hclock
  rw [List.mem_append, List.mem_singleton, not_or] at hstay
  have hbefore : ∀ time, .clock time ∈ es → time = now := fun time hmem =>
    hclock time (List.mem_append_left _ hmem)
  have hevent : ∀ time, ev = .clock time → time = now := fun time heq =>
    hclock time (List.mem_append_right _ (heq ▸ List.mem_singleton_self _))
  rw [World.log, Steps.trace_concat ev hw]
  exact step_securing (ih hstay.1 hbefore) hstep (Ne.symm hstay.2) hevent

/-- **A caller whose exchange is in flight is granted the token that is issued,** whenever it
expires. -/
theorem run_issued {p q : Purpose} (hc : w.callers id = some ⟨.token q, .exchange p⟩) (t : Token) :
    ∃ w', w.run [.exchangeEnds id (.ok t), .advance id, .advance id] = some w'
      ∧ w'.stageOf id = some (.granted (.ok t)) := by
  have hends : w.step (.exchangeEnds id (.ok t)) = some (w.put id ⟨.token q, .store p t⟩) :=
    step_exchangeEnds.mpr ⟨_, p, hc, rfl⟩
  have hstored : (w.put id ⟨.token q, .store p t⟩).callers id = some ⟨.token q, .store p t⟩ :=
    Function.update_self ..
  have hstores := step_advance.mpr ⟨_, hstored, rfl, rfl⟩
  have hready : ((w.put id ⟨.token q, .store p t⟩).moved id ⟨.token q, .store p t⟩).callers id
      = some ⟨.token q, .release p (.ok t)⟩ := Function.update_self ..
  have hreleases := step_advance.mpr ⟨_, hready, rfl, rfl⟩
  refine ⟨_, Steps.run_cons.mpr ⟨_, hends, Steps.run_cons.mpr ⟨_, hstores,
    Steps.run_cons.mpr ⟨_, hreleases, rfl⟩⟩⟩, ?_⟩
  rw [World.stageOf_moved, if_pos rfl]
  rfl

/-- **Which tokens a caller after a fresh one is granted,** in any run and among any callers, as long as
it is not given up and the clock stands still.  It is granted a cached token that is fresh, or else what
its own exchange gives: the token that is issued, fresh or not, or a failure to authenticate.  No token
is ever refused that an exchange issues to it. -/
theorem run_secures (w₀ : World α) (id : Nat) (es : List (Event α)) (w : World α)
    (hrun : w₀.run (.arrive id (.token .refresh) :: es) = some w) (hstay : .leave id ∉ es)
    (hclock : ∀ time, .clock time ∈ es → time = w₀.now) :
    (∀ r, w.stageOf id = some (.granted r) →
        (∃ t, r = .ok t ∧ t.isFreshAt w₀.now w₀.session.margin = true
          ∧ w₀.log id (.arrive id (.token .refresh) :: es) = [.served .refresh r])
        ∨ ∃ r', r = reported r'
          ∧ w₀.log id (.arrive id (.token .refresh) :: es) = [.asks, .told r', .served .refresh r])
      ∧ ∀ p, w.stageOf id = some (.exchange p) → ∀ t, ∃ w',
        w.run [.exchangeEnds id (.ok t), .advance id, .advance id] = some w'
          ∧ w'.stageOf id = some (.granted (.ok t)) := by
  obtain ⟨w₁, harrive, hrun⟩ := Steps.run_cons.mp hrun
  have hlog : w₀.log id (.arrive id (.token .refresh) :: es) = w₁.log id es :=
    Steps.trace_cons harrive es
  obtain ⟨-, rfl⟩ := step_arrive.mp harrive
  have hstart : Securing w₀.now w₀.session.margin id
      (w₀.put id ⟨.token .refresh, start (.token .refresh)⟩) [] :=
    ⟨rfl, rfl, .check, Function.update_self .., .seeks rfl (by simp)⟩
  obtain ⟨-, -, stage, hc, hs⟩ := run_securing hstart hrun hstay hclock
  have hat := World.stageOf_eq hc
  refine ⟨fun r hgranted => ?_, fun p hexchange t => ?_⟩
  · obtain rfl := Option.some.inj (hat.symm.trans hgranted)
    rw [hlog]
    exact hs.granted
  · obtain rfl := Option.some.inj (hat.symm.trans hexchange)
    exact run_issued hc t

/-- The caller 1 finds no token and waits for the lock, while the caller 0 exchanges a nonce for one. -/
def awaited (t : Token) : List (Event Unit) :=
  [.arrive 0 (.token .refresh), .advance 0, .advance 0, .advance 0, .advance 1, .advance 1,
    .advance 1, .advance 0, .advance 0, .advance 0, .exchangeEnds 0 (.ok t), .advance 0,
    .advance 0, .advance 1, .advance 1, .advance 1, .advance 1]

/-- It is granted the cached token, which is fresh. -/
theorem run_secures_awaited : ∃ w,
    (World.opening (.seconds 60) none 0).run
        (.arrive 1 (.token .refresh) :: awaited ⟨"abc", 120000000000⟩) = some w
      ∧ w.stageOf 1 = some (.granted (.ok ⟨"abc", 120000000000⟩))
      ∧ Token.isFreshAt ⟨"abc", 120000000000⟩ 0 (.seconds 60) = true := by
  obtain ⟨w, hrun⟩ : ∃ w, (World.opening (.seconds 60) none 0).run
      (.arrive 1 (.token .refresh) :: awaited ⟨"abc", 120000000000⟩) = some w := ⟨_, rfl⟩
  have hgranted : w.stageOf 1 = some (.granted (.ok ⟨"abc", 120000000000⟩)) := by
    obtain rfl := Option.some.inj hrun
    rfl
  have hlog : (World.opening (.seconds 60) none 0).log 1
      (.arrive 1 (.token .refresh) :: awaited ⟨"abc", 120000000000⟩)
        = [.served .refresh (.ok ⟨"abc", 120000000000⟩)] := rfl
  obtain ⟨hserved, -⟩ := run_secures _ 1 _ w hrun (by simp [awaited]) (by simp [awaited])
  rcases hserved _ hgranted with ⟨t, heq, hfresh, -⟩ | ⟨r', -, hasks⟩
  · obtain rfl := Except.ok.inj heq
    exact ⟨w, hrun, hgranted, hfresh⟩
  · rw [hlog] at hasks
    cases hasks

/-- A caller that is alone and finds no token exchanges a nonce for one. -/
def unaided (t : Token) : List (Event Unit) :=
  [.advance 0, .advance 0, .advance 0, .advance 0, .advance 0, .advance 0, .exchangeEnds 0 (.ok t),
    .advance 0, .advance 0]

/-- **A token that is granted need not be fresh:** one that expires within the margin is granted as it
is issued. -/
theorem not_run_secures_fresh :
    ¬ ∀ (w₀ : World Unit) id es w t, w₀.run (.arrive id (.token .refresh) :: es) = some w →
      .leave id ∉ es → (∀ time, .clock time ∈ es → time = w₀.now) →
      w.stageOf id = some (.granted (.ok t)) → t.isFreshAt w₀.now w₀.session.margin = true := by
  intro h
  have hfresh := h (World.opening (.seconds 60) none 0) 0 (unaided ⟨"abc", 5⟩) _ ⟨"abc", 5⟩ rfl
    (by simp [unaided]) (by simp [unaided]) rfl
  contradiction

end Session

end OrderDesk
