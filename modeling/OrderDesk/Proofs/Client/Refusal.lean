import OrderDesk.Proofs.Client.Alone

/-!
# Proofs/Client/Refusal — what a refused upgrade leads to

    dialled ─ renews ─ served ─ tries ─ dialled ─ returns

Behind each refusal for the token's sake the log of a loop shows how it goes on (`Heeds`).  A round is
looked through from its end: what stands behind it follows from how it ended (`Behind`), and what a
call does since it went for another token is a `Renewal`.
-/

namespace OrderDesk.Redial

open Client (dialOutcome redialled)
open Session (World Obtains purpose? authenticationFailure)

variable {σ κ : Type} {url : Url} {d : Dialled κ} {r r' : Redial κ} {stage : Stage κ} {p : Purpose}
  {t : Token} {l l' m : List (Deed κ)}

/-! ## Behind a refusal -/

/-- **Behind a call that is over** the loop looks again, or has returned the stream. -/
inductive Over : List (Deed κ) → Prop
  | nil : Over []
  | looks (listens : Bool) (l : List (Deed κ)) : Over (.looks listens :: l)
  | opened (k : κ) : Over [.returns (some k)]

/-- **Behind a rejection of a renewed token** the loop comes to its end, and nothing is returned. -/
inductive GivenUp : List (Deed κ) → Prop
  | nil : GivenUp []
  | returns : GivenUp [.returns none]

/-- **Behind a second attempt** the loop has given up, if that was rejected, too, and otherwise the
call is over. -/
inductive Retried : List (Deed κ) → Prop
  | nil : Retried []
  | rejected {d : Dialled κ} {l : List (Deed κ)} (hd : d.Rejects) (hl : GivenUp l) :
      Retried (.dialled d :: l)
  | over {d : Dialled κ} {l : List (Deed κ)} (hd : ¬ d.Rejects) (hl : Over l) :
      Retried (.dialled d :: l)

/-- **Behind the call of a renewal:** it is under way, or it has failed and the call is over, or it has
given another token and that is tried next. -/
inductive Renewal (t : Token) : List (Deed κ) → Prop
  | underway {r : Except Error Token} {m m' : List (Session.Deed κ)}
      (hm : Obtains (.replace t) r (m ++ m')) (hne : m' ≠ []) : Renewal t (m.map .does)
  | failed {e : Error} {m : List (Session.Deed κ)} {l : List (Deed κ)}
      (hm : Obtains (.replace t) (.error e) m) (hl : Over l) : Renewal t (m.map .does ++ l)
  | retried {t' : Token} {m : List (Session.Deed κ)} {l : List (Deed κ)}
      (hm : Obtains (.replace t) (.ok t') m) (hl : Retried l) :
      Renewal t (m.map .does ++ .does (.tries t') :: l)

/-- A token that was got in place of a rejected one is about to be tried. -/
def Second (t : Token) (l : List (Deed κ)) : Prop :=
  ∃ l₀ t₀ d₀ m, d₀.Rejects ∧ Obtains (.replace t₀) (.ok t) m
    ∧ l = l₀ ++ .does (.tries t₀) :: .dialled d₀ :: .renews t₀ :: m.map .does

/-- **What is done about a rejected attempt:** the token is renewed, or it was a renewed one and the
loop has given up. -/
def Heeded (t : Token) (l₁ l₂ : List (Deed κ)) : Prop :=
  (∃ l, l₂ = .renews t :: l ∧ Renewal t l) ∨ Second t l₁ ∧ GivenUp l₂

/-- In a log that goes on from another each attempt that ends was started just before, and something is
done about it if it was rejected. -/
def Heeds (l₀ l : List (Deed κ)) : Prop := ∀ l₁ d l₂, l = l₁ ++ .dialled d :: l₂ →
  ∃ l₃ t, l₀ ++ l₁ = l₃ ++ [.does (.tries t)] ∧ (d.Rejects → Heeded t l₃ l₂)

/-- **A call that came to nothing:** its last attempt did not open the stream and was not rejected, or
it got no token for one. -/
inductive Fruitless : List (Deed κ) → Prop
  | unopened (l : List (Deed κ)) (t : Token) {d : Dialled κ} (hopened : ∀ k, d ≠ .opened k)
      (hrejects : ¬ d.Rejects) : Fruitless (l ++ [.does (.tries t), .dialled d])
  | tokenless (l : List (Deed κ)) {p : Purpose} {e : Error} {m : List (Session.Deed κ)}
      (hm : Obtains p (.error e) m) : Fruitless (l ++ m.map .does)

/-- **A number of rounds in vain:** each time somebody listens, and the call comes to nothing. -/
def InVain (n : Nat) (l : List (Deed κ)) : Prop :=
  ∃ ms : List (List (Deed κ)), ms.length = n ∧ (∀ m ∈ ms, Fruitless m)
    ∧ l = ms.flatMap (.looks true :: ·)

/-- **Why a loop is at its end:** the stream was opened last, or nobody listens, or a renewed token
was rejected, too. -/
inductive Reason : Option κ → List (Deed κ) → Prop
  | opened (l : List (Deed κ)) (t : Token) (k : κ) :
      Reason (some k) (l ++ [.does (.tries t), .dialled (.opened k), .returns (some k)])
  | unheard (l : List (Deed κ)) : Reason none (l ++ [.looks false, .returns none])
  | rejected {l : List (Deed κ)} {t : Token} {d : Dialled κ} (hd : d.Rejects) (hl : Second t l) :
      Reason none (l ++ [.does (.tries t), .dialled d, .returns none])

variable {l₀ l₁ l₂ : List (Deed κ)} {n : Nat}

theorem Second.append (h : Second t l) (l₀ : List (Deed κ)) : Second t (l₀ ++ l) := by
  obtain ⟨l₁, t₀, d₀, m, hd, hm, rfl⟩ := h
  exact ⟨l₀ ++ l₁, t₀, d₀, m, hd, hm, (List.append_assoc ..).symm⟩

theorem Heeds.append (h : Heeds [] l) (l₀ : List (Deed κ)) : Heeds l₀ l := by
  intro l₁ d l₂ heq
  obtain ⟨l₃, t, hl₁, hd⟩ := h l₁ d l₂ heq
  refine ⟨l₀ ++ l₃, t, ?_, fun hr => (hd hr).imp id fun h => ⟨h.1.append l₀, h.2⟩⟩
  rw [List.append_assoc, ← hl₁, List.nil_append]

theorem heeds_nil (l₀ : List (Deed κ)) : Heeds l₀ [] := by
  intro l₁ d l₂ heq
  exact absurd heq.symm (List.append_ne_nil_of_right_ne_nil l₁ (List.cons_ne_nil _ _))

/-- What is no end of an attempt needs nothing. -/
theorem Heeds.cons {x : Deed κ} (hx : ∀ d, .dialled d ≠ x) (h : Heeds (l₀ ++ [x]) l) :
    Heeds l₀ (x :: l) := by
  intro l₁ d l₂ heq
  rcases List.cons_eq_append_iff.mp heq with ⟨-, hcut⟩ | ⟨l₃, rfl, hcut⟩
  · exact absurd (List.cons.inj hcut).1 (hx d)
  · have h := h l₃ d l₂ hcut
    rwa [List.append_assoc] at h

theorem Heeds.skip : ∀ {m : List (Session.Deed κ)} {l₀ : List (Deed κ)},
    Heeds (l₀ ++ m.map .does) l → Heeds l₀ (m.map .does ++ l)
  | [], l₀, h => by rwa [List.map_nil, List.append_nil] at h
  | x :: m, l₀, h => by
      refine Heeds.cons nofun (Heeds.skip ?_)
      rwa [List.append_assoc]

/-- An attempt that has ended needs something if it was rejected. -/
theorem Heeds.attempt (hd : d.Rejects → Heeded t l₀ l)
    (h : Heeds (l₀ ++ [.does (.tries t), .dialled d]) l) :
    Heeds l₀ (.does (.tries t) :: .dialled d :: l) := by
  refine Heeds.cons nofun fun l₁ d' l₂ heq => ?_
  rcases List.cons_eq_append_iff.mp heq with ⟨rfl, hcut⟩ | ⟨l₃, rfl, hcut⟩
  · obtain ⟨hdd, rfl⟩ := List.cons.inj hcut
    obtain rfl := Deed.dialled.inj hdd
    exact ⟨l₀, t, List.append_nil _, hd⟩
  · have h := h l₃ d' l₂ hcut
    rwa [List.append_assoc] at h ⊢

/-! ### The refusals of a round -/

/-- What stands behind a round: nothing while it goes on or has just ended, else what its outcome
leads to. -/
inductive Behind (stage : Stage κ) : List (Deed κ) → Prop
  | nil : Behind stage []
  | returns {outcome : Except Error κ} {o : Option κ} (hs : stage = .ended outcome)
      (ho : redialled outcome = some o) : Behind stage [.returns o]
  | looks {outcome : Except Error κ} (hs : stage = .ended outcome)
      (ho : redialled outcome = none) (listens : Bool) (l : List (Deed κ)) :
      Behind stage (.looks listens :: l)

/-- Behind a round that goes on there is nothing. -/
theorem Behind.eq_nil (h : Behind stage l) (hs : ∀ outcome, stage ≠ .ended outcome) : l = [] := by
  cases h with
  | nil => rfl
  | returns h _ => exact absurd h (hs _)
  | looks h _ _ _ => exact absurd h (hs _)

theorem Behind.givenUp (h : Behind (.ended (dialOutcome url d)) l) (hd : d.Rejects) :
    GivenUp l := by
  cases h with
  | nil => exact .nil
  | returns h ho =>
    obtain rfl := Stage.ended.inj h
    rcases redialled_eq_some ho with ⟨k, rfl, rfl⟩ | ⟨-, rfl⟩
    · rcases hd with hd | hd <;> contradiction
    · exact .returns
  | looks h ho =>
    obtain rfl := Stage.ended.inj h
    exact absurd hd (not_rejects_of_redialled ho)

theorem Behind.over (h : Behind (.ended (dialOutcome url d)) l) (hd : ¬ d.Rejects) : Over l := by
  cases h with
  | nil => exact .nil
  | returns h ho =>
    obtain rfl := Stage.ended.inj h
    rcases redialled_eq_some ho with ⟨k, rfl, rfl⟩ | ⟨hd', -⟩
    · exact .opened k
    · exact absurd hd' hd
  | looks h ho listens l => exact .looks listens l

/-- Behind a call that got no token the loop looks again. -/
theorem Behind.over_of_fails {e : Error}
    (h : Behind (.ended (.error (authenticationFailure e)) : Stage κ) l) : Over l := by
  cases h with
  | nil => exact .nil
  | returns h ho =>
    obtain rfl := Stage.ended.inj h
    rw [redialled_authenticationFailure] at ho
    contradiction
  | looks h ho listens l => exact .looks listens l

/-- **What a call does since it went for another token is a renewal.** -/
theorem Pursues.renewal (h : Pursues url (.replace t) stage m) (hl : Behind stage l) :
    Renewal t (m ++ l) := by
  cases h with
  | seeks hs =>
    obtain rfl := hl.eq_nil fun outcome heq => by rw [heq] at hs; contradiction
    exact .underway (m := []) (.cached t) (List.cons_ne_nil _ _)
  | asks =>
    obtain rfl := hl.eq_nil nofun
    exact .underway (m := [.asks]) (.exchanged (.ok t)) (List.cons_ne_nil _ _)
  | told t' =>
    obtain rfl := hl.eq_nil nofun
    exact .underway (m := [.asks, .told (.ok t')]) (.exchanged (.ok t')) (List.cons_ne_nil _ _)
  | found t' =>
    obtain rfl := hl.eq_nil nofun
    exact .underway (m := []) (.cached t') (List.cons_ne_nil _ _)
  | ready r =>
    obtain rfl := hl.eq_nil nofun
    exact .underway (m := [.asks, .told r]) (.exchanged r) (List.cons_ne_nil _ _)
  | tries hm =>
    obtain rfl := hl.eq_nil nofun
    rw [List.append_nil]
    exact .retried hm .nil
  | @dialled t' m hm d _ =>
    rw [List.append_assoc]
    by_cases hd : d.Rejects
    · exact .retried hm (.rejected hd (hl.givenUp hd))
    · exact .retried hm (.over hd (hl.over hd))
  | fails e hm => exact .failed hm hl.over_of_fails

/-- Something is done about the rejection of its attempt, if that is a second one. -/
theorem Pursues.heeds (h : Pursues url p stage m) (hl : Behind stage l) (hheeds : Heeds [] l)
    (hsecond : ∀ t m, p ≠ .refresh → Obtains p (.ok t) m → Second t (l₀ ++ m.map .does)) :
    Heeds l₀ (m ++ l) := by
  cases h with
  | seeks _ => exact hheeds.append l₀
  | asks => exact Heeds.skip (m := [.asks]) (hheeds.append _)
  | told t => exact Heeds.skip (m := [.asks, .told (.ok t)]) (hheeds.append _)
  | found t => exact hheeds.append l₀
  | ready r => exact Heeds.skip (m := [.asks, .told r]) (hheeds.append _)
  | tries hm =>
    rw [List.append_assoc]
    exact Heeds.skip (Heeds.cons nofun (hheeds.append _))
  | dialled hm hd =>
    rw [List.append_assoc]
    refine Heeds.skip (Heeds.attempt (fun hd' => .inr ?_) (hheeds.append _))
    exact ⟨hsecond _ _ (fun hp => hd hp hd') hm, hl.givenUp hd'⟩
  | fails e hm => exact Heeds.skip (hheeds.append _)

/-- **Something is done about each rejection of a round.** -/
theorem Conduct.heeds (h : Conduct url stage m) (hl : Behind stage l) (hheeds : Heeds [] l)
    (l₀ : List (Deed κ)) : Heeds l₀ (m ++ l) := by
  obtain @⟨p, l₁, m, h, hm⟩ := h
  rw [List.append_assoc]
  cases h with
  | first => exact hm.heeds hl hheeds fun t m hp _ => absurd rfl hp
  | @again t m₀ d hm₀ hd =>
    rw [List.append_assoc]
    refine Heeds.skip (Heeds.attempt (fun _ => .inl ⟨_, rfl, hm.renewal hl⟩) ?_)
    refine Heeds.cons nofun (hm.heeds hl hheeds fun t' m' _ hm' => ?_)
    refine ⟨l₀ ++ m₀.map .does, t, d, m', hd, hm', ?_⟩
    simp only [List.append_assoc, List.cons_append, List.nil_append]

/-- **A call that leads to the end of the loop** was given the stream, or was rejected with a renewed
token… -/
theorem Conduct.returned {outcome : Except Error κ} {o : Option κ}
    (h : Conduct url (.ended outcome) m) (ho : redialled outcome = some o) :
    (∃ l t k, m = l ++ [.does (.tries t), .dialled (.opened k)] ∧ o = some k)
      ∨ ∃ l t d, m = l ++ [.does (.tries t), .dialled d] ∧ d.Rejects ∧ Second t l ∧ o = none := by
  obtain @⟨p, l, m, h, hm⟩ := h
  cases hm with
  | seeks hs => contradiction
  | fails e hm =>
    rw [redialled_authenticationFailure] at ho
    contradiction
  | @dialled t m hm d hd =>
    rcases redialled_eq_some ho with ⟨k, rfl, rfl⟩ | ⟨hr, rfl⟩
    · exact .inl ⟨_, t, k, (List.append_assoc ..).symm, rfl⟩
    · refine .inr ⟨_, t, d, (List.append_assoc ..).symm, hr, ?_, rfl⟩
      cases h with
      | first => exact absurd hr (hd rfl)
      | @again t₀ m₀ d₀ hm₀ hd₀ =>
        refine ⟨m₀.map .does, t₀, d₀, m, hd₀, hm, ?_⟩
        simp only [List.append_assoc, List.cons_append, List.nil_append]

/-- …and one behind which it goes on came to nothing. -/
theorem Conduct.fruitless {outcome : Except Error κ} (h : Conduct url (.ended outcome) m)
    (ho : redialled outcome = none) : Fruitless m := by
  obtain @⟨p, l, m, h, hm⟩ := h
  cases hm with
  | seeks hs => contradiction
  | fails e hm => exact .tokenless l hm
  | @dialled t m hm d hd =>
    rw [← List.append_assoc]
    refine .unopened _ t (fun k hk => ?_) (not_rejects_of_redialled ho)
    rw [hk] at ho
    contradiction

theorem Rounds.inVain (h : Rounds url n l) : InVain n l := by
  induction h with
  | nil => exact ⟨[], rfl, fun _ hm => absurd hm List.not_mem_nil, rfl⟩
  | cons hm ho hl ih =>
    obtain ⟨ms, rfl, hms, rfl⟩ := ih
    refine ⟨_ :: ms, rfl, fun m hmem => ?_, rfl⟩
    rcases List.mem_cons.mp hmem with rfl | hmem
    · exact hm.fruitless ho
    · exact hms m hmem

/-! ### The refusals of a run -/

/-- Behind a round that came to nothing there is nothing, or the loop looks again. -/
theorem Rounds.behind {outcome : Except Error κ} (hl : Rounds url n l₁) (h : Stands url r l₂)
    (ho : redialled outcome = none) : Behind (.ended outcome) (l₁ ++ l₂) := by
  cases hl with
  | cons => exact .looks rfl ho _ _
  | nil =>
    cases h with
    | looking => exact .nil
    | connecting => exact .looks rfl ho _ _
    | gone => exact .looks rfl ho _ _
    | returned => exact .looks rfl ho _ _

theorem Stands.heeds (h : Stands url r l) : Heeds [] l := by
  cases h with
  | looking => exact heeds_nil []
  | @connecting id stage m hp hc hm =>
    have h := hm.heeds .nil (heeds_nil []) ([] ++ [.looks true])
    rw [List.append_nil m] at h
    exact Heeds.cons nofun h
  | gone => exact Heeds.cons nofun (Heeds.cons nofun (heeds_nil _))
  | returned hp hm ho =>
    exact Heeds.cons nofun (hm.heeds (.returns rfl ho) (Heeds.cons nofun (heeds_nil _)) _)

theorem Rounds.heeds (hl : Rounds url n l₁) (h : Stands url r l₂) : Heeds [] (l₁ ++ l₂) := by
  induction hl with
  | nil => exact h.heeds
  | cons hm ho hl ih =>
    rw [List.cons_append, List.append_assoc]
    exact Heeds.cons nofun (hm.heeds (hl.behind h ho) ih _)

theorem Course.heeds (h : Course url r l) : Heeds [] l := by
  obtain ⟨n, l₁, l₂, rfl, hl₁, hl₂⟩ := h
  exact hl₁.heeds hl₂

/-- How a token was got is told by the log. -/
theorem eq_of_obtains {r r' : Except Error Token} {m m' : List (Session.Deed κ)}
    (h : Obtains p r m) (h' : Obtains p r' m') (heq : m.map .does ++ l = m'.map .does ++ l') :
    r = r' ∧ l = l' := by
  cases h with
  | cached t => cases h' <;> simp_all
  | exchanged r => cases h' <;> simp_all

theorem Retried.givenUp : Retried (.dialled d :: l) → d.Rejects → GivenUp l
  | .rejected _ h, _ => h
  | .over hnot _, hd => absurd hd hnot

/-- A renewal that leads to a second rejection ends the loop. -/
theorem Renewal.givenUp {t₀ : Token} {m : List (Session.Deed κ)} (h : Renewal t₀ l)
    (hm : Obtains (.replace t₀) (.ok t) m) (hd : d.Rejects)
    (heq : l = m.map .does ++ .does (.tries t) :: .dialled d :: l₂) : GivenUp l₂ := by
  cases h with
  | underway hm' hne =>
    have hmem := congrArg (.dialled d ∈ ·) heq
    simp at hmem
  | failed hm' hl =>
    obtain ⟨hr, -⟩ := eq_of_obtains hm' hm heq
    contradiction
  | retried hm' hl =>
    obtain ⟨-, hrest⟩ := eq_of_obtains hm' hm heq
    obtain ⟨-, rfl⟩ := List.cons.inj hrest
    exact hl.givenUp hd

/-- **A second rejection ends the loop.** -/
theorem Heeds.givenUp (h : Heeds [] l) (hd : d.Rejects) (hs : Second t l₁)
    (heq : l = l₁ ++ .does (.tries t) :: .dialled d :: l₂) : GivenUp l₂ := by
  obtain ⟨l₀, t₀, d₀, m, hd₀, hm, rfl⟩ := hs
  -- the rejection before it, whose token was renewed
  obtain ⟨l₃, t₁, hl₃, hheeded⟩ := h (l₀ ++ [.does (.tries t₀)]) d₀
    (.renews t₀ :: (m.map .does ++ .does (.tries t) :: .dialled d :: l₂)) (by simp [heq])
  rw [List.nil_append] at hl₃
  obtain ⟨rfl, ht⟩ := List.append_inj' hl₃ rfl
  obtain rfl := Session.Deed.tries.inj (Deed.does.inj (List.cons.inj ht).1)
  rcases hheeded hd₀ with ⟨l₄, hrenews, hrenewal⟩ | ⟨-, hgivenUp⟩
  · obtain ⟨-, rfl⟩ := List.cons.inj hrenews
    exact hrenewal.givenUp hm hd rfl
  · contradiction

/-! ### The end of a run -/

theorem Pursues.not_mem_returns (h : Pursues url p stage m) (o : Option κ) : .returns o ∉ m := by
  cases h <;> simp

theorem Conduct.not_mem_returns (h : Conduct url stage m) (o : Option κ) : .returns o ∉ m := by
  obtain ⟨h, hm⟩ := h
  intro ho
  rcases List.mem_append.mp ho with ho | ho
  · cases h <;> simp at ho
  · exact hm.not_mem_returns o ho

theorem Rounds.not_mem_returns (h : Rounds url n l) (o : Option κ) : .returns o ∉ l := by
  induction h with
  | nil => exact List.not_mem_nil
  | cons hm _ _ ih => simpa [hm.not_mem_returns o] using ih

/-- The end of a log stands at its end. -/
theorem returns_inj {o o' : Option κ} (hm : .returns o ∉ m)
    (h : m ++ [.returns o'] = l₁ ++ .returns o :: l₂) : l₂ = [] ∧ o' = o := by
  rcases List.eq_nil_or_concat l₂ with rfl | ⟨l₃, x, rfl⟩
  · exact ⟨rfl, Deed.returns.inj (List.cons.inj (List.append_inj' h rfl).2).1⟩
  · rw [List.concat_eq_append, ← List.cons_append, ← List.append_assoc] at h
    have heq := (List.append_inj' h rfl).1
    exact absurd (heq ▸ List.mem_append_right l₁ List.mem_cons_self) hm

/-- **Behind its end a loop does nothing.** -/
theorem Course.eq_nil_of_returns {o : Option κ} (h : Course url r l)
    (heq : l = l₁ ++ .returns o :: l₂) : l₂ = [] ∧ r.place = .returned o := by
  obtain ⟨n, l₃, l₄, rfl, hl, hstands⟩ := h
  have hmem : .returns o ∈ l₃ ++ l₄ := heq ▸ List.mem_append_right l₁ List.mem_cons_self
  have hmem : .returns o ∈ l₄ := (List.mem_append.mp hmem).resolve_left (hl.not_mem_returns o)
  cases hstands with
  | looking _ => exact absurd hmem List.not_mem_nil
  | connecting _ _ hm => exact absurd hmem (by simp [hm.not_mem_returns o])
  | gone hp =>
    have hnot : .returns o ∉ l₃ ++ [.looks false] := by simp [hl.not_mem_returns o]
    obtain ⟨rfl, rfl⟩ := returns_inj hnot (by rw [← heq, List.append_assoc]; rfl)
    exact ⟨rfl, hp⟩
  | @returned _ o' m hp hm ho =>
    have hnot : .returns o ∉ l₃ ++ .looks true :: m := by
      simp [hl.not_mem_returns o, hm.not_mem_returns o]
    obtain ⟨rfl, rfl⟩ := returns_inj hnot (by rw [← heq, List.append_assoc]; rfl)
    exact ⟨rfl, hp⟩

/-- **A loop has a reason to be at its end…** -/
theorem Course.reason {o : Option κ} (h : Course url r l) (hp : r.place = .returned o) :
    Reason o l := by
  obtain ⟨n, l₃, l₄, rfl, -, hstands⟩ := h
  cases hstands with
  | looking hp' => exact absurd (hp.symm.trans hp') nofun
  | connecting hp' => exact absurd (hp.symm.trans hp') nofun
  | gone hp' =>
    obtain rfl := Place.returned.inj (hp.symm.trans hp')
    exact .unheard l₃
  | returned hp' hm ho =>
    obtain rfl := Place.returned.inj (hp.symm.trans hp')
    rcases hm.returned ho with ⟨l, t, k, rfl, rfl⟩ | ⟨l, t, d, rfl, hd, hsecond, rfl⟩
    · simpa using Reason.opened (l₃ ++ .looks true :: l) t k
    · simpa using Reason.rejected hd ((hsecond.append [.looks true]).append l₃)

/-- …and has gone its rounds in vain if it is about to look again. -/
theorem Course.inVain (h : Course url r l) (hp : r.place = .looking) : ∃ n, InVain n l := by
  obtain ⟨n, l₁, l₂, rfl, hl, hstands⟩ := h
  obtain rfl := hstands.eq_nil hp
  rw [List.append_nil]
  exact ⟨n, hl.inVain⟩

/-- No round in vain ends with a rejection. -/
theorem InVain.not_rejects (h : InVain n (l ++ [.dialled d])) : ¬ d.Rejects := by
  obtain ⟨ms, -, hms, heq⟩ := h
  rcases List.eq_nil_or_concat ms with rfl | ⟨ms, m, rfl⟩
  · simp at heq
  · have hlast := congrArg List.getLast? heq
    cases hms m (by simp) with
    | @unopened l t d' _ hrejects =>
      obtain rfl : d = d' := by simpa [List.getLast?_cons] using hlast
      exact hrejects
    | tokenless l hm =>
      obtain ⟨m₀, rfl, -⟩ := hm.exists_served
      simp [List.getLast?_cons] at hlast

theorem Reason.getLast?_eq {o : Option κ} (h : Reason o l) : l.getLast? = some (.returns o) := by
  cases h <;> simp

/-- **A second rejection is the end of a loop** that has nothing under way. -/
theorem Course.returned_of_second {result : Option (Option κ)} (h : Course url r l)
    (hp : r.place = .ofResult result) (hd : d.Rejects) (hs : Second t l₁)
    (heq : l = l₁ ++ .does (.tries t) :: .dialled d :: l₂) :
    l₂ = [.returns none] ∧ result = some none := by
  have hcut : l = (l₁ ++ [.does (.tries t), .dialled d]) ++ l₂ := by simp [heq]
  have hgivenUp := h.heeds.givenUp hd hs heq
  cases result with
  | none =>
    obtain ⟨n, hvain⟩ := h.inVain hp
    cases hgivenUp with
    | nil =>
      rw [hcut, List.append_nil, List.append_cons] at hvain
      exact absurd hd hvain.not_rejects
    | returns => exact absurd ((h.eq_nil_of_returns hcut).2.symm.trans hp) nofun
  | some o =>
    cases hgivenUp with
    | nil =>
      have hlast := (h.reason hp).getLast?_eq
      simp [hcut] at hlast
    | returns =>
      obtain rfl := Place.returned.inj ((h.eq_nil_of_returns hcut).2.symm.trans hp)
      exact ⟨rfl, rfl⟩

/-- **Refused upgrades stop a loop that opens a stream again,** in any run and among any callers of its
session.  Each attempt that ends was started just before, with some token.  If it is refused with the
status 401 or 403, then the token is renewed next, unless it is a renewed one itself, and what that
leads to is a `Renewal`: a failure ends the call, another token is tried next, and once.  If it is a
renewed one, the loop has given up.  The loop returns once, at its end, and has a `Reason`: the stream
was opened by the attempt just before, or nobody listens, or there was such a second refusal.  As long
as it looks again, all its rounds were in vain.

What `reconnect` does without other callers is such a run, with the outcomes that the world outside
gives it.  Its result is where the loop ends, with its reason there, and nothing is returned behind a
second refusal; if there is no result, each of the tries was a round in vain, and if there is one, more
tries would have changed nothing. -/
theorem reconnect_refused (url : Url) :
    (∀ (r : Redial κ) (es : List (Event κ)) (r' : Redial κ), r.place = .looking →
      r.run url es = some r' →
      (∀ l₁ d l₂, r.log url es = l₁ ++ .dialled d :: l₂ →
          ∃ l t, l₁ = l ++ [.does (.tries t)]
            ∧ ((d = .refused 401 ∨ d = .refused 403) →
              (¬ Second t l → ∃ l', l₂ = .renews t :: l' ∧ Renewal t l')
                ∧ (Second t l → GivenUp l₂)))
        ∧ (∀ l₁ o l₂, r.log url es = l₁ ++ .returns o :: l₂ → l₂ = [] ∧ r'.place = .returned o)
        ∧ (∀ o, r'.place = .returned o → Reason o (r.log url es))
        ∧ (r'.place = .looking → ∃ n, InVain n (r.log url es)))
    ∧ ∀ (c : Client) (t : Transport σ κ) (listens : σ → Bool) (n : Nat) (l : Link σ) (w : World κ),
      w.session = l.session → l.session.Free → w.callers Session.alone = none →
      (∃ es r', Encounters url (Meets c t url listens) ⟨w, .looking⟩ l.world es r'
          (c.reconnect t url listens n l).2.world
        ∧ Redial.run url ⟨w, .looking⟩ es = some r'
        ∧ r'.world.session = (c.reconnect t url listens n l).2.session
        ∧ r'.place = .ofResult (c.reconnect t url listens n l).1
        ∧ (∀ o, (c.reconnect t url listens n l).1 = some o →
          Reason o (Redial.log url ⟨w, .looking⟩ es))
        ∧ (∀ l₁ token d l₂,
          Redial.log url ⟨w, .looking⟩ es = l₁ ++ .does (.tries token) :: .dialled d :: l₂ →
          (d = .refused 401 ∨ d = .refused 403) → Second token l₁ →
          l₂ = [.returns none] ∧ (c.reconnect t url listens n l).1 = some none)
        ∧ ((c.reconnect t url listens n l).1 = none →
          InVain n (Redial.log url ⟨w, .looking⟩ es)))
      ∧ ∀ o k, (c.reconnect t url listens n l).1 = some o →
        c.reconnect t url listens (n + k) l = c.reconnect t url listens n l := by
  refine ⟨fun r es r' hplace hrun => ?_, fun c t listens n l w hs hfree hnone =>
    ⟨?_, fun o k ho => reconnect_of_isSome k (by rw [ho]; rfl)⟩⟩
  · have hcourse := run_course hplace hrun
    refine ⟨fun l₁ d l₂ hcut => ?_, fun _ _ _ hcut => hcourse.eq_nil_of_returns hcut,
      fun _ hp => hcourse.reason hp, hcourse.inVain⟩
    obtain ⟨l, t, rfl, hheeded⟩ := hcourse.heeds l₁ d l₂ hcut
    refine ⟨l, t, rfl, fun hd => ⟨fun hnot => (hheeded hd).resolve_right fun h => hnot h.1,
      fun hs => hcourse.heeds.givenUp hd hs (by simp [hcut])⟩⟩
  · obtain ⟨es, r', hes, hsession, hplace, hrounds⟩ :=
      reconnect_alone c t url listens n l w hs hfree hnone
    have hcourse := run_course rfl hes.run
    refine ⟨es, r', hes, hes.run, hsession, hplace, fun o ho => ?_,
      fun l₁ token d l₂ hcut hd hsecond => hcourse.returned_of_second hplace hd hsecond hcut,
      fun hnot => (hrounds hnot).inVain⟩
    rw [ho] at hplace
    exact hcourse.reason hplace

/-- A stream without a host. -/
def bareUrl : Url := ⟨['w', 's'], [], [], none, none, .rooted [], none, none⟩

/-- A loop before its first look, with a token in its session. -/
def holding : Redial Unit := ⟨.opening ⟨1⟩ (some ⟨"abc", 5⟩) 0, .looking⟩

/-- Its first token is rejected, and the one in place of it, too. -/
def rejectedTwice (t : Token) : List (Event Unit) :=
  [.looks true 0, .session (.advance 0), .session (.advance 0), .dialled (.refused 401),
    .session (.advance 0), .session (.advance 0), .session (.advance 0),
    .session (.exchangeEnds 0 (.ok t)), .session (.advance 0), .session (.advance 0),
    .dialled (.refused 403), .goesOn]

/-- What it has done when the second attempt is under way. -/
def renewedOnce : List (Deed Unit) :=
  [.looks true, .does (.served .refresh (.ok ⟨"abc", 5⟩)), .does (.tries ⟨"abc", 5⟩),
    .dialled (.refused 401), .renews ⟨"abc", 5⟩, .does .asks, .does (.told (.ok ⟨"def", 9⟩)),
    .does (.served (.replace ⟨"abc", 5⟩) (.ok ⟨"def", 9⟩))]

/-- A client without a secret. -/
def anybody : Client := ⟨.ofUrl bareUrl, ⟨.zero⟩⟩

/-- A service that gives a token for any nonce, and says in turn what becomes of a stream. -/
def doorkeeper : Transport (List (Dialled Unit)) Unit where
  now _ := 0
  send request s := (.ok ⟨200, if request.method = "GET" then "\x7b\"value\":\"ghi\"\x7d"
    else "\x7b\"token\":\"def\",\"expiry_ns\":9\x7d"⟩, s)
  dial _ s := (s.headD .failed, s.tail)

/-- It does not answer at first, and then refuses the token that the client holds and the one in place
of it. -/
def refusing : Link (List (Dialled Unit)) :=
  ⟨holding.world.session, [.timedOut, .refused 401, .refused 403]⟩

/-- What the client gets when it opens its stream again, with one try and with two. -/
theorem reconnect_refusing :
    (anybody.reconnect doorkeeper bareUrl (fun _ => true) 1 refusing).1 = none
      ∧ (anybody.reconnect doorkeeper bareUrl (fun _ => true) 2 refusing).1 = some none := by
  decide +kernel

/-- The loop returns nothing behind the second rejection, which was that of the renewed token.  So does
the client behind its second round; its first one was in vain, and is all that it does with one
try. -/
theorem reconnect_refused_rejectedTwice :
    (∃ r', holding.run bareUrl (rejectedTwice ⟨"def", 9⟩) = some r'
        ∧ r'.place = .returned none ∧ Second ⟨"def", 9⟩ renewedOnce)
      ∧ (∃ es r' x', Encounters bareUrl (Meets anybody doorkeeper bareUrl fun _ => true)
          holding refusing.world es r' x'
        ∧ (anybody.reconnect doorkeeper bareUrl (fun _ => true) 2 refusing).1 = some none
        ∧ r'.place = .returned none ∧ Reason none (holding.log bareUrl es))
      ∧ ∃ es r' x', Encounters bareUrl (Meets anybody doorkeeper bareUrl fun _ => true)
          holding refusing.world es r' x'
        ∧ (anybody.reconnect doorkeeper bareUrl (fun _ => true) 1 refusing).1 = none
        ∧ r'.place = .looking ∧ InVain 1 (holding.log bareUrl es) := by
  obtain ⟨hnone, hsome⟩ := reconnect_refusing
  refine ⟨?_, ?_, ?_⟩
  · obtain ⟨r', hrun⟩ : ∃ r', holding.run bareUrl (rejectedTwice ⟨"def", 9⟩) = some r' := ⟨_, rfl⟩
    have hend : r'.place = .returned none := by
      obtain rfl := Option.some.inj hrun
      rfl
    obtain ⟨l, t, hl, hrejected⟩ := ((reconnect_refused (σ := Unit) bareUrl).1 _ _ r' rfl hrun).1
      (renewedOnce ++ [.does (.tries ⟨"def", 9⟩)]) (.refused 403) [.returns none] rfl
    obtain ⟨rfl, ht⟩ := List.append_inj' hl rfl
    obtain rfl := Session.Deed.tries.inj (Deed.does.inj (List.cons.inj ht).1)
    refine ⟨r', hrun, hend, by_contra fun hnot => ?_⟩
    obtain ⟨l', heq, -⟩ := (hrejected (.inr rfl)).1 hnot
    cases heq
  · obtain ⟨⟨es, r', hes, -, -, hplace, hreason, -⟩, -⟩ := (reconnect_refused bareUrl).2 anybody
      doorkeeper (fun _ => true) 2 refusing holding.world rfl ⟨rfl, rfl⟩ rfl
    rw [hsome] at hplace
    exact ⟨es, r', _, hes, hsome, hplace, hreason none hsome⟩
  · obtain ⟨⟨es, r', hes, -, -, hplace, -, -, hvain⟩, -⟩ := (reconnect_refused bareUrl).2 anybody
      doorkeeper (fun _ => true) 1 refusing holding.world rfl ⟨rfl, rfl⟩ rfl
    rw [hnone] at hplace
    exact ⟨es, r', _, hes, hnone, hplace, hvain hnone⟩

end OrderDesk.Redial
