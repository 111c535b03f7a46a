import Mathlib.Data.List.Induction

/-!
# Proofs/Steps — systems that take steps

    s ──e₁──▸ s₁ ──e₂──▸ s₂ ──▸ …

A system is a partial function from a state and an event to the next state, defined where the event
can come.  A run is a list of events that can come one after the other; what is to hold at its end
is shown at its beginning and for each step (`run_induction`).
-/

namespace OrderDesk.Steps

variable {σ ε : Type} {step : σ → ε → Option σ} {s s' s₁ : σ} {e : ε} {es : List ε}

/-- **A run:** events one after the other. -/
def run (step : σ → ε → Option σ) (s : σ) : List ε → Option σ
  | [] => some s
  | e :: es => (step s e).bind (run step · es)

theorem run_cons : run step s (e :: es) = some s'
    ↔ ∃ s₁, step s e = some s₁ ∧ run step s₁ es = some s' := by
  rw [run, Option.bind_eq_some_iff]

theorem run_append (step : σ → ε → Option σ) : ∀ (s : σ) (es es' : List ε),
    run step s (es ++ es') = (run step s es).bind (run step · es')
  | _, [], _ => rfl
  | s, e :: es, es' => by
      rw [List.cons_append, run, run, Option.bind_assoc]
      exact congrArg _ (funext fun s₁ => run_append step s₁ es es')

theorem run_concat : run step s (es ++ [e]) = some s'
    ↔ ∃ s₁, run step s es = some s₁ ∧ step s₁ e = some s' := by
  simp [run_append, Option.bind_eq_some_iff, run]

/-- **What holds at the beginning and is kept by each step holds at the end of each run.**  It may
speak of the run so far. -/
theorem run_induction {P : List ε → σ → Prop} (hnil : P [] s)
    (hstep : ∀ es s₁ e s₂, run step s es = some s₁ → step s₁ e = some s₂ → P es s₁ →
      P (es ++ [e]) s₂)
    (hrun : run step s es = some s') : P es s' := by
  induction es using List.reverseRecOn generalizing s' with
  | nil => exact Option.some.inj hrun ▸ hnil
  | append_singleton es e ih =>
    obtain ⟨s₁, hs₁, he⟩ := run_concat.mp hrun
    exact hstep es s₁ e s' hs₁ he (ih hs₁)

/-! ## What a run comes through -/

/-- What holds of each event of a run, in the state that it comes in. -/
def Each (step : σ → ε → Option σ) (P : σ → ε → Prop) (s : σ) : List ε → Prop
  | [] => True
  | e :: es => P s e ∧ match step s e with
    | some s₁ => Each step P s₁ es
    | none => True

theorem Each.concat {P : σ → ε → Prop} : ∀ {es : List ε} {s : σ},
    Each step P s (es ++ [e]) → run step s es = some s₁ → Each step P s es ∧ P s₁ e
  | [], _, h, hrun => ⟨trivial, Option.some.inj hrun ▸ h.1⟩
  | e' :: es, s, h, hrun => by
      obtain ⟨s₂, hs₂, hrun⟩ := run_cons.mp hrun
      rw [List.cons_append, Each, hs₂] at h
      obtain ⟨hes, he⟩ := Each.concat h.2 hrun
      refine ⟨?_, he⟩
      rw [Each, hs₂]
      exact ⟨h.1, hes⟩

/-- Whether a run comes through a state. -/
def Visits (step : σ → ε → Option σ) (s : σ) (es : List ε) (P : σ → Prop) : Prop :=
  ∃ pre s₁, pre <+: es ∧ run step s pre = some s₁ ∧ P s₁

/-- A run comes through its end. -/
theorem visits_end {P : σ → Prop} (hrun : run step s es = some s') (h : P s') :
    Visits step s es P :=
  ⟨es, s', List.prefix_rfl, hrun, h⟩

theorem Visits.concat {P : σ → Prop} (h : Visits step s es P) (e : ε) :
    Visits step s (es ++ [e]) P := by
  obtain ⟨pre, s₁, hpre, hrun, hP⟩ := h
  exact ⟨pre, s₁, hpre.trans (List.prefix_append es [e]), hrun, hP⟩

/-! ## What a run leaves behind -/

variable {τ : Type} {note : σ → ε → List τ}

/-- What is noted of the events of a run, one after the other, each in the state that it comes in. -/
def trace (step : σ → ε → Option σ) (note : σ → ε → List τ) (s : σ) : List ε → List τ
  | [] => []
  | e :: es => note s e ++ match step s e with
    | some s₁ => trace step note s₁ es
    | none => []

theorem trace_cons (he : step s e = some s₁) (es : List ε) :
    trace step note s (e :: es) = note s e ++ trace step note s₁ es := by
  rw [trace, he]

theorem trace_append : ∀ {es : List ε} {s : σ}, run step s es = some s₁ → ∀ es',
    trace step note s (es ++ es') = trace step note s es ++ trace step note s₁ es'
  | [], s, hrun, es' => by
      obtain rfl := Option.some.inj hrun
      rw [List.nil_append, trace, List.nil_append]
  | e :: es, s, hrun, es' => by
      obtain ⟨s₂, hs₂, hrun⟩ := run_cons.mp hrun
      rw [List.cons_append, trace_cons hs₂, trace_cons hs₂, trace_append hrun es',
        List.append_assoc]

theorem trace_concat (e : ε) (hrun : run step s es = some s₁) :
    trace step note s (es ++ [e]) = trace step note s es ++ note s₁ e := by
  have hlast : trace step note s₁ [e] = note s₁ e := by
    rw [trace]
    split <;> exact List.append_nil _
  rw [trace_append hrun, hlast]

/-! ## What a run adds up to -/

variable {β : Type} {book : β → σ → ε → β} {b : β}

/-- What is kept of the events of a run, one after the other, each in the state that it comes in. -/
def tally (step : σ → ε → Option σ) (book : β → σ → ε → β) (b : β) (s : σ) : List ε → β
  | [] => b
  | e :: es => match step s e with
    | some s₁ => tally step book (book b s e) s₁ es
    | none => b

theorem tally_cons (he : step s e = some s₁) (es : List ε) :
    tally step book b s (e :: es) = tally step book (book b s e) s₁ es := by
  rw [tally, he]

theorem tally_append : ∀ {es : List ε} {s : σ} {b : β}, run step s es = some s₁ → ∀ es',
    tally step book b s (es ++ es') = tally step book (tally step book b s es) s₁ es'
  | [], s, b, hrun, es' => by
      obtain rfl := Option.some.inj hrun
      rfl
  | e :: es, s, b, hrun, es' => by
      obtain ⟨s₂, hs₂, hrun⟩ := run_cons.mp hrun
      rw [List.cons_append, tally_cons hs₂, tally_cons hs₂, tally_append hrun es']

theorem tally_concat (he : step s₁ e = some s') (hrun : run step s es = some s₁) :
    tally step book b s (es ++ [e]) = book (tally step book b s es) s₁ e := by
  rw [tally_append hrun, tally_cons he, tally]

/-- A part of what is kept, if it is kept by itself. -/
theorem tally_map {γ : Type} {book' : γ → σ → ε → γ} {f : β → γ}
    (hf : ∀ b s e, f (book b s e) = book' (f b) s e) : ∀ (es : List ε) (s : σ) (b : β),
    f (tally step book b s es) = tally step book' (f b) s es
  | [], _, _ => rfl
  | e :: es, s, b => by
      rw [tally, tally]
      split
      · rw [tally_map hf, hf]
      · rfl

end OrderDesk.Steps
