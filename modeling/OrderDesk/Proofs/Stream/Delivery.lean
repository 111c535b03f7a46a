import OrderDesk.Proofs.Stream.Readings
import Mathlib.Data.List.Basic

/-!
# Proofs/Stream/Delivery — what a stream delivers

A stream reads its connections from their beginnings, payload by payload, and stops short of an end
only behind a ping that could not be answered or an item that found nobody (`ReadsOf`, `StreamReads`).
Its reader may remember what it was asked; it is asked about the data among the payloads read, one
after the other and each once, and about nothing else (`Asked`).  What it does not refuse is on the
queue.
-/

namespace OrderDesk.Feed

variable {α σ : Type}

/-! ## What is read -/

/-- **How a connection is read:** up to its end, or up to a reading that is the last one. -/
inductive ReadsOf : List (Reading α) → List Arrival → Prop
  | ended : ReadsOf [] []
  | last {x : Reading α} {as : List Arrival} (h : x.isLast = true) :
      ReadsOf [x] (x.arrival :: as)
  | next {x : Reading α} {xs : List (Reading α)} {as : List Arrival} (h : x.isLast = false)
      (hxs : ReadsOf xs as) : ReadsOf (x :: xs) (x.arrival :: as)

/-- **How a stream is read:** connection by connection, with `reconnect` and until an item finds
nobody. -/
inductive StreamReads (reconnect : Bool) : List (List (Reading α)) → List (List Arrival) → Prop
  | ended : StreamReads reconnect [] []
  | last {xs : List (Reading α)} {as : List Arrival} {rest : List (List Arrival)}
      (hxs : ReadsOf xs as) (h : reconnect = false ∨ xs.any Reading.isLost = true) :
      StreamReads reconnect [xs] (as :: rest)
  | next {xs : List (Reading α)} {as : List Arrival} {xss : List (List (Reading α))}
      {rest : List (List Arrival)} (hxs : ReadsOf xs as) (h : reconnect = true)
      (hlost : xs.any Reading.isLost = false) (hxss : StreamReads reconnect xss rest) :
      StreamReads reconnect (xs :: xss) (as :: rest)

variable {x : Reading α} {xs : List (Reading α)} {xss : List (List (Reading α))}

/-- Without a lost item the queue holds what the reader did not refuse. -/
theorem item?_eq_result (h : x.isLost = false) : x.item? = x.result := by
  rw [Reading.isLost] at h
  rw [Reading.item?]
  split
  · rfl
  · next hl =>
    rw [Bool.not_eq_true] at hl
    rw [hl, Bool.not_false, Bool.and_true, Option.isSome_eq_false_iff, Option.isNone_iff_eq_none] at h
    exact h.symm

theorem filterMap_item?_eq (h : xs.any Reading.isLost = false) :
    xs.filterMap Reading.item? = xs.filterMap Reading.result := by
  rw [List.any_eq_false] at h
  exact List.filterMap_congr fun x hx => item?_eq_result (Bool.eq_false_iff.mpr (h x hx))

/-- In a connection an item is lost at the very end, or none is. -/
theorem ReadsOf.lost {as : List Arrival} (h : ReadsOf xs as) (hlost : xs.any Reading.isLost = true) :
    ∃ l x, xs = l ++ [x] ∧ x.isLost = true ∧ l.any Reading.isLost = false := by
  induction h with
  | ended => contradiction
  | @last x as hx => exact ⟨[], x, rfl, by simpa using hlost, rfl⟩
  | @next x xs as hx hxs ih =>
    rw [Reading.isLast, Bool.or_eq_false_iff] at hx
    rw [List.any_cons, hx.2, Bool.false_or] at hlost
    obtain ⟨l, y, rfl, hy, hl⟩ := ih hlost
    exact ⟨x :: l, y, rfl, hy, by rw [List.any_cons, hx.2, hl]; rfl⟩

/-- So it is in a stream. -/
theorem StreamReads.lost {reconnect : Bool} {connections : List (List Arrival)}
    (h : StreamReads reconnect xss connections) : xss.flatten.any Reading.isLost = false
      ∨ ∃ l x, xss.flatten = l ++ [x] ∧ x.isLost = true ∧ l.any Reading.isLost = false := by
  induction h with
  | ended => exact .inl rfl
  | @last xs as rest hxs h =>
    rw [List.flatten_singleton]
    cases hlost : xs.any Reading.isLost with
    | false => exact .inl rfl
    | true => exact .inr (hxs.lost hlost)
  | @next xs as xss rest hxs h hlost hxss ih =>
    rw [List.flatten_cons]
    rcases ih with ih | ⟨l, x, heq, hx, hl⟩
    · exact .inl (by rw [List.any_append, hlost, ih]; rfl)
    · refine .inr ⟨xs ++ l, x, by rw [heq, List.append_assoc], hx, ?_⟩
      rw [List.any_append, hlost, hl]
      rfl

/-- **What the reader did not refuse is on the queue,** but for an item that found nobody. -/
theorem StreamReads.results {reconnect : Bool} {connections : List (List Arrival)}
    (h : StreamReads reconnect xss connections) :
    xss.flatten.filterMap Reading.result = xss.flatten.filterMap Reading.item?
      ∨ ∃ l x y, xss.flatten = l ++ [x] ∧ x.result = some y ∧ x.arrival.listening = false
        ∧ xss.flatten.filterMap Reading.result = xss.flatten.filterMap Reading.item? ++ [y] := by
  rcases h.lost with h | ⟨l, x, heq, hx, hl⟩
  · exact .inl (filterMap_item?_eq h).symm
  · rw [Reading.isLost, Bool.and_eq_true, Bool.not_eq_true'] at hx
    obtain ⟨y, hy⟩ := Option.isSome_iff_exists.mp hx.1
    have hitem : x.item? = none := by rw [Reading.item?, hx.2]; rfl
    refine .inr ⟨l, x, y, heq, hy, hx.2, ?_⟩
    rw [heq, List.filterMap_append, List.filterMap_append, filterMap_item?_eq hl]
    simp [hy, hitem]

/-! ## What the reader is asked -/

variable {read : Json.Value → StateM σ (Option α)} {s s₁ s' : σ}

/-- One thing after the other. -/
theorem run_bind_eq {β γ : Type} {k : StateM σ β} {b : β} (h : k.run s = (b, s₁))
    (next : β → StateM σ γ) : (k >>= next).run s = (next b).run s₁ := by
  rw [StateT.run_bind, h]
  rfl

/-- **What the reader is asked,** from one of its states to another: the data among the payloads read,
in order. -/
structure Asked (read : Json.Value → StateM σ (Option α)) (s : σ) (xs : List (Reading α)) (s' : σ) :
    Prop where
  mapM_eq : ((xs.filterMap (·.arrival.data?)).mapM read).run s = (xs.filterMap Reading.answer?, s')
  result_eq_none : ∀ x ∈ xs, x.arrival.data? = none → x.result = none

theorem asked_nil (read : Json.Value → StateM σ (Option α)) (s : σ) : Asked read s [] s :=
  ⟨rfl, fun _ hx => absurd hx List.not_mem_nil⟩

theorem Asked.append {ys : List (Reading α)} (h : Asked read s xs s₁) (h' : Asked read s₁ ys s') :
    Asked read s (xs ++ ys) s' where
  mapM_eq := by
    rw [List.filterMap_append, List.mapM_append, run_bind_eq h.mapM_eq, run_bind_eq h'.mapM_eq,
      List.filterMap_append]
    rfl
  result_eq_none x hx := (List.mem_append.mp hx).elim (h.result_eq_none x) (h'.result_eq_none x)

/-- The reader is asked about a payload that holds data, and about no other. -/
theorem look_asked (read : Json.Value → StateM σ (Option α)) (a : Arrival) (s : σ) :
    ∃ x s', (look read a).run s = (x, s') ∧ x.arrival = a ∧ Asked read s [x] s' := by
  cases hdata : a.data? with
  | none =>
    refine ⟨⟨a, none⟩, s, by rw [look, hdata]; rfl, rfl, ?_, fun x hx _ => ?_⟩
    · simp only [List.filterMap_cons, List.filterMap_nil, hdata, Reading.answer?, Option.map_none]
      rfl
    · rw [List.mem_singleton.mp hx]
  | some v =>
    obtain ⟨r, s', hr⟩ : ∃ r s', (read v).run s = (r, s') := ⟨_, _, rfl⟩
    refine ⟨⟨a, r⟩, s', ?_, rfl, ?_, fun x hx hnone => ?_⟩
    · rw [look, hdata]
      show (Reading.mk a <$> read v).run s = _
      rw [map_eq_pure_bind, run_bind_eq hr]
      rfl
    · simp only [List.filterMap_cons, List.filterMap_nil, hdata, Reading.answer?, Option.map_some]
      rw [List.mapM_cons, run_bind_eq hr]
      rfl
    · rw [List.mem_singleton.mp hx, hdata] at hnone
      exact absurd hnone (Option.some_ne_none v)

theorem readings_asked (read : Json.Value → StateM σ (Option α)) : ∀ (as : List Arrival) (s : σ),
    ∃ xs s', (readings read as).run s = (xs, s') ∧ ReadsOf xs as ∧ Asked read s xs s'
  | [], s => ⟨[], s, rfl, .ended, asked_nil read s⟩
  | a :: as, s => by
      obtain ⟨x, s₁, hx, rfl, hasked⟩ := look_asked read a s
      rw [readings, run_bind_eq hx]
      cases hlast : x.isLast with
      | true => exact ⟨[x], s₁, rfl, .last hlast, hasked⟩
      | false =>
        obtain ⟨xs, s', hxs, hreads, hrest⟩ := readings_asked read as s₁
        refine ⟨x :: xs, s', ?_, .next hlast hreads, hasked.append hrest⟩
        rw [if_neg Bool.false_ne_true, map_eq_pure_bind, run_bind_eq hxs]
        rfl

theorem allReadings_asked (read : Json.Value → StateM σ (Option α)) (reconnect : Bool) :
    ∀ (connections : List (List Arrival)) (s : σ),
      ∃ xss s', (allReadings read reconnect connections).run s = (xss, s')
        ∧ StreamReads reconnect xss connections ∧ Asked read s xss.flatten s'
  | [], s => ⟨[], s, rfl, .ended, asked_nil read s⟩
  | as :: rest, s => by
      obtain ⟨xs, s₁, hxs, hreads, hasked⟩ := readings_asked read as s
      rw [allReadings, run_bind_eq hxs]
      cases hon : reconnect && !xs.any Reading.isLost with
      | false =>
        rw [Bool.and_eq_false_iff, Bool.not_eq_false'] at hon
        exact ⟨[xs], s₁, rfl, .last hreads hon, by rwa [List.flatten_singleton]⟩
      | true =>
        rw [Bool.and_eq_true, Bool.not_eq_true'] at hon
        obtain ⟨xss, s', hxss, hrests, hrest⟩ := allReadings_asked read reconnect rest s₁
        refine ⟨xs :: xss, s', ?_, .next hreads hon.1 hon.2 hrests, hasked.append hrest⟩
        rw [if_pos rfl, map_eq_pure_bind, run_bind_eq hxss]
        rfl

/-! ## What is passed over -/

section PassedOver

variable {m : Type → Type} [Monad m] {read : Json.Value → m (Option α)} {a : Arrival}

/-- Without `reconnect` there is only the first connection. -/
theorem run_of_not_reconnect (read : Json.Value → m (Option α)) (f : Feed α) (as : List Arrival)
    (rest : List (List Arrival)) : f.run read false (as :: rest) = f.run read false [as] := by
  rw [run, run]
  refine congrArg (f.takeAll read as >>= ·) (funext fun p => ?_)
  split <;> rfl

/-- What is malformed goes nowhere, and the reader is not asked. -/
theorem route_of_malformed (h : Frame.classify a.payload = none) :
    route read a.payload = pure .skip := by
  rw [route, h]

variable [LawfulMonad m]

/-- What the reader refuses goes nowhere. -/
theorem route_of_refused {v : Json.Value} (h : Frame.classify a.payload = some (.data v))
    (hread : read v = pure none) : route read a.payload = pure .skip := by
  rw [route, h]
  simp only [hread, map_pure, Routed.ofRead]

/-- What goes nowhere leaves the stream as it was, and reading. -/
theorem take_of_skip (h : route read a.payload = pure .skip) (f : Feed α) :
    f.take read a = pure (f, .reading) := by
  rw [take, h, map_pure]
  rfl

theorem takeAll_of_skip (h : route read a.payload = pure .skip) (behind : List Arrival) :
    ∀ (before : List Arrival) (f : Feed α),
      f.takeAll read (before ++ a :: behind) = f.takeAll read (before ++ behind)
  | [], f => by rw [List.nil_append, List.nil_append, takeAll, take_of_skip h, pure_bind]
  | b :: before, f => by
      rw [List.cons_append, List.cons_append, takeAll, takeAll]
      refine congrArg (f.take read b >>= ·) (funext fun p => ?_)
      split
      · exact takeAll_of_skip h behind before _
      · rfl

/-- **A stream is what it is without a payload that goes nowhere.** -/
theorem run_of_skip (h : route read a.payload = pure .skip) (reconnect : Bool)
    (before behind : List Arrival) (later : List (List Arrival)) :
    ∀ (earlier : List (List Arrival)) (f : Feed α),
      f.run read reconnect (earlier ++ (before ++ a :: behind) :: later)
        = f.run read reconnect (earlier ++ (before ++ behind) :: later)
  | [], f => by rw [List.nil_append, List.nil_append, run, run, takeAll_of_skip h]
  | as :: earlier, f => by
      rw [List.cons_append, List.cons_append, run, run]
      refine congrArg (f.takeAll read as >>= ·) (funext fun p => ?_)
      split
      · split
        · exact run_of_skip h reconnect before behind later earlier _
        · rfl
      · rfl

end PassedOver

/-- Refused data leaves the stream as it was, and reading, whatever the reader remembers of it. -/
theorem take_of_refused {a : Arrival} {v : Json.Value}
    (h : Frame.classify a.payload = some (.data v)) (hread : (read v).run s = (none, s'))
    (f : Feed α) : (f.take read a).run s = ((f, .reading), s') := by
  rw [take, route, h]
  show (f.absorb a <$> (Routed.ofRead <$> read v)).run s = _
  rw [Functor.map_map, map_eq_pure_bind, run_bind_eq hread]
  rfl

/-! ## What a stream delivers -/

/-- **A stream delivers what its reader makes of the data it reads, once each and in order.**  It reads
its connections as `StreamReads` has it.  The reader is asked about the data among what was read, one
after the other, whatever it remembers, and about nothing else; what it does not refuse is on the
queue, but for an item that found nobody, and that is the last thing that is read.  A payload that is
malformed, or refused without a trace, might as well not have come; what is refused with one leaves
the stream as it was, and reading; without `reconnect` there is only the first connection. -/
theorem run_delivers (read : Json.Value → StateM σ (Option α)) (reconnect : Bool)
    (connections : List (List Arrival)) (s : σ) :
    (∃ (xss : List (List (Reading α))) (f : Feed α) (s' : σ),
      (empty.run read reconnect connections).run s = (f, s')
      ∧ StreamReads reconnect xss connections
      ∧ ((xss.flatten.filterMap (·.arrival.data?)).mapM read).run s
        = (xss.flatten.filterMap Reading.answer?, s')
      ∧ (∀ x ∈ xss.flatten, x.arrival.data? = none → x.result = none)
      ∧ (xss.flatten.filterMap Reading.result = f.items
        ∨ ∃ l x y, xss.flatten = l ++ [x] ∧ x.result = some y ∧ x.arrival.listening = false
          ∧ xss.flatten.filterMap Reading.result = f.items ++ [y]))
    ∧ (∀ (a : Arrival) (f : Feed α) (earlier later : List (List Arrival))
        (before behind : List Arrival), (Frame.classify a.payload = none
          ∨ ∃ v, Frame.classify a.payload = some (.data v) ∧ read v = pure none) →
        f.run read reconnect (earlier ++ (before ++ a :: behind) :: later)
          = f.run read reconnect (earlier ++ (before ++ behind) :: later))
    ∧ (∀ (a : Arrival) (v : Json.Value) (f : Feed α) (s s' : σ),
        Frame.classify a.payload = some (.data v) → (read v).run s = (none, s') →
        (f.take read a).run s = ((f, .reading), s'))
    ∧ ∀ (f : Feed α) (as : List Arrival) (rest : List (List Arrival)),
        f.run read false (as :: rest) = f.run read false [as] := by
  refine ⟨?_, fun a f earlier later before behind ha => ?_,
    fun a v f s s' ha hread => take_of_refused ha hread f, run_of_not_reconnect read⟩
  · obtain ⟨xss, s', hrun, hreads, hasked⟩ := allReadings_asked read reconnect connections s
    refine ⟨xss, empty.after xss.flatten, s', ?_, hreads, hasked.mapM_eq, hasked.result_eq_none,
      by simpa only [after, empty, List.nil_append] using hreads.results⟩
    rw [run_eq, map_eq_pure_bind, run_bind_eq hrun]
    rfl
  · refine run_of_skip ?_ reconnect before behind later earlier f
    rcases ha with ha | ⟨v, ha, hread⟩
    · exact route_of_malformed ha
    · exact route_of_refused ha hread

/-- A reader that counts, over a payload cut short and a ping that cannot be answered: the data behind
that ping is never read, and the next connection goes on with the count. -/
example : ((empty.run (fun _ => StateT.mk fun n => pure (some n, n + 1)) true
    [[⟨"7".toUTF8.toList, true, true⟩, ⟨"[".toUTF8.toList, true, true⟩,
      ⟨"\x7b\"type\":\"ping\"\x7d".toUTF8.toList, false, true⟩, ⟨"9".toUTF8.toList, true, true⟩],
     [⟨"8".toUTF8.toList, true, true⟩]] : StateM Nat (Feed Nat)).run 0).1.items = [0, 1] := by
  decide +kernel

end OrderDesk.Feed
