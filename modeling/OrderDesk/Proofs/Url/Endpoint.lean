import Mathlib.Logic.Function.Iterate
import OrderDesk.Proofs.Url.Base

/-!
# Proofs/Url/Endpoint — when an endpoint lies below its base

    stem of the base = kept ⌢ left behind
    endpoint         = kept ⌢ descent

Whatever its segments are, a relative path comes down to a number of steps up and then a descent
through names (`Walk`, `foldl_lead_after`).  Only its steps up can lead out of the base: they leave
names of the stem behind.  So an endpoint lies below its base exactly if its path goes back down
through all that it has left behind (`endpoint_below_iff`), and it always does so if no segment goes up.
-/

namespace OrderDesk.Url

variable {names steps : List (List Char)} {base : Url} {text : String}

/-! ## Walks -/

/-- **What a relative path comes down to:** steps up, and then names, the last one first. -/
structure Walk where
  climbs : Nat
  names : List (List Char)

namespace Walk

/-- A segment more.  To go up is to take back the last name, if there is one. -/
def step (w : Walk) (segment : List Char) : Walk :=
  match move segment with
  | .down => { w with names := segment :: w.names }
  | .stay => w
  | .up => match w.names with
    | [] => { w with climbs := w.climbs + 1 }
    | name :: names => { w with names := raise (name :: names) }

/-- Where a walk leads to, last step first. -/
def after (w : Walk) (done : List (List Char)) : List (List Char) :=
  w.names ++ raise^[w.climbs] done

/-- What is gone down to in the end. -/
def descent (w : Walk) : List (List Char) := w.names.reverse

/-- The walk along segments. -/
def along (steps : List (List Char)) : Walk :=
  let w := steps.foldl step ⟨0, []⟩
  if steps.getLast?.any (move · ≠ .down) then { w with names := [] :: w.names } else w

/-- **The walk along a caller's path.** -/
def ofPath (path : String) : Walk := along (stepsOf (relative path.toList))

theorem raise_append {name : List Char} (names done : List (List Char)) :
    raise (name :: names ++ done) = raise (name :: names) ++ done := by
  rw [List.cons_append, raise, raise]
  split <;> rfl

/-- **A step of the walk is a step of the path.** -/
theorem lead_after (w : Walk) (done : List (List Char)) (segment : List Char) :
    lead (w.after done) segment = (w.step segment).after done := by
  obtain ⟨climbs, names⟩ := w
  cases hmove : move segment with
  | down => simp only [lead, step, hmove, after, List.cons_append]
  | stay => simp only [lead, step, hmove]
  | up =>
    cases names with
    | nil => simp only [lead, step, hmove, after, List.nil_append, Function.iterate_succ_apply']
    | cons name names => simp only [lead, step, hmove, after, raise_append]

/-- …and so are all of them. -/
theorem foldl_lead_after (w : Walk) (done steps : List (List Char)) :
    steps.foldl lead (w.after done) = (steps.foldl step w).after done := by
  induction steps generalizing w with
  | nil => rfl
  | cons segment steps ih => rw [List.foldl_cons, List.foldl_cons, lead_after, ih]

/-- **Where segments lead is where their walk leads,** from wherever it begins. -/
theorem arrive_eq_after (done steps : List (List Char)) :
    arrive done steps = (along steps).after done := by
  have hfold := foldl_lead_after ⟨0, []⟩ done steps
  rw [arrive, along]
  split
  · exact congrArg ([] :: ·) hfold
  · exact hfold

theorem climbs_step {w : Walk} {segment : List Char} (h : move segment ≠ .up) :
    (w.step segment).climbs = w.climbs := by
  rw [step]
  cases hmove : move segment with
  | down => rfl
  | stay => rfl
  | up => exact absurd hmove h

/-- Without a segment that goes up no step does. -/
theorem climbs_along (h : ∀ s ∈ steps, move s ≠ .up) : (along steps).climbs = 0 := by
  have hfold : ∀ w : Walk, (steps.foldl step w).climbs = w.climbs := by
    induction steps with
    | nil => exact fun w => rfl
    | cons segment steps ih =>
      obtain ⟨hsegment, hsteps⟩ := List.forall_mem_cons.mp h
      exact fun w => (ih hsteps _).trans (climbs_step hsegment)
  rw [along]
  split <;> exact hfold _

end Walk

/-! ## Steps up -/

/-- What is left of names some steps further up. -/
def climb (k : Nat) (names : List (List Char)) : List (List Char) :=
  (raise^[k] names.reverse).reverse

/-- What some steps up leave behind. -/
def leftBehind (k : Nat) (names : List (List Char)) : List (List Char) :=
  names.drop (climb k names).length

theorem raise_suffix : ∀ done : List (List Char), raise done <:+ done
  | [] => List.suffix_refl _
  | segment :: done => by
      rw [raise]
      split
      · exact List.suffix_refl _
      · exact List.suffix_cons segment done

theorem iterate_raise_suffix (k : Nat) (done : List (List Char)) : raise^[k] done <:+ done := by
  induction k with
  | zero => exact List.suffix_refl _
  | succ k ih =>
    rw [Function.iterate_succ_apply']
    exact (raise_suffix _).trans ih

theorem climb_append_leftBehind (k : Nat) (names : List (List Char)) :
    climb k names ++ leftBehind k names = names := by
  have hprefix : climb k names <+: names := by
    rw [climb, ← List.reverse_suffix, List.reverse_reverse]
    exact iterate_raise_suffix k _
  exact List.prefix_iff_eq_append.mp hprefix

theorem iterate_raise_eq_drop (k : Nat) {done : List (List Char)}
    (h : ∀ name ∈ done, holds name = false) : raise^[k] done = done.drop k := by
  induction k generalizing done with
  | zero => rfl
  | succ k ih =>
    cases done with
    | nil => rw [Function.iterate_succ_apply, raise, ih h, List.drop_nil, List.drop_nil]
    | cons segment done =>
      obtain ⟨hsegment, hdone⟩ := List.forall_mem_cons.mp h
      rw [Function.iterate_succ_apply, raise, if_neg (by simp [hsegment])]
      exact ih hdone

/-- Where no name is a drive, each step up leaves one name behind. -/
theorem leftBehind_eq_drop (h : ∀ name ∈ names, holds name = false) (k : Nat) :
    leftBehind k names = names.drop (names.length - k) := by
  rw [leftBehind, climb, iterate_raise_eq_drop k (by simpa using h)]
  simp

/-! ## Paths below paths -/

/-- **A text at a path or below it:** the path itself, or with a slash behind it. -/
def Below (above text : List Char) : Prop := text = above ∨ ∃ rest, text = above ++ '/' :: rest

instance (above text : List Char) : Decidable (Below above text) :=
  decidable_of_iff (text = above ∨ above ++ ['/'] <+: text) <| or_congr_right <| by
    simp [List.IsPrefix, eq_comm]

/-- **A path of segments is below another one if it has its segments in front.** -/
theorem below_joined_iff {above : List (List Char)} (habove : ∀ name ∈ above, IsSegment name)
    (hnames : ∀ name ∈ names, IsSegment name) :
    Below (joined above) (joined names) ↔ above <+: names := by
  constructor
  · rintro (h | ⟨rest, h⟩)
    · obtain rfl := joined_inj hnames habove h
      exact List.prefix_refl _
    · have hfull : names ≠ [] := mt joined_eq_nil_iff.mpr (by simp [h])
      rw [← stepsOf_joined hnames hfull, h, stepsOf_joined_append habove]
      exact List.prefix_append _ _
  · rintro ⟨more, rfl⟩
    rw [joined_append]
    cases more with
    | nil => exact .inl (List.append_nil _)
    | cons name more => exact .inr ⟨name ++ joined more, rfl⟩

/-! ## Endpoints and streams -/

/-- **Where an endpoint is:** the base with another path, which keeps of the stem what the steps up
leave and goes on with the descent. -/
theorem OnWeb.endpoint_eq_descent (h : OnWeb base) (path : String) : base.endpoint path
    = { base with
        path := .rooted (climb (Walk.ofPath path).climbs base.path.stem
          ++ (Walk.ofPath path).descent) } := by
  rw [h.endpoint_eq, Walk.arrive_eq_after, Walk.after, List.reverse_append]
  rfl

/-- **An endpoint is below its base exactly if its path goes back down through what it has left
behind.** -/
theorem OnWeb.below_iff (h : OnWeb base) (path : String) :
    Below (dropEndSlashes base.path.text) (base.endpoint path).path.text
      ↔ leftBehind (Walk.ofPath path).climbs base.path.stem <+: (Walk.ofPath path).descent := by
  have hnames : ∀ name ∈ climb (Walk.ofPath path).climbs base.path.stem
      ++ (Walk.ofPath path).descent, IsSegment name := by
    obtain ⟨names, hpath, hnames⟩ := (h.onWeb_endpoint path).path
    rw [h.endpoint_eq_descent] at hpath
    rw [Path.rooted.inj hpath]
    exact fun name hname => (hnames name hname).toIsSegment
  calc Below (dropEndSlashes base.path.text) (base.endpoint path).path.text
      ↔ Below (joined base.path.stem) (joined (climb (Walk.ofPath path).climbs base.path.stem
          ++ (Walk.ofPath path).descent)) := by
        rw [h.dropEndSlashes_path, h.endpoint_eq_descent]
        rfl
    _ ↔ base.path.stem <+: climb (Walk.ofPath path).climbs base.path.stem
          ++ (Walk.ofPath path).descent := below_joined_iff h.isSegment_of_mem_stem hnames
    _ ↔ climb (Walk.ofPath path).climbs base.path.stem
            ++ leftBehind (Walk.ofPath path).climbs base.path.stem
          <+: climb (Walk.ofPath path).climbs base.path.stem ++ (Walk.ofPath path).descent := by
        rw [climb_append_leftBehind]
    _ ↔ leftBehind (Walk.ofPath path).climbs base.path.stem <+: (Walk.ofPath path).descent :=
        List.prefix_append_right_inj _

theorem OnWeb.below_of_no_up (h : OnWeb base) {path : String}
    (hno : ∀ segment ∈ stepsOf (relative path.toList), move segment ≠ .up) :
    Below (dropEndSlashes base.path.text) (base.endpoint path).path.text := by
  have hclimbs : (Walk.ofPath path).climbs = 0 := Walk.climbs_along hno
  have hleft : leftBehind 0 base.path.stem = [] := by simp [leftBehind, climb]
  rw [h.below_iff, hclimbs, hleft]
  exact List.nil_prefix

/-- **Which endpoints and streams are below their base.**  Both have everything but the path, and a
stream the scheme, from the base.  They are below it exactly if the path goes back down through what
its steps up have left behind, which is a name for each step where the base has no drive in it.  So
they are if no segment of the path goes up. -/
theorem endpoint_below_iff {scheme : List Char} (hbase : parse? text = some base)
    (hscheme : (base.scheme, scheme) ∈ families) (path : String) :
    base.endpoint path = { base with
        path := .rooted (climb (Walk.ofPath path).climbs base.path.stem
          ++ (Walk.ofPath path).descent) } ∧
      base.stream path = .ok { base.endpoint path with scheme := scheme } ∧
      (Below (dropEndSlashes base.path.text) (base.endpoint path).path.text
        ↔ leftBehind (Walk.ofPath path).climbs base.path.stem <+: (Walk.ofPath path).descent) ∧
      ((∀ name ∈ base.path.stem, holds name = false) →
        leftBehind (Walk.ofPath path).climbs base.path.stem
          = base.path.stem.drop (base.path.stem.length - (Walk.ofPath path).climbs)) ∧
      ((∀ segment ∈ stepsOf (relative path.toList), move segment ≠ .up) →
        Below (dropEndSlashes base.path.text) (base.endpoint path).path.text) := by
  have hweb := onWeb_of_parse? hbase (of_mem_families hscheme).1
  exact ⟨hweb.endpoint_eq_descent path, stream_of_mem_families hscheme path, hweb.below_iff path,
    fun hdrives => leftBehind_eq_drop hdrives _, hweb.below_of_no_up⟩

/-- A service below a path of this host. -/
def loopback : Url where
  scheme := ['h', 't', 't', 'p']
  user := []
  password := []
  host := some (.v6 [0, 0, 0, 0, 0, 0, 0, 1])
  port := none
  path := .rooted [['a', 'p', 'i']]
  query := none
  fragment := none

/-- What is left behind and gone down to again is not left. -/
theorem endpoint_below_iff_andBack :
    parse? "http://[::1]/api" = some loopback ∧ (loopback.scheme, ['w', 's']) ∈ families ∧
      Below ['/', 'a', 'p', 'i'] (loopback.endpoint "../api/x").path.text := by
  have hbase : parse? "http://[::1]/api" = some loopback := by decide +kernel
  have hscheme : (loopback.scheme, ['w', 's']) ∈ families := by decide
  obtain ⟨-, -, hbelow, -⟩ := endpoint_below_iff hbase hscheme "../api/x"
  exact ⟨hbase, hscheme, hbelow.mpr (by decide +kernel)⟩

/-- **Not every endpoint and not every stream is below its base.** -/
theorem not_endpoint_below :
    (¬ ∀ (text path : String) (base : Url) (scheme : List Char), parse? text = some base →
      (base.scheme, scheme) ∈ families →
      Below (dropEndSlashes base.path.text) (base.endpoint path).path.text) ∧
    ¬ ∀ (text path : String) (base stream : Url) (scheme : List Char), parse? text = some base →
      (base.scheme, scheme) ∈ families → base.stream path = .ok stream →
      Below (dropEndSlashes base.path.text) stream.path.text := by
  have hbase : parse? "http://[::1]/api" = some loopback := by decide +kernel
  have hscheme : (loopback.scheme, ['w', 's']) ∈ families := by decide
  have hout : ¬ Below (dropEndSlashes loopback.path.text) (loopback.endpoint "../x").path.text := by
    decide +kernel
  refine ⟨fun h => hout (h _ _ _ _ hbase hscheme), fun h => ?_⟩
  have hbelow := h _ _ _ _ _ hbase hscheme (stream_of_mem_families hscheme "../x")
  exact hout hbelow

end OrderDesk.Url
