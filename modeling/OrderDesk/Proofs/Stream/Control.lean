import OrderDesk.Proofs.Stream.Delivery

/-!
# Proofs/Stream/Control — pings, pongs and the handler of a stream

    takes ──▸ pongs ──▸ hands ──▸ takes ──▸ puts ──▸ takes ──▸ …

What a stream does is a log of acts: it takes payloads, and what it does with one it has done before
it takes the next (`Arrival.acts`).  A ping is answered once and before anything else; what is no ping
is not answered.  A message goes to its handler behind that, so a ping that could not be answered does
not get there: the connection is over.
-/

namespace OrderDesk

variable {α σ : Type}

/-- What a stream does. -/
inductive Act (α : Type) where
  /-- It takes a payload. -/
  | takes (a : Arrival)
  /-- It sends a pong, which gets through or not. -/
  | pongs (sent : Bool)
  /-- It hands a message to the handler. -/
  | hands (c : ControlMessage)
  /-- It puts an item on the queue. -/
  | puts (y : α)

namespace Act

/-- The payload that is taken. -/
def taken? : Act α → Option Arrival
  | takes a => some a
  | _ => none

/-- Whether another payload is taken. -/
def isTake (d : Act α) : Bool := d.taken?.isSome

/-- Whether the pong got through, if one was sent. -/
def ponged? : Act α → Option Bool
  | pongs sent => some sent
  | _ => none

/-- The message that is handed to the handler. -/
def handed? : Act α → Option ControlMessage
  | hands c => some c
  | _ => none

end Act

/-- **What a stream does with a payload** that goes somewhere. -/
def Arrival.acts (a : Arrival) : Routed α → List (Act α)
  | .item y => if a.listening then [.puts y] else []
  | .control c =>
    if c.isPing then .pongs a.writable :: if a.writable then [.hands c] else [] else [.hands c]
  | .skip => []

namespace Feed

/-- A stream that does one thing more. -/
def perform (f : Feed α) : Act α → Feed α
  | .takes _ => f
  | .pongs _ => { f with pongs := f.pongs + 1 }
  | .hands c => f.handle c
  | .puts y => { f with items := f.items ++ [y] }

/-- **A payload does what its acts do,** one after the other. -/
theorem absorb_fst (f : Feed α) (a : Arrival) (r : Routed α) :
    (f.absorb a r).1 = (a.acts r).foldl perform f := by
  cases r with
  | item y =>
    rw [absorb, Arrival.acts]
    split <;> rfl
  | control c =>
    rw [absorb, Arrival.acts]
    split
    · cases a.writable <;> rfl
    · rfl
  | skip => rfl

/-! ## The acts of a reading -/

namespace Reading

/-- Where the payload went. -/
def routed (x : Reading α) : Routed α :=
  match Frame.classify x.arrival.payload with
  | some (.control c) => .control c
  | some (.data _) => .ofRead x.result
  | none => .skip

/-- **What a stream does at a reading:** it takes the payload, and does what that asks for. -/
def acts (x : Reading α) : List (Act α) := .takes x.arrival :: x.arrival.acts x.routed

/-- What is put on the queue is data. -/
def Reads (x : Reading α) : Prop := x.arrival.data? = none → x.result = none

variable {x : Reading α}

/-- **A stream is behind a reading what its acts make of it.** -/
theorem foldl_acts (h : x.Reads) (f : Feed α) : x.acts.foldl perform f = f.after [x] := by
  rw [acts, List.foldl_cons, ← absorb_fst, perform, routed]
  obtain ⟨a, r⟩ := x
  cases hframe : Frame.classify a.payload with
  | none =>
    obtain rfl : r = none := h (by rw [Arrival.data?, hframe])
    rw [absorb_skip hframe]
  | some frame =>
    cases frame with
    | control c =>
      obtain rfl : r = none := h (by rw [Arrival.data?, hframe])
      rw [absorb_control hframe]
    | data v => rw [absorb_ofRead hframe]

/-- The acts of a reading, in order: a pong, the message, the item. -/
theorem acts_eq (h : x.Reads) : x.arrival.acts x.routed
    = (if x.arrival.isPing then [.pongs x.arrival.writable] else [])
      ++ (x.handled?.toList.map .hands ++ x.item?.toList.map .puts) := by
  obtain ⟨a, r⟩ := x
  rw [routed, handled?, item?, Arrival.severs, Arrival.isPing, Arrival.control?]
  cases hframe : Frame.classify a.payload with
  | none =>
    obtain rfl : r = none := h (by rw [Arrival.data?, hframe])
    simp [Arrival.acts]
  | some frame =>
    cases frame with
    | control c =>
      obtain rfl : r = none := h (by rw [Arrival.data?, hframe])
      cases hp : c.isPing <;> cases hw : a.writable <;> simp [Arrival.acts, hp, hw]
    | data v => cases r <;> cases hl : a.listening <;> simp [Arrival.acts, Routed.ofRead, hl]

/-- Pongs are for pings, one for each. -/
theorem filterMap_ponged? (h : x.Reads) : (x.arrival.acts x.routed).filterMap Act.ponged?
    = if x.arrival.isPing then [x.arrival.writable] else [] := by
  rw [acts_eq h]
  cases x.arrival.isPing <;> cases x.handled? <;> cases x.item? <;> rfl

/-- The message goes to the handler, if it has not cost the connection. -/
theorem filterMap_handed? (h : x.Reads) :
    (x.arrival.acts x.routed).filterMap Act.handed? = x.handled?.toList := by
  rw [acts_eq h]
  cases x.arrival.isPing <;> cases x.handled? <;> cases x.item? <;> rfl

/-- What is done with a payload is done before another is taken. -/
theorem isTake_eq_false (h : x.Reads) {d : Act α} (hd : d ∈ x.arrival.acts x.routed) :
    d.isTake = false := by
  rw [acts_eq h, List.mem_append, List.mem_append, List.mem_map, List.mem_map] at hd
  rcases hd with hd | ⟨c, -, rfl⟩ | ⟨y, -, rfl⟩
  · split at hd
    · rw [List.mem_singleton.mp hd]
      rfl
    · exact absurd hd List.not_mem_nil
  · rfl
  · rfl

end Reading

/-! ## The log of a stream -/

/-- **What a stream does** at its readings. -/
def log (xs : List (Reading α)) : List (Act α) := xs.flatMap Reading.acts

/-- What is done before another payload is taken. -/
def meanwhile (l : List (Act α)) : List (Act α) := l.takeWhile (!·.isTake)

variable {x : Reading α} {xs : List (Reading α)}

theorem log_cons (x : Reading α) (xs : List (Reading α)) :
    log (x :: xs) = .takes x.arrival :: (x.arrival.acts x.routed ++ log xs) := rfl

/-- A stream does nothing before it takes a payload. -/
theorem meanwhile_log : ∀ xs : List (Reading α), meanwhile (log xs) = []
  | [] => rfl
  | _ :: _ => rfl

/-- **A stream is what its log makes of it.** -/
theorem foldl_log : ∀ {xs : List (Reading α)}, (∀ x ∈ xs, x.Reads) →
    ∀ f : Feed α, (log xs).foldl perform f = f.after xs
  | [], _, f => (after_nil f).symm
  | x :: xs, h, f => by
      have hx : x.Reads := h x List.mem_cons_self
      have hxs : ∀ y ∈ xs, y.Reads := fun y hy => h y (List.mem_cons_of_mem x hy)
      show (x.acts ++ log xs).foldl perform f = f.after ([x] ++ xs)
      rw [List.foldl_append, Reading.foldl_acts hx, foldl_log hxs, after_append]

/-- The payloads of the log are those of the readings. -/
theorem filterMap_taken? : ∀ {xs : List (Reading α)}, (∀ x ∈ xs, x.Reads) →
    (log xs).filterMap Act.taken? = xs.map Reading.arrival
  | [], _ => rfl
  | x :: xs, h => by
      have hx : (x.arrival.acts x.routed).filterMap Act.taken? = [] :=
        List.filterMap_eq_nil_iff.mpr fun d hd =>
          Option.isSome_eq_false_iff.mp (Reading.isTake_eq_false (h x List.mem_cons_self) hd)
            |> Option.isNone_iff_eq_none.mp
      show x.arrival :: (x.arrival.acts x.routed ++ log xs).filterMap Act.taken? = _
      rw [List.filterMap_append, hx, List.nil_append,
        filterMap_taken? fun y hy => h y (List.mem_cons_of_mem x hy), List.map_cons]

/-- **Where a payload is taken,** what it asks for follows, and then the readings behind it. -/
theorem exists_of_log_eq : ∀ {xs : List (Reading α)} {l₁ l₂ : List (Act α)} {a : Arrival},
    (∀ x ∈ xs, x.Reads) → log xs = l₁ ++ .takes a :: l₂ →
      ∃ x ∈ xs, ∃ zs, x.arrival = a ∧ l₂ = x.arrival.acts x.routed ++ log zs
  | [], l₁, _, _, _, heq =>
      absurd heq.symm (List.append_ne_nil_of_right_ne_nil l₁ (List.cons_ne_nil _ _))
  | x :: xs, l₁, l₂, a, h, heq => by
      have hx : x.Reads := h x List.mem_cons_self
      rw [log_cons, List.cons_eq_append_iff] at heq
      rcases heq with ⟨-, heq⟩ | ⟨l, rfl, heq⟩
      · obtain ⟨ha, rfl⟩ := List.cons.inj heq
        exact ⟨x, List.mem_cons_self, xs, (Act.takes.inj ha).symm, rfl⟩
      · -- it is taken behind what `x` asks for, so at one of the other readings
        have hlater : ∃ l, log xs = l ++ .takes a :: l₂ := by
          rcases List.append_eq_append_iff.mp heq with ⟨m, -, hm⟩ | ⟨m, hl, hm⟩
          · exact ⟨m, hm⟩
          · cases m with
            | nil => exact ⟨[], hm.symm⟩
            | cons d m =>
              obtain ⟨rfl, -⟩ := List.cons.inj hm
              have hmem : .takes a ∈ x.arrival.acts x.routed := by
                rw [hl]
                exact List.mem_append_right l List.mem_cons_self
              exact absurd (Reading.isTake_eq_false hx hmem) (Bool.noConfusion)
        obtain ⟨l, hl⟩ := hlater
        obtain ⟨y, hy, zs, hrest⟩ :=
          exists_of_log_eq (fun y hy => h y (List.mem_cons_of_mem x hy)) hl
        exact ⟨y, List.mem_cons_of_mem x hy, zs, hrest⟩

/-- **What is done with a payload before another is taken.** -/
theorem exists_meanwhile_eq {l₁ l₂ : List (Act α)} {a : Arrival} (h : ∀ x ∈ xs, x.Reads)
    (heq : log xs = l₁ ++ .takes a :: l₂) :
    ∃ x ∈ xs, x.arrival = a ∧ meanwhile l₂ = x.arrival.acts x.routed := by
  obtain ⟨x, hx, zs, ha, rfl⟩ := exists_of_log_eq h heq
  refine ⟨x, hx, ha, ?_⟩
  have hacts : ∀ d ∈ x.arrival.acts x.routed, (!d.isTake) = true := fun d hd => by
    rw [Reading.isTake_eq_false (h x hx) hd, Bool.not_false]
  rw [meanwhile, List.takeWhile_append_of_pos hacts]
  exact (congrArg _ (meanwhile_log zs)).trans (List.append_nil _)

/-- Nothing of its connection is read behind a ping that could not be answered. -/
theorem ReadsOf.eq_nil_of_severs {as : List Arrival} (h : ReadsOf xs as) :
    ∀ l r, xs = l ++ x :: r → x.arrival.severs = true → r = [] := by
  induction h with
  | ended =>
    intro l r heq _
    exact absurd heq.symm (List.append_ne_nil_of_right_ne_nil l (List.cons_ne_nil x r))
  | @last y as hy =>
    intro l r heq _
    rcases List.cons_eq_append_iff.mp heq with ⟨-, heq⟩ | ⟨m, -, heq⟩
    · exact (List.cons.inj heq).2
    · exact absurd heq.symm (List.append_ne_nil_of_right_ne_nil m (List.cons_ne_nil x r))
  | @next y ys as hy hys ih =>
    intro l r heq hsevers
    rcases List.cons_eq_append_iff.mp heq with ⟨-, heq⟩ | ⟨m, -, heq⟩
    · obtain ⟨rfl, -⟩ := List.cons.inj heq
      rw [Reading.isLast, hsevers, Bool.true_or] at hy
      contradiction
    · exact ih m r heq hsevers

/-- Of a connection with one payload that is read. -/
theorem ReadsOf.eq_singleton {a : Arrival} (h : ReadsOf xs [a]) : ∃ x, xs = [x] ∧ x.arrival = a := by
  generalize heq : [a] = as at h
  cases h with
  | ended => contradiction
  | last _ => exact ⟨_, rfl, (List.cons.inj heq).1.symm⟩
  | next _ hxs =>
    obtain ⟨rfl, rfl⟩ := List.cons.inj heq
    cases hxs
    exact ⟨_, rfl, rfl⟩

/-- Every connection of a stream is read so. -/
theorem StreamReads.exists_readsOf {reconnect : Bool} {xss : List (List (Reading α))}
    {connections : List (List Arrival)} (h : StreamReads reconnect xss connections) :
    ∀ xs ∈ xss, ∃ as ∈ connections, ReadsOf xs as := by
  induction h with
  | ended => exact fun xs hxs => absurd hxs List.not_mem_nil
  | @last ys as rest hys _ =>
    exact fun xs hxs => ⟨as, List.mem_cons_self, List.mem_singleton.mp hxs ▸ hys⟩
  | @next ys as yss rest hys _ _ _ ih =>
    intro xs hxs
    rcases List.mem_cons.mp hxs with rfl | hxs
    · exact ⟨as, List.mem_cons_self, hys⟩
    · obtain ⟨bs, hbs, hreads⟩ := ih xs hxs
      exact ⟨bs, List.mem_cons_of_mem as hbs, hreads⟩

/-! ## What becomes of control messages -/

/-- **Every ping is answered once, before anything else is read, and nothing else is answered; what
comes of a control message goes to its handler once and in order, but for a ping whose pong could not
be sent.**  The stream reads its connections as `StreamReads` has it, it is what its log makes of it,
and the log takes the payloads that were read.  Behind a payload that was taken, and before the next
one, there is one pong if it is a ping, with the outcome that it had, and none if it is not; and there
is its message on the way to the handler, once, if the payload has not cost the connection.  A ping
whose pong was not sent is the last thing that is read of its connection. -/
theorem run_control (read : Json.Value → StateM σ (Option α)) (reconnect : Bool)
    (connections : List (List Arrival)) (s : σ) :
    ∃ (xss : List (List (Reading α))) (f : Feed α) (s' : σ),
      (empty.run read reconnect connections).run s = (f, s')
      ∧ StreamReads reconnect xss connections
      ∧ f = (log xss.flatten).foldl perform empty
      ∧ (log xss.flatten).filterMap Act.taken? = xss.flatten.map Reading.arrival
      ∧ f.handled = xss.flatten.filterMap
          (fun x => if x.arrival.severs then none else x.arrival.control?)
      ∧ f.pongs = xss.flatten.countP (·.arrival.isPing)
      ∧ meanwhile (log xss.flatten) = []
      ∧ (∀ l₁ a l₂, log xss.flatten = l₁ ++ .takes a :: l₂ →
          (meanwhile l₂).filterMap Act.ponged? = (if a.isPing then [a.writable] else [])
          ∧ (meanwhile l₂).filterMap Act.handed?
            = (if a.severs then none else a.control?).toList)
      ∧ ∀ xs ∈ xss, ∀ l x r, xs = l ++ x :: r → x.arrival.severs = true → r = [] := by
  obtain ⟨xss, s', hrun, hreads, hasked⟩ := allReadings_asked read reconnect connections s
  have hall : ∀ x ∈ xss.flatten, x.Reads := hasked.result_eq_none
  refine ⟨xss, empty.after xss.flatten, s', ?_, hreads, (foldl_log hall empty).symm,
    filterMap_taken? hall, List.nil_append _, Nat.zero_add _, meanwhile_log _,
    fun l₁ a l₂ heq => ?_, fun xs hxs l x r heq hsevers => ?_⟩
  · rw [run_eq, map_eq_pure_bind, run_bind_eq hrun]
    rfl
  · obtain ⟨x, hx, rfl, hmeanwhile⟩ := exists_meanwhile_eq hall heq
    rw [hmeanwhile]
    exact ⟨Reading.filterMap_ponged? (hall x hx), Reading.filterMap_handed? (hall x hx)⟩
  · obtain ⟨as, -, has⟩ := hreads.exists_readsOf xs hxs
    exact has.eq_nil_of_severs l r heq hsevers

/-- A ping whose pong is not going to get through. -/
def mutePing : Arrival := ⟨"\x7b\"type\":\"ping\"\x7d".toUTF8.toList, false, true⟩

/-- A ping whose pong could not be sent does not get to the handler. -/
theorem not_run_handled : ¬ ∀ (read : Json.Value → StateM Unit (Option Unit)) (reconnect : Bool)
    (connections : List (List Arrival)),
    ∃ (xss : List (List (Reading Unit))) (f : Feed Unit),
      (empty.run read reconnect connections).run () = (f, ())
      ∧ StreamReads reconnect xss connections
      ∧ f.handled = xss.flatten.filterMap (·.arrival.control?) := by
  intro h
  obtain ⟨xss, f, hrun, hreads, hhandled⟩ := h (fun _ => pure none) false [[mutePing]]
  have hnone : f.handled.length = 0 := by
    have hf : f = ((empty.run (fun _ => pure none) false [[mutePing]] : StateM Unit _).run ()).1 := by
      rw [hrun]
    rw [hf]
    decide +kernel
  obtain ⟨x, rfl, hx⟩ : ∃ x, xss = [[x]] ∧ x.arrival = mutePing := by
    cases hreads with
    | last hxs _ =>
      obtain ⟨x, rfl, hx⟩ := hxs.eq_singleton
      exact ⟨x, rfl, hx⟩
    | next _ h _ _ => contradiction
  obtain ⟨c, hc⟩ : ∃ c, x.arrival.control? = some c := by
    rw [hx]
    exact Option.isSome_iff_exists.mp (by decide +kernel)
  rw [hhandled, List.flatten_singleton, List.filterMap_cons, hc] at hnone
  contradiction

end Feed

end OrderDesk
