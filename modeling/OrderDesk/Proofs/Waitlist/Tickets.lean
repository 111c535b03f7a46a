import OrderDesk.Proofs.Waitlist.Entries

/-!
# Proofs/Waitlist/Tickets — tickets after a step

    register ──▸ ticket ──▸ ticket with a reply ──▸ outcome

A step of a waitlist leaves a ticket alone, changes its reply or whether its caller waits, or ends it;
numbers are given out once, so a ticket that is gone stays gone (`Gone`).  A wait has ended once at
most (`Ended`).
-/

namespace OrderDesk.Waitlist

variable {w : Waitlist} {t t' : Ticket} {id : Nat} {key : String}

/-! ## Tickets after a step -/

theorem mem_tickets_release : t' ∈ (w.release t).tickets ↔ t' ∈ w.tickets ∧ t'.id ≠ t.id := by
  simp [release]

theorem mem_tickets_attend : t' ∈ (w.attend id).tickets
    ↔ ∃ t ∈ w.tickets, (if t.id = id then t.attended else t) = t' := by
  simp [attend]

/-- Who begins to wait keeps its number, its key and its reply. -/
theorem exists_of_mem_attend (h : t' ∈ (w.attend id).tickets) :
    ∃ t ∈ w.tickets, t.id = t'.id ∧ t.key = t'.key ∧ t.reply = t'.reply := by
  obtain ⟨t, ht, rfl⟩ := mem_tickets_attend.mp h
  refine ⟨t, ht, ?_⟩
  split <;> exact ⟨rfl, rfl, rfl⟩

/-- It waits if it is the one that begins to, or did so before. -/
theorem waiting_of_mem_attend (h : t' ∈ (w.attend id).tickets) :
    ∃ t ∈ w.tickets, t.id = t'.id ∧ (t'.waiting = true ↔ t.waiting = true ∨ t.id = id) := by
  obtain ⟨t, ht, rfl⟩ := mem_tickets_attend.mp h
  refine ⟨t, ht, ?_⟩
  split
  · next hid => exact ⟨rfl, fun _ => .inr hid, fun _ => rfl⟩
  · next hid => exact ⟨rfl, .inl, fun hw => hw.resolve_right hid⟩

theorem exists_attended (id : Nat) (h : t ∈ w.tickets) :
    ∃ t' ∈ (w.attend id).tickets, t'.id = t.id ∧ t'.reply = t.reply := by
  refine ⟨_, mem_tickets_attend.mpr ⟨t, h, rfl⟩, ?_⟩
  split <;> exact ⟨rfl, rfl⟩

theorem Matched.mem_tickets_answer (h : w.Matched) {p : Entry → Bool} {reply : Reply} :
    t' ∈ (w.answer p reply).tickets
      ↔ ∃ t ∈ w.tickets, (if t.reply.isNone && p t.entry then t.answered reply else t) = t' := by
  rw [h.tickets_answer, List.mem_map]

/-- A key is pending if a ticket under it has got no reply. -/
theorem Matched.isPending_iff_ticket (h : w.Matched) : w.isPending key = true
    ↔ ∃ t ∈ w.tickets, t.key = key ∧ t.reply = none := by
  rw [isPending_iff]
  constructor
  · rintro ⟨e, he, hkey⟩
    obtain ⟨t, ht, hr, rfl⟩ := h.mem_entries.mp he
    exact ⟨t, ht, hkey, hr⟩
  · rintro ⟨t, ht, hkey, hr⟩
    exact ⟨t.entry, h.mem_entries.mpr ⟨t, ht, hr, rfl⟩, hkey⟩

/-- A response is taken if its key is pending. -/
theorem deliver_fst (w : Waitlist) (key : String) (v : Json.Value) :
    (w.deliver key v).1 = w.isPending key := by
  by_cases hp : w.isPending key = true
  · rw [deliver_of_isPending hp, hp]
  · rw [deliver_of_not_isPending hp, Bool.eq_false_iff.mpr hp]

/-- **A response is the reply of the ticket that waits under its key,** and of no other. -/
theorem Matched.tickets_deliver (h : w.Matched) (key : String) (v : Json.Value) :
    (w.deliver key v).2.tickets
      = w.tickets.map fun t => if t.key = key ∧ t.reply = none then t.answered (.ok v) else t := by
  by_cases hp : w.isPending key = true
  · rw [deliver_of_isPending hp, h.tickets_answer]
    refine List.map_congr_left fun t _ => if_congr ?_ rfl rfl
    rw [Bool.and_eq_true, Option.isNone_iff_eq_none, decide_eq_true_iff, and_comm]
    rfl
  · rw [deliver_of_not_isPending hp]
    refine (List.map_id w.tickets).symm.trans (List.map_congr_left fun t ht => ?_)
    rw [if_neg fun hand => hp (h.isPending_iff_ticket.mpr ⟨t, ht, hand⟩)]
    rfl

theorem Matched.mem_tickets_deliver (h : w.Matched) {v : Json.Value} :
    t' ∈ (w.deliver key v).2.tickets
      ↔ (t' ∈ w.tickets ∧ ¬ (t'.reply = none ∧ t'.key = key))
        ∨ ∃ t ∈ w.tickets, t.reply = none ∧ t.key = key ∧ t.answered (.ok v) = t' := by
  rw [h.tickets_deliver, List.mem_map]
  constructor
  · rintro ⟨t, ht, rfl⟩
    split
    · next hand => exact .inr ⟨t, ht, hand.2, hand.1, rfl⟩
    · next hnot => exact .inl ⟨ht, fun hand => hnot hand.symm⟩
  · rintro (⟨ht, hnot⟩ | ⟨t, ht, hr, hkey, rfl⟩)
    · exact ⟨t', ht, if_neg fun hand => hnot hand.symm⟩
    · exact ⟨t, ht, if_pos ⟨hkey, hr⟩⟩

theorem mem_entries_deliver {v : Json.Value} {e : Entry} (he : e ∈ (w.deliver key v).2.entries) :
    e ∈ w.entries := by
  by_cases hp : w.isPending key = true
  · rw [deliver_of_isPending hp] at he
    exact List.mem_of_mem_filter he
  · rwa [deliver_of_not_isPending hp] at he

theorem outcomes_deliver (w : Waitlist) (key : String) (v : Json.Value) :
    (w.deliver key v).2.outcomes = w.outcomes := by
  by_cases hp : w.isPending key = true
  · rw [deliver_of_isPending hp]
    rfl
  · rw [deliver_of_not_isPending hp]

theorem nextId_deliver (w : Waitlist) (key : String) (v : Json.Value) :
    (w.deliver key v).2.nextId = w.nextId := by
  by_cases hp : w.isPending key = true
  · rw [deliver_of_isPending hp]
    rfl
  · rw [deliver_of_not_isPending hp]

/-- Two tickets without a reply and with one key are the same. -/
theorem Matched.eq_of_key (h : w.Matched) (ht : t ∈ w.tickets) (ht' : t' ∈ w.tickets)
    (hr : t.reply = none) (hr' : t'.reply = none) (hkey : t.key = t'.key) : t = t' := by
  have he : t.entry ∈ w.entries := h.mem_entries.mpr ⟨t, ht, hr, rfl⟩
  have he' : t'.entry ∈ w.entries := h.mem_entries.mpr ⟨t', ht', hr', rfl⟩
  exact h.eq_of_id ht ht' (congrArg Entry.id (h.entry_eq_of_key he he' hkey))

theorem nextId_register (w : Waitlist) (key : String) (timeout : Duration) :
    (w.register key timeout).2.nextId = w.nextId + 1 := by
  rw [register]
  split <;> rfl

/-- A ticket is found by its number. -/
theorem Matched.ticket?_eq (h : w.Matched) (ht : t ∈ w.tickets) : w.ticket? t.id = some t := by
  cases hf : w.ticket? t.id with
  | none =>
    rw [ticket?, List.find?_eq_none] at hf
    exact absurd (decide_eq_true rfl) (hf t ht)
  | some t' => rw [h.eq_of_id (ticket?_eq_some hf).1 ht (ticket?_eq_some hf).2]

/-! ## Tickets that are gone -/

/-- **A ticket is gone** that was given out and that nobody holds. -/
structure Gone (w : Waitlist) (id : Nat) : Prop where
  id_lt : id < w.nextId
  ne : ∀ t ∈ w.tickets, t.id ≠ id

theorem nextId_step_le (w : Waitlist) : ∀ ev : Event, w.nextId ≤ (w.step ev).nextId
  | .register key timeout => by
      rw [step, nextId_register]
      exact Nat.le_succ _
  | .deliver key v => Nat.le_of_eq (nextId_deliver w key v).symm
  | .drain _ | .attend _ | .elapse _ => Nat.le_refl _
  | .drop id => by
      rw [step, drop]
      split <;> exact Nat.le_refl _
  | .endWait id => by
      rw [step, endWait]
      split
      · split <;> exact Nat.le_refl _
      · exact Nat.le_refl _

/-- The tickets of a step are those from before, but for a new one. -/
theorem Matched.exists_of_mem_step (h : w.Matched) : ∀ {ev : Event}, t' ∈ (w.step ev).tickets →
    (∃ t ∈ w.tickets, t.id = t'.id) ∨ t'.id = w.nextId
  | .register key timeout, ht => by
      by_cases hp : w.isPending key = true
      · rw [step, register_of_isPending hp] at ht
        exact .inl ⟨t', ht, rfl⟩
      · rw [step, register_of_not_isPending hp] at ht
        rcases List.mem_cons.mp ht with rfl | ht
        · exact .inr rfl
        · exact .inl ⟨t', ht, rfl⟩
  | .deliver key v, ht => by
      rcases h.mem_tickets_deliver.mp ht with ⟨ht', -⟩ | ⟨t, ht', -, -, rfl⟩
      · exact .inl ⟨t', ht', rfl⟩
      · exact .inl ⟨t, ht', rfl⟩
  | .drain reason, ht => by
      rw [step, drain_eq_answer, h.mem_tickets_answer] at ht
      obtain ⟨t, ht, rfl⟩ := ht
      refine .inl ⟨t, ht, ?_⟩
      split <;> rfl
  | .drop id, ht => by
      rw [step, drop] at ht
      split at ht
      · exact .inl ⟨t', (mem_tickets_release.mp ht).1, rfl⟩
      · exact .inl ⟨t', ht, rfl⟩
  | .attend id, ht => by
      obtain ⟨t, ht, hid, -⟩ := exists_of_mem_attend ht
      exact .inl ⟨t, ht, hid⟩
  | .elapse _, ht => .inl ⟨t', ht, rfl⟩
  | .endWait id, ht => by
      rw [step, endWait] at ht
      split at ht
      · split at ht
        · exact .inl ⟨t', (mem_tickets_release.mp ht).1, rfl⟩
        · exact .inl ⟨t', ht, rfl⟩
      · exact .inl ⟨t', ht, rfl⟩

/-- **What is gone stays gone.** -/
theorem Gone.step (hg : w.Gone id) (h : w.Matched) (ev : Event) : (w.step ev).Gone id where
  id_lt := Nat.lt_of_lt_of_le hg.id_lt (nextId_step_le w ev)
  ne t' ht' := by
    rcases h.exists_of_mem_step ht' with ⟨t, ht, hid⟩ | hid
    · exact hid ▸ hg.ne t ht
    · exact hid ▸ (Nat.ne_of_lt hg.id_lt).symm

theorem Gone.run (hg : w.Gone id) (h : w.Matched) (es : List Event) : (w.run es).Gone id := by
  induction es generalizing w with
  | nil => exact hg
  | cons ev es ih => exact ih (hg.step h ev) (step_matched h ev)

theorem Matched.gone_release (h : w.Matched) (ht : t ∈ w.tickets) : (w.release t).Gone t.id where
  id_lt := h.id_lt t ht
  ne _ ht' := (mem_tickets_release.mp ht').2

theorem Matched.step_drop (h : w.Matched) (ht : t ∈ w.tickets) :
    w.step (.drop t.id) = w.release t := by
  rw [step, drop, h.ticket?_eq ht]

/-! ## Waits that have ended -/

theorem Matched.step_endWait (h : w.Matched) (ht : t ∈ w.tickets) {r : Reply}
    (ho : t.outcome? w.clock = some r) : w.step (.endWait t.id)
      = { w.release t with outcomes := w.outcomes ++ [(t.id, r)] } := by
  rw [step, endWait, h.ticket?_eq ht]
  simp only [ho]

theorem Matched.step_endWait_of_none (h : w.Matched) (ht : t ∈ w.tickets)
    (ho : t.outcome? w.clock = none) : w.step (.endWait t.id) = w := by
  rw [step, endWait, h.ticket?_eq ht]
  simp only [ho]

theorem Matched.gone_endWait (h : w.Matched) (ht : t ∈ w.tickets) {r : Reply}
    (ho : t.outcome? w.clock = some r) : (w.step (.endWait t.id)).Gone t.id := by
  rw [h.step_endWait ht ho]
  exact ⟨(h.gone_release ht).id_lt, (h.gone_release ht).ne⟩

/-- A step ends no wait, or the one that it is about. -/
theorem outcomes_step (w : Waitlist) : ∀ ev : Event, (w.step ev).outcomes = w.outcomes
    ∨ ∃ t ∈ w.tickets, ∃ reply, ev = .endWait t.id ∧ t.outcome? w.clock = some reply
      ∧ w.step ev = { w.release t with outcomes := w.outcomes ++ [(t.id, reply)] }
  | .register key timeout => by
      refine .inl ?_
      rw [step, register]
      split <;> rfl
  | .deliver key v => .inl (outcomes_deliver w key v)
  | .drain _ | .attend _ | .elapse _ => .inl rfl
  | .drop id => by
      refine .inl ?_
      rw [step, drop]
      split <;> rfl
  | .endWait id => by
      rw [step, endWait]
      split
      · next t ht =>
        obtain ⟨hmem, rfl⟩ := ticket?_eq_some ht
        split
        · next reply ho => exact .inr ⟨t, hmem, reply, rfl, ho, rfl⟩
        · exact .inl rfl
      · exact .inl rfl

/-- **Each wait has ended once at most,** and its ticket is gone. -/
structure Ended (w : Waitlist) : Prop where
  nodup_ids : (w.outcomes.map Prod.fst).Nodup
  gone : ∀ id ∈ w.outcomes.map Prod.fst, w.Gone id

theorem empty_ended : Ended empty :=
  ⟨List.nodup_nil, fun _ hid => absurd hid List.not_mem_nil⟩

/-- A ticket that somebody holds has no outcome. -/
theorem Ended.outcome?_eq_none (he : w.Ended) (ht : t ∈ w.tickets) : w.outcome? t.id = none := by
  rw [outcome?, List.lookup_eq_none_iff]
  intro p hp
  rw [bne_iff_ne]
  exact (he.gone p.1 (List.mem_map_of_mem hp)).ne t ht

theorem Ended.outcome?_endWait (he : w.Ended) (h : w.Matched) (ht : t ∈ w.tickets) {r : Reply}
    (ho : t.outcome? w.clock = some r) : (w.step (.endWait t.id)).outcome? t.id = some r := by
  have hnone := he.outcome?_eq_none ht
  rw [outcome?] at hnone
  rw [h.step_endWait ht ho, outcome?, List.lookup_append, hnone]
  simp

theorem step_ended (h : w.Matched) (he : w.Ended) (ev : Event) : Ended (w.step ev) := by
  rcases outcomes_step w ev with ho | ⟨t, ht, reply, -, -, heq⟩
  · refine ⟨ho ▸ he.nodup_ids, fun id hid => ?_⟩
    rw [ho] at hid
    exact (he.gone id hid).step h ev
  · have hne : t.id ∉ w.outcomes.map Prod.fst := fun hid => (he.gone t.id hid).ne t ht rfl
    rw [heq]
    refine ⟨?_, fun id hid => ?_⟩
    · simp only [List.map_append, List.map_cons, List.map_nil]
      refine List.nodup_append.mpr ⟨he.nodup_ids, List.nodup_singleton _,
        fun id hid id' hid' heq => ?_⟩
      rw [List.mem_singleton.mp hid'] at heq
      exact hne (heq ▸ hid)
    · simp only [List.map_append, List.map_cons, List.map_nil, List.mem_append,
        List.mem_singleton] at hid
      rcases hid with hid | rfl
      · exact ⟨(he.gone id hid).id_lt, fun t' ht' =>
          (he.gone id hid).ne t' (mem_tickets_release.mp ht').1⟩
      · exact ⟨(h.gone_release ht).id_lt, (h.gone_release ht).ne⟩

theorem run_ended (h : w.Matched) (he : w.Ended) (es : List Event) : Ended (w.run es) := by
  induction es generalizing w with
  | nil => exact he
  | cons ev es ih => exact ih (step_matched h ev) (step_ended h he ev)

/-- An outcome stays as it is. -/
theorem outcome?_run {r : Reply} (ho : w.outcome? id = some r) (es : List Event) :
    (w.run es).outcome? id = some r := by
  induction es generalizing w with
  | nil => exact ho
  | cons ev es ih =>
    refine ih ?_
    rcases outcomes_step w ev with h | ⟨t, -, reply, -, -, heq⟩
    · rw [outcome?, h]
      exact ho
    · rw [heq, outcome?, List.lookup_append]
      rw [outcome?] at ho
      rw [ho]
      rfl

/-- …and no wait ends on a ticket that is gone. -/
theorem Gone.outcome?_run (hg : w.Gone id) (h : w.Matched) (ho : w.outcome? id = none)
    (es : List Event) : (w.run es).outcome? id = none := by
  induction es generalizing w with
  | nil => exact ho
  | cons ev es ih =>
    refine ih (hg.step h ev) (step_matched h ev) ?_
    rcases outcomes_step w ev with heq | ⟨t, ht, reply, -, -, heq⟩
    · rw [outcome?, heq]
      exact ho
    · rw [outcome?] at ho
      rw [heq, outcome?, List.lookup_append, ho, Option.none_or, List.lookup_cons,
        beq_eq_false_iff_ne.mpr (hg.ne t ht).symm]
      rfl

end OrderDesk.Waitlist
