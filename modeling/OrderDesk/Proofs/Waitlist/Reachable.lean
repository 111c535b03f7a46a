import OrderDesk.Proofs.Waitlist.Tickets

/-!
# Proofs/Waitlist/Reachable — every reachable list

    register ──▸ ticket ──drop──▸ gone
                    └──endWait──▸ gone

Entries and tickets match in every reachable list.  What a step leaves alone is the entries of other
keys (`entriesOf_step`) and those of newer tickets under its own, which it can tell apart by their
numbers only.  A ticket ends when it is dropped or its wait ends with an outcome, and never otherwise
(`Matched.not_mem_step_iff`).
-/

namespace OrderDesk.Waitlist

variable {w : Waitlist} {key : String} {t t' : Ticket} {e : Entry}

/-! ## What a step leaves alone -/

/-- Whether an event is about requests with a key. -/
def Event.Concerns (w : Waitlist) (key : String) : Event → Prop
  | .register k _ => k = key
  | .deliver k _ => k = key
  | .drain _ => True
  | .drop id => ∃ t ∈ w.tickets, t.id = id ∧ t.key = key
  | .attend _ => False
  | .elapse _ => False
  | .endWait id => ∃ t ∈ w.tickets, t.id = id ∧ t.key = key

/-- The entries with a key. -/
def entriesOf (w : Waitlist) (key : String) : List Entry := w.entries.filter (·.key = key)

theorem entriesOf_answer (key : String) (p : Entry → Bool) (reply : Reply)
    (hp : ∀ e : Entry, e.key = key → p e = false) :
    (w.answer p reply).entriesOf key = w.entriesOf key := by
  rw [entriesOf, entriesOf, answer, List.filter_filter]
  refine List.filter_congr fun e _ => ?_
  by_cases hk : e.key = key
  · simp [hk, hp e hk]
  · simp [hk]

theorem entriesOf_release (hk : t.key ≠ key) : (w.release t).entriesOf key = w.entriesOf key := by
  rw [entriesOf, entriesOf, release, List.filter_filter]
  refine List.filter_congr fun e _ => ?_
  by_cases he : e = t.entry
  · subst he
    simp [Ticket.entry, hk]
  · simp [he]

/-- **An event on one key leaves the entries of all other keys as they were.** -/
theorem entriesOf_step : ∀ (ev : Event), ¬ ev.Concerns w key →
    (w.step ev).entriesOf key = w.entriesOf key
  | .register k timeout, hk => by
      by_cases hp : w.isPending k = true
      · rw [step, register_of_isPending hp]
        rfl
      · rw [step, register_of_not_isPending hp]
        have hne : ¬ k = key := hk
        exact List.filter_cons_of_neg (by simp [newTicket, Ticket.entry, hne])
  | .deliver k v, hk => by
      by_cases hp : w.isPending k = true
      · rw [step, deliver_of_isPending hp]
        refine entriesOf_answer key _ _ fun e he => ?_
        subst he
        exact decide_eq_false (Ne.symm hk)
      · rw [step, deliver_of_not_isPending hp]
  | .drain _, hk => absurd trivial hk
  | .drop id, hk => by
      rw [step, drop]
      split
      · next t ht =>
        obtain ⟨hmem, hid⟩ := ticket?_eq_some ht
        exact entriesOf_release fun hkey => hk ⟨t, hmem, hid, hkey⟩
      · rfl
  | .attend _, _ => rfl
  | .elapse _, _ => rfl
  | .endWait id, hk => by
      rw [step, endWait]
      split
      · next t ht =>
        split
        · obtain ⟨hmem, hid⟩ := ticket?_eq_some ht
          exact entriesOf_release (w := w) fun hkey => hk ⟨t, hmem, hid, hkey⟩
        · rfl
      · rfl

/-- Letting go of a ticket leaves the entries of all others. -/
theorem mem_entries_release (he : e ∈ w.entries) (hid : e.id ≠ t.id) :
    e ∈ (w.release t).entries := by
  refine List.mem_filter.mpr ⟨he, ?_⟩
  simpa using fun heq : e = t.entry => hid (congrArg Entry.id heq)

theorem mem_entries_drop {id : Nat} (he : e ∈ w.entries) (hid : e.id ≠ id) :
    e ∈ (w.drop id).entries := by
  rw [drop]
  split
  · next t ht =>
    refine mem_entries_release he ?_
    rwa [(ticket?_eq_some ht).2]
  · exact he

theorem mem_entries_endWait {id : Nat} (he : e ∈ w.entries) (hid : e.id ≠ id) :
    e ∈ (w.endWait id).entries := by
  rw [endWait]
  split
  · next t ht =>
    split
    · refine mem_entries_release (w := w) he ?_
      rwa [(ticket?_eq_some ht).2]
    · exact he
  · exact he

/-- A request that is refused leaves everything but the numbers as it was. -/
theorem register_eq_error {timeout : Duration} {err : Error}
    (h : (w.register key timeout).1 = .error err) :
    err = .duplicateCorrelation key
      ∧ (w.register key timeout).2 = { w with nextId := w.nextId + 1 } := by
  by_cases hp : w.isPending key = true
  · rw [register_of_isPending hp] at h ⊢
    exact ⟨(Except.error.inj h).symm, rfl⟩
  · rw [register_of_not_isPending hp] at h
    contradiction

/-! ## Which tickets end -/

/-- A ticket is there behind a step, unless that drops it or ends its wait. -/
theorem Matched.exists_mem_step (h : w.Matched) (ht : t ∈ w.tickets) : ∀ ev : Event,
    (∃ t' ∈ (w.step ev).tickets, t'.id = t.id)
      ∨ ev = .drop t.id ∨ ev = .endWait t.id ∧ (t.outcome? w.clock).isSome = true
  | .register k timeout => by
      refine .inl ⟨t, ?_, rfl⟩
      by_cases hp : w.isPending k = true
      · rwa [step, register_of_isPending hp]
      · rw [step, register_of_not_isPending hp]
        exact List.mem_cons_of_mem _ ht
  | .deliver k v => by
      rw [step, h.tickets_deliver]
      refine .inl ⟨_, List.mem_map_of_mem ht, ?_⟩
      split <;> rfl
  | .drain reason => by
      rw [step, drain_eq_answer, h.tickets_answer]
      refine .inl ⟨_, List.mem_map_of_mem ht, ?_⟩
      split <;> rfl
  | .drop id => by
      by_cases hid : id = t.id
      · exact .inr (.inl (congrArg Event.drop hid))
      · refine .inl ⟨t, ?_, rfl⟩
        rw [step, drop]
        split
        · next t₀ ht₀ =>
          exact mem_tickets_release.mpr ⟨ht, (ticket?_eq_some ht₀).2 ▸ Ne.symm hid⟩
        · exact ht
  | .attend id => by
      obtain ⟨t', ht', hid, -⟩ := exists_attended id ht
      exact .inl ⟨t', ht', hid⟩
  | .elapse _ => .inl ⟨t, ht, rfl⟩
  | .endWait id => by
      by_cases hid : id = t.id
      · subst hid
        cases ho : t.outcome? w.clock with
        | none =>
          rw [h.step_endWait_of_none ht ho]
          exact .inl ⟨t, ht, rfl⟩
        | some reply => exact .inr (.inr ⟨rfl, rfl⟩)
      · refine .inl ⟨t, ?_, rfl⟩
        rw [step, endWait]
        split
        · next t₀ ht₀ =>
          split
          · exact mem_tickets_release.mpr ⟨ht, (ticket?_eq_some ht₀).2 ▸ Ne.symm hid⟩
          · exact ht
        · exact ht

/-- **A ticket ends in two ways:** it is dropped, or its wait ends with an outcome. -/
theorem Matched.not_mem_step_iff (h : w.Matched) (ht : t ∈ w.tickets) (ev : Event) :
    (∀ t' ∈ (w.step ev).tickets, t'.id ≠ t.id)
      ↔ ev = .drop t.id ∨ ev = .endWait t.id ∧ (t.outcome? w.clock).isSome = true := by
  constructor
  · intro hgone
    refine (h.exists_mem_step ht ev).resolve_left ?_
    rintro ⟨t', ht', hid⟩
    exact hgone t' ht' hid
  · rintro (rfl | ⟨rfl, hsome⟩)
    · rw [h.step_drop ht]
      exact (h.gone_release ht).ne
    · obtain ⟨reply, hreply⟩ := Option.isSome_iff_exists.mp hsome
      exact (h.gone_endWait ht hreply).ne

/-- Behind a drop nobody holds a ticket with its number, whether anybody did or not. -/
theorem Matched.ne_of_mem_drop (h : w.Matched) {id : Nat} (ht : t ∈ (w.step (.drop id)).tickets) :
    t.id ≠ id := by
  rw [step, drop] at ht
  split at ht
  · next t₀ ht₀ => exact (ticket?_eq_some ht₀).2 ▸ (mem_tickets_release.mp ht).2
  · next hnone =>
    rintro rfl
    rw [h.ticket?_eq ht] at hnone
    contradiction

/-! ## Every reachable list -/

/-- **The entries of a reachable list are those of the tickets without a reply,** one for each, and
no key has two.  A ticket is there until it is dropped or its wait ends with an outcome, and then
nobody holds it.  Letting go of a ticket therefore never costs a newer one its entry, an event on one
key concerns no other, and a refused request changes no entry and no ticket.  All operations, too,
leave lists whose entries and tickets match. -/
theorem run_entries (es : List Event) :
    (∀ e ∈ (empty.run es).entries, ∃! t, t ∈ (empty.run es).tickets ∧ t.reply = none
      ∧ t.key = e.key ∧ t.id = e.id)
    ∧ (∀ t ∈ (empty.run es).tickets, t.reply = none → ⟨t.key, t.id⟩ ∈ (empty.run es).entries)
    ∧ ((empty.run es).entries.map Entry.key).Nodup
    ∧ (∀ t ∈ (empty.run es).tickets, ∀ t' ∈ (empty.run es).tickets,
      t.reply = none → t'.reply = none → t.key = t'.key → t = t')
    ∧ (∀ t ∈ (empty.run es).tickets, ∀ ev,
      (∀ t' ∈ ((empty.run es).step ev).tickets, t'.id ≠ t.id)
        ↔ ev = .drop t.id
          ∨ ev = .endWait t.id ∧ (t.outcome? (empty.run es).clock).isSome = true)
    ∧ (∀ id, ∀ t ∈ ((empty.run es).step (.drop id)).tickets, t.id ≠ id)
    ∧ (∀ e ∈ (empty.run es).entries, ∀ id, e.id ≠ id →
      e ∈ ((empty.run es).step (.drop id)).entries
        ∧ e ∈ ((empty.run es).step (.endWait id)).entries)
    ∧ (∀ ev key, ¬ Event.Concerns (empty.run es) key ev →
      ((empty.run es).step ev).entriesOf key = (empty.run es).entriesOf key)
    ∧ (∀ key timeout err, ((empty.run es).register key timeout).1 = .error err →
      err = .duplicateCorrelation key
        ∧ ((empty.run es).register key timeout).2.entries = (empty.run es).entries
        ∧ ((empty.run es).register key timeout).2.tickets = (empty.run es).tickets)
    ∧ ∀ ops : List Operation, Matched (ops.foldl perform (empty.run es)) := by
  have h : Matched (empty.run es) := run_matched empty_matched es
  refine ⟨fun e he => ?_, fun t ht hr => h.mem_entries.mpr ⟨t, ht, hr, rfl⟩, h.nodup_keys,
    fun t ht t' ht' hr hr' hkey => h.eq_of_key ht ht' hr hr' hkey,
    fun t ht ev => h.not_mem_step_iff ht ev, fun id t ht => h.ne_of_mem_drop ht,
    fun e he id hid => ⟨mem_entries_drop he hid, mem_entries_endWait he hid⟩,
    fun ev key hk => entriesOf_step ev hk, fun key timeout err hreg => ?_,
    fun ops => foldl_matched h ops⟩
  · obtain ⟨t, ht, hr, rfl⟩ := h.mem_entries.mp he
    exact ⟨t, ⟨ht, hr, rfl, rfl⟩, fun t' ht' => h.eq_of_id ht'.1 ht ht'.2.2.2⟩
  · obtain ⟨rfl, hafter⟩ := register_eq_error hreg
    rw [hafter]
    exact ⟨rfl, rfl, rfl⟩

end OrderDesk.Waitlist
