import OrderDesk.Proofs.Waitlist.Run

/-!
# Proofs/Waitlist/Entries — one entry for each ticket that waits

    entries  ──(key, number)──▸  tickets without a reply

The correspondence is `Matched`.  It holds of the empty list, every step keeps it (`step_matched`),
hence so does every run, and so do the operations that are several steps at once
(`perform_matched`).
-/

namespace OrderDesk.Waitlist

variable {w : Waitlist} {key : String} {t t' : Ticket} {e : Entry}

/-- The tickets that have got no reply yet. -/
def unanswered (w : Waitlist) : List Ticket := w.tickets.filter (·.reply.isNone)

theorem mem_unanswered : t ∈ w.unanswered ↔ t ∈ w.tickets ∧ t.reply = none := by
  simp [unanswered]

/-- **Entries and tickets match:** each ticket without a reply has its entry, there are no others,
and no key has two. -/
structure Matched (w : Waitlist) : Prop where
  entries_eq : w.entries = w.unanswered.map Ticket.entry
  nodup_keys : (w.entries.map Entry.key).Nodup
  nodup_ids : (w.tickets.map Ticket.id).Nodup
  id_lt : ∀ t ∈ w.tickets, t.id < w.nextId

theorem empty_matched : Matched empty :=
  ⟨rfl, List.nodup_nil, List.nodup_nil, fun _ ht => absurd ht List.not_mem_nil⟩

namespace Matched

theorem mem_entries (h : Matched w) :
    e ∈ w.entries ↔ ∃ t ∈ w.tickets, t.reply = none ∧ t.entry = e := by
  simp [h.entries_eq, mem_unanswered, and_assoc]

/-- A ticket is known by its number. -/
theorem eq_of_id (h : Matched w) (ht : t ∈ w.tickets) (ht' : t' ∈ w.tickets) (hid : t.id = t'.id) :
    t = t' :=
  List.inj_on_of_nodup_map h.nodup_ids ht ht' hid

/-- An entry is known by its key. -/
theorem entry_eq_of_key (h : Matched w) {e e' : Entry} (he : e ∈ w.entries) (he' : e' ∈ w.entries)
    (hkey : e.key = e'.key) : e = e' :=
  List.inj_on_of_nodup_map h.nodup_keys he he' hkey

/-- …and by its number. -/
theorem entry_eq_of_id (h : Matched w) (ht : t ∈ w.tickets) (he : e ∈ w.entries)
    (hid : e.id = t.id) : e = t.entry ∧ t.reply = none := by
  obtain ⟨t', ht', hr, rfl⟩ := h.mem_entries.mp he
  obtain rfl : t' = t := h.eq_of_id ht' ht hid
  exact ⟨rfl, hr⟩

/-- The tickets that some entries belong to are those without a reply whose own entry is one of
them. -/
theorem any_filter_entries (h : Matched w) (p : Entry → Bool) (ht : t ∈ w.tickets) :
    (w.entries.filter p).any (·.id = t.id) = (t.reply.isNone && p t.entry) := by
  rw [Bool.eq_iff_iff, List.any_eq_true, Bool.and_eq_true]
  constructor
  · rintro ⟨e, he, hid⟩
    obtain ⟨he, hp⟩ := List.mem_filter.mp he
    obtain ⟨rfl, hr⟩ := h.entry_eq_of_id ht he (by simpa using hid)
    exact ⟨by simp [hr], hp⟩
  · rintro ⟨hr, hp⟩
    have he : t.entry ∈ w.entries := h.mem_entries.mpr ⟨t, ht, by simpa using hr, rfl⟩
    exact ⟨t.entry, List.mem_filter.mpr ⟨he, hp⟩, by simp [Ticket.entry]⟩

/-- A ticket after some requests have been answered. -/
theorem tickets_answer (h : Matched w) (p : Entry → Bool) (reply : Reply) :
    (w.answer p reply).tickets
      = w.tickets.map fun t => if t.reply.isNone && p t.entry then t.answered reply else t :=
  List.map_congr_left fun t ht => by rw [h.any_filter_entries p ht]

theorem unanswered_answer (h : Matched w) (p : Entry → Bool) (reply : Reply) :
    (w.answer p reply).unanswered = w.unanswered.filter (!p ·.entry) := by
  rw [unanswered, h.tickets_answer, List.filter_map, unanswered, List.filter_filter]
  have hfilter : ∀ t : Ticket,
      ((·.reply.isNone) ∘ fun t => if t.reply.isNone && p t.entry then t.answered reply else t) t
        = (!p t.entry && t.reply.isNone) := by
    intro t
    cases hr : t.reply <;> cases hp : p t.entry <;> simp [hr, hp, Ticket.answered]
  rw [List.filter_congr fun t _ => hfilter t]
  refine (List.map_congr_left fun t ht => ?_).trans (List.map_id _)
  simp only [List.mem_filter, Bool.and_eq_true, Bool.not_eq_eq_eq_not, Bool.not_true] at ht
  simp [ht.2.1]

/-- Answering keeps the match. -/
theorem answer (h : Matched w) (p : Entry → Bool) (reply : Reply) :
    Matched (w.answer p reply) where
  entries_eq := by
    rw [h.unanswered_answer, show (w.answer p reply).entries = w.entries.filter (!p ·) from rfl,
      h.entries_eq, List.filter_map]
    rfl
  nodup_keys := (List.filter_sublist.map _).nodup h.nodup_keys
  nodup_ids := by
    have hids : (w.answer p reply).tickets.map Ticket.id = w.tickets.map Ticket.id := by
      rw [h.tickets_answer, List.map_map]
      refine List.map_congr_left fun t _ => ?_
      simp only [Function.comp_apply]
      split <;> rfl
    rw [hids]
    exact h.nodup_ids
  id_lt t ht := by
    rw [h.tickets_answer] at ht
    obtain ⟨t₀, ht₀, rfl⟩ := List.mem_map.mp ht
    have := h.id_lt t₀ ht₀
    split <;> exact this

/-- Letting go of a ticket keeps the match. -/
theorem release (h : Matched w) (ht : t ∈ w.tickets) : Matched (w.release t) where
  entries_eq := by
    have hun : (w.release t).unanswered = w.unanswered.filter (·.entry ≠ t.entry) := by
      rw [unanswered, unanswered, Waitlist.release, List.filter_filter, List.filter_filter]
      refine List.filter_congr fun t' ht' => ?_
      have hiff : t'.entry = t.entry ↔ t'.id = t.id :=
        ⟨congrArg Entry.id, fun hid => by rw [h.eq_of_id ht' ht hid]⟩
      simp [hiff, Bool.and_comm]
    rw [hun, show (w.release t).entries = w.entries.filter (· ≠ t.entry) from rfl, h.entries_eq,
      List.filter_map]
    rfl
  nodup_keys := (List.filter_sublist.map _).nodup h.nodup_keys
  nodup_ids := (List.filter_sublist.map _).nodup h.nodup_ids
  id_lt t' ht' := h.id_lt t' (List.mem_of_mem_filter ht')

/-- Registering keeps the match, whether the key is refused or not. -/
theorem register (h : Matched w) (key : String) (timeout : Duration) :
    Matched (w.register key timeout).2 := by
  by_cases hp : w.isPending key = true
  · rw [register_of_isPending hp]
    exact ⟨h.entries_eq, h.nodup_keys, h.nodup_ids, fun t ht => Nat.lt_succ_of_lt (h.id_lt t ht)⟩
  · rw [register_of_not_isPending hp]
    refine ⟨?_, ?_, ?_, ?_⟩
    · rw [h.entries_eq]
      rfl
    · refine List.nodup_cons.mpr ⟨fun hk => hp ?_, h.nodup_keys⟩
      obtain ⟨e, he, hkey⟩ := List.mem_map.mp hk
      exact isPending_iff.mpr ⟨e, he, hkey⟩
    · refine List.nodup_cons.mpr ⟨fun hid => ?_, h.nodup_ids⟩
      obtain ⟨t, ht, hid⟩ := List.mem_map.mp hid
      have hlt := h.id_lt t ht
      rw [hid] at hlt
      exact Nat.lt_irrefl _ hlt
    · intro t ht
      rcases List.mem_cons.mp ht with rfl | ht
      · exact Nat.lt_succ_self _
      · exact Nat.lt_succ_of_lt (h.id_lt t ht)

/-- A change of tickets that concerns neither their entries nor their replies keeps the match. -/
theorem map_tickets (h : Matched w) (f : Ticket → Ticket) (hentry : ∀ t, (f t).entry = t.entry)
    (hreply : ∀ t, (f t).reply = t.reply) : Matched { w with tickets := w.tickets.map f } where
  entries_eq := by
    have hun : unanswered { w with tickets := w.tickets.map f } = w.unanswered.map f := by
      rw [unanswered, unanswered, List.filter_map]
      exact congrArg (List.map f) (List.filter_congr fun t _ => by simp [hreply])
    rw [hun, List.map_map, h.entries_eq]
    exact List.map_congr_left fun t _ => (hentry t).symm
  nodup_keys := h.nodup_keys
  nodup_ids := by
    have hids : (w.tickets.map f).map Ticket.id = w.tickets.map Ticket.id := by
      rw [List.map_map]
      exact List.map_congr_left fun t _ => congrArg Entry.id (hentry t)
    rw [hids]
    exact h.nodup_ids
  id_lt t ht := by
    obtain ⟨t₀, ht₀, rfl⟩ := List.mem_map.mp ht
    have hid : (f t₀).id = t₀.id := congrArg Entry.id (hentry t₀)
    rw [hid]
    exact h.id_lt t₀ ht₀

end Matched

/-! ## Every step keeps the match -/

/-- **Each step keeps the match.** -/
theorem step_matched (h : Matched w) : ∀ ev : Event, Matched (w.step ev)
  | .register key timeout => h.register key timeout
  | .deliver key v => by
      by_cases hp : w.isPending key = true
      · rw [step, deliver_of_isPending hp]
        exact h.answer _ _
      · rw [step, deliver_of_not_isPending hp]
        exact h
  | .drain reason => by
      rw [step, drain_eq_answer]
      exact h.answer _ _
  | .drop id => by
      rw [step, drop]
      split
      · next t ht => exact h.release (ticket?_eq_some ht).1
      · exact h
  | .attend id =>
      h.map_tickets (fun t => if t.id = id then t.attended else t)
        (fun t => by split <;> rfl) (fun t => by split <;> rfl)
  | .elapse _ => ⟨h.entries_eq, h.nodup_keys, h.nodup_ids, h.id_lt⟩
  | .endWait id => by
      rw [step, endWait]
      split
      · next t ht =>
        split
        · have hr := h.release (ticket?_eq_some ht).1
          exact ⟨hr.entries_eq, hr.nodup_keys, hr.nodup_ids, hr.id_lt⟩
        · exact h
      · exact h

/-- **So does every run.** -/
theorem run_matched (h : Matched w) (es : List Event) : Matched (w.run es) := by
  induction es generalizing w with
  | nil => exact h
  | cons ev es ih => exact ih (step_matched h ev)

theorem settle_matched (h : Matched w) : Matched w.settle := by
  rw [settle_eq_run]
  exact run_matched h _

theorem giveUp_matched (h : Matched w) (id : Nat) : Matched (w.giveUp id) :=
  have hdrop : Matched (w.drop id) := step_matched h (.drop id)
  ⟨hdrop.entries_eq, hdrop.nodup_keys, hdrop.nodup_ids, hdrop.id_lt⟩

theorem startWait_matched (h : Matched w) (id : Nat) : Matched (w.startWait id) :=
  settle_matched (step_matched h (.attend id))

theorem advance_matched (h : Matched w) (span : Duration) : Matched (w.advance span) :=
  settle_matched (step_matched h (.elapse span))

/-- **Each operation keeps the match.** -/
theorem perform_matched (h : Matched w) : ∀ op : Operation, Matched (w.perform op)
  | .single ev => step_matched h ev
  | .resolve key v => settle_matched (step_matched h (.deliver key v))
  | .failAll reason => settle_matched (step_matched h (.drain reason))
  | .giveUp id => giveUp_matched h id
  | .startWait id => startWait_matched h id
  | .advance span => advance_matched h span
  | .finishWait id => giveUp_matched (advance_matched (startWait_matched h id) _) id

/-- **So does every list of operations.** -/
theorem foldl_matched (h : Matched w) (ops : List Operation) : Matched (ops.foldl perform w) := by
  induction ops generalizing w with
  | nil => exact h
  | cons op ops ih => exact ih (perform_matched h op)

end OrderDesk.Waitlist
