import OrderDesk.Proofs.Waitlist.Tickets

/-!
# Proofs/Waitlist/Outcome — what a wait ends with

    register ──▸ first reply to the key ──▸ endWait     its reply
    register ──────────▸ deadline ────────▸ endWait     a timeout

A ticket is what the events behind its registration made of it: the first of them that answers its
key is its reply, whoever registers that key later (`Ticket.behind`).  As long as it is held the list
has it so (`Held.mem_tickets`), so the first `endWait` that finds a reply, or the deadline passed,
ends the wait, and nothing else does (`outcome?_run_eq_some`).
-/

namespace OrderDesk

open Waitlist

namespace Waitlist

/-- What an event answers to a request under a key. -/
def Event.replyTo (key : String) : Event → Option Reply
  | .deliver k v => if k = key then some (.ok v) else none
  | .drain reason => some (.error (.streamDisconnected reason))
  | _ => none

/-- Whether with an event the caller of a ticket begins to wait. -/
def Event.attends (id : Nat) : Event → Bool
  | .attend i => i = id
  | _ => false

/-- **The first reply** among some events to a request under a key. -/
def firstReply (key : String) (es : List Event) : Option Reply := es.findSome? (·.replyTo key)

/-- What the wait on a ticket finds: a reply before all; that its channel is closed, if it has no
reply and no entry is left to give it one; then the deadline. -/
def poll (w : Waitlist) (t : Ticket) : Option Reply :=
  if t.waiting then
    match t.reply with
    | some reply => some reply
    | none =>
      if w.entries.any (·.id = t.id) then
        if t.deadline ≤ w.clock then some t.expired else none
      else some (.error (.streamDisconnected ("channel closed while waiting for " ++ t.key)))
  else none

end Waitlist

/-- **A ticket behind some events,** if it is still held. -/
def Ticket.behind (t : Ticket) (es : List Event) : Ticket :=
  { t with
    reply := t.reply.or (firstReply t.key es)
    waiting := t.waiting || es.any (·.attends t.id) }

namespace Ticket

variable {t : Ticket} {es : List Event} {id now : Nat} {r : Reply}

@[simp] theorem id_behind (t : Ticket) (es : List Event) : (t.behind es).id = t.id := rfl

@[simp] theorem key_behind (t : Ticket) (es : List Event) : (t.behind es).key = t.key := rfl

@[simp] theorem behind_nil (t : Ticket) : t.behind [] = t := by
  simp [behind, firstReply]

theorem behind_cons (t : Ticket) (ev : Event) (es : List Event) :
    t.behind (ev :: es) = (t.behind [ev]).behind es := by
  simp only [behind, firstReply, List.findSome?_cons, List.any_cons, List.any_nil, Bool.or_false,
    Bool.or_assoc, Option.or_assoc]
  cases hr : ev.replyTo t.key with
  | none => simp
  | some r => simp

/-- An event that neither answers a ticket nor is about its caller leaves it as it is. -/
theorem behind_of_quiet (ev : Event) (hr : t.reply = none → ev.replyTo t.key = none)
    (ha : ev.attends t.id = false) : t.behind [ev] = t := by
  have hreply : t.reply.or (firstReply t.key [ev]) = t.reply := by
    cases h : t.reply with
    | none => rw [firstReply, List.findSome?_cons, hr h]; rfl
    | some r => rfl
  rw [behind, hreply, List.any_cons, ha]
  simp

/-- A reply is that of a ticket that has got none. -/
theorem behind_of_reply (ev : Event) (hr : ev.replyTo t.key = some r)
    (ha : ev.attends t.id = false) : t.behind [ev] = if t.reply.isNone then t.answered r else t := by
  have hfirst : firstReply t.key [ev] = some r := by rw [firstReply, List.findSome?_cons, hr]
  rw [behind, hfirst, List.any_cons, ha]
  obtain ⟨id, key, timeout, deadline, reply, waiting⟩ := t
  cases reply <;> simp [answered]

/-- **When a fresh ticket's wait can end, and with what:** its caller waits, and there is a reply or
the deadline has passed. -/
theorem behind_outcome?_eq_some (hr : t.reply = none) (hw : t.waiting = false) :
    (t.behind es).outcome? now = some r ↔ .attend t.id ∈ es
      ∧ (firstReply t.key es = some r
        ∨ firstReply t.key es = none ∧ t.deadline ≤ now
          ∧ r = .error (.correlationTimeout t.key t.timeout)) := by
  have hattend : (t.behind es).waiting = true ↔ .attend t.id ∈ es := by
    simp only [behind, hw, Bool.false_or, List.any_eq_true]
    constructor
    · rintro ⟨ev, hev, ha⟩
      cases ev with
      | attend i =>
        obtain rfl : i = t.id := of_decide_eq_true ha
        exact hev
      | _ => contradiction
    · exact fun hmem => ⟨_, hmem, decide_eq_true rfl⟩
  have hreply : (t.behind es).reply = firstReply t.key es := by rw [behind, hr, Option.none_or]
  rw [outcome?, hreply, ← hattend]
  cases (t.behind es).waiting with
  | false => simp
  | true =>
    cases firstReply t.key es with
    | some r' => simp
    | none =>
      have hexpired : (t.behind es).expired = .error (.correlationTimeout t.key t.timeout) := rfl
      have hdeadline : (t.behind es).deadline = t.deadline := rfl
      simp [hexpired, hdeadline, eq_comm]

end Ticket

namespace Waitlist

variable {w : Waitlist} {t : Ticket} {ev : Event} {es post : List Event} {r : Reply} {key : String}

/-! ## A ticket that is held -/

/-- **Each step does to a ticket what the event says,** if the ticket is not dropped and its wait does
not end. -/
theorem Matched.behind_mem_step (h : w.Matched) (ht : t ∈ w.tickets) : ∀ {ev : Event},
    ev ≠ .drop t.id → (ev = .endWait t.id → t.outcome? w.clock = none) →
      t.behind [ev] ∈ (w.step ev).tickets
  | .register k timeout, _, _ => by
      rw [Ticket.behind_of_quiet _ (fun _ => rfl) rfl]
      by_cases hp : w.isPending k = true
      · rw [step, register_of_isPending hp]
        exact ht
      · rw [step, register_of_not_isPending hp]
        exact List.mem_cons_of_mem _ ht
  | .deliver k v, _, _ => by
      rw [step, h.mem_tickets_deliver]
      by_cases hk : k = t.key
      · rw [Ticket.behind_of_reply (.deliver k v) (if_pos hk) rfl]
        cases hr : t.reply with
        | none => exact .inr ⟨t, ht, hr, hk.symm, rfl⟩
        | some r => exact .inl ⟨ht, fun hand => by simp [hr] at hand⟩
      · rw [Ticket.behind_of_quiet (.deliver k v) (fun _ => if_neg hk) rfl]
        exact .inl ⟨ht, fun hand => hk hand.2.symm⟩
  | .drain reason, _, _ => by
      rw [step, drain_eq_answer, h.mem_tickets_answer, Ticket.behind_of_reply (.drain reason) rfl rfl]
      exact ⟨t, ht, by rw [Bool.and_true]⟩
  | .drop id, hdrop, _ => by
      rw [Ticket.behind_of_quiet _ (fun _ => rfl) rfl, step, drop]
      split
      · next t' ht' =>
        refine mem_tickets_release.mpr ⟨ht, fun hid => hdrop ?_⟩
        rw [hid, (ticket?_eq_some ht').2]
      · exact ht
  | .attend id, _, _ => by
      refine mem_tickets_attend.mpr ⟨t, ht, ?_⟩
      split
      · next hid =>
        simp [Ticket.behind, Ticket.attended, firstReply, Event.replyTo, Event.attends, hid]
      · next hid =>
        rw [Ticket.behind_of_quiet (.attend id) (fun _ => rfl) (decide_eq_false (Ne.symm hid))]
  | .elapse _, _, _ => by
      rw [Ticket.behind_of_quiet _ (fun _ => rfl) rfl]
      exact ht
  | .endWait id, _, hend => by
      rw [Ticket.behind_of_quiet _ (fun _ => rfl) rfl]
      by_cases hid : id = t.id
      · subst hid
        rwa [h.step_endWait_of_none ht (hend rfl)]
      · rw [step, endWait]
        split
        · next t' ht' =>
          split
          · refine mem_tickets_release.mpr ⟨ht, fun heq => hid ?_⟩
            rw [heq, (ticket?_eq_some ht').2]
          · exact ht
        · exact ht

/-- **A ticket is held** behind some events: it was not dropped, and no wait on it could end. -/
structure Held (w : Waitlist) (t : Ticket) (es : List Event) : Prop where
  not_mem : .drop t.id ∉ es
  outcome?_eq_none : ∀ before after, es = before ++ .endWait t.id :: after →
    (t.behind before).outcome? (w.run before).clock = none

theorem held_nil (w : Waitlist) (t : Ticket) : w.Held t [] :=
  ⟨List.not_mem_nil, fun before after h => by simp at h⟩

theorem held_cons : w.Held t (ev :: es) ↔ ev ≠ .drop t.id
    ∧ (ev = .endWait t.id → t.outcome? w.clock = none) ∧ (w.step ev).Held (t.behind [ev]) es := by
  constructor
  · rintro ⟨hdrop, hend⟩
    rw [List.mem_cons, not_or] at hdrop
    refine ⟨Ne.symm hdrop.1, fun hev => ?_, hdrop.2, fun before after heq => ?_⟩
    · have := hend [] es (by rw [hev, List.nil_append])
      rwa [Ticket.behind_nil] at this
    · have := hend (ev :: before) after (by rw [heq]; rfl)
      rwa [Ticket.behind_cons] at this
  · rintro ⟨hne, hev, hheld⟩
    refine ⟨fun hmem => ?_, fun before after heq => ?_⟩
    · rcases List.mem_cons.mp hmem with h | h
      · exact hne h.symm
      · exact hheld.not_mem h
    · cases before with
      | nil =>
        rw [Ticket.behind_nil]
        exact hev (List.cons.inj heq).1
      | cons ev' before =>
        obtain ⟨rfl, heq'⟩ := List.cons.inj heq
        rw [Ticket.behind_cons]
        exact hheld.outcome?_eq_none before after heq'

/-- **The list has a ticket that is held as the events have made it.** -/
theorem Held.mem_tickets (hheld : w.Held t es) (h : w.Matched) (ht : t ∈ w.tickets) :
    t.behind es ∈ (w.run es).tickets := by
  induction es generalizing w t with
  | nil => rwa [Ticket.behind_nil]
  | cons ev es ih =>
    obtain ⟨hdrop, hend, hheld⟩ := held_cons.mp hheld
    rw [Ticket.behind_cons]
    exact ih hheld (step_matched h ev) (h.behind_mem_step ht hdrop hend)

/-! ## The end of a wait -/

/-- A wait ends in a run: an `endWait` finds an outcome while the ticket is held. -/
def EndsWith (w : Waitlist) (t : Ticket) (post : List Event) (r : Reply) : Prop :=
  ∃ before after, post = before ++ .endWait t.id :: after ∧ w.Held t before
    ∧ (t.behind before).outcome? (w.run before).clock = some r

theorem not_endsWith_nil : ¬ w.EndsWith t [] r := by
  rintro ⟨before, after, heq, -⟩
  simp at heq

theorem endsWith_cons : w.EndsWith t (ev :: post) r
    ↔ (ev = .endWait t.id ∧ t.outcome? w.clock = some r)
      ∨ (ev ≠ .drop t.id ∧ (ev = .endWait t.id → t.outcome? w.clock = none)
        ∧ (w.step ev).EndsWith (t.behind [ev]) post r) := by
  constructor
  · rintro ⟨before, after, heq, hheld, ho⟩
    cases before with
    | nil =>
      rw [Ticket.behind_nil] at ho
      exact .inl ⟨(List.cons.inj heq).1, ho⟩
    | cons ev' before =>
      obtain ⟨rfl, heq'⟩ := List.cons.inj heq
      obtain ⟨hdrop, hend, hheld⟩ := held_cons.mp hheld
      rw [Ticket.behind_cons] at ho
      exact .inr ⟨hdrop, hend, before, after, heq', hheld, ho⟩
  · rintro (⟨rfl, ho⟩ | ⟨hdrop, hend, before, after, rfl, hheld, ho⟩)
    · exact ⟨[], post, rfl, held_nil w t, by rwa [Ticket.behind_nil]⟩
    · refine ⟨ev :: before, after, rfl, held_cons.mpr ⟨hdrop, hend, hheld⟩, ?_⟩
      rwa [Ticket.behind_cons]

/-- **A wait ends with the first `endWait` that finds an outcome,** and with nothing else. -/
theorem outcome?_run_eq_some (h : w.Matched) (he : w.Ended) (ht : t ∈ w.tickets) :
    (w.run post).outcome? t.id = some r ↔ w.EndsWith t post r := by
  induction post generalizing w t with
  | nil =>
    have hnone : (w.run []).outcome? t.id = none := he.outcome?_eq_none ht
    simp [hnone, not_endsWith_nil]
  | cons ev post ih =>
    have hnone : w.outcome? t.id = none := he.outcome?_eq_none ht
    rw [endsWith_cons]
    by_cases hdrop : ev = .drop t.id
    · -- what was dropped is gone, so no wait on it ends
      subst hdrop
      have hout : (w.run (.drop t.id :: post)).outcome? t.id = none := by
        rw [run, List.foldl_cons, h.step_drop ht]
        exact (h.gone_release ht).outcome?_run (h.release ht) hnone post
      simp [hout]
    · by_cases hend : ev = .endWait t.id → t.outcome? w.clock = none
      · have hmem := h.behind_mem_step ht hdrop hend
        have hih := ih (step_matched h ev) (step_ended h he ev) hmem
        have hnot : ¬ (ev = .endWait t.id ∧ t.outcome? w.clock = some r) := by
          rintro ⟨hev, ho⟩
          rw [hend hev] at ho
          contradiction
        rw [or_iff_right hnot, and_iff_right hdrop, and_iff_right hend]
        exact hih
      · -- the wait ends here, with what is found here
        rw [Classical.not_imp] at hend
        obtain ⟨rfl, hne⟩ := hend
        obtain ⟨r', ho⟩ := Option.ne_none_iff_exists'.mp hne
        have hout : (w.run (.endWait t.id :: post)).outcome? t.id = some r' :=
          outcome?_run (he.outcome?_endWait h ht ho) post
        simp [hout, ho]

/-- **A ticket is held or gone,** and it goes when it is dropped or its wait ends. -/
theorem held_or_gone (h : w.Matched) (he : w.Ended) (ht : t ∈ w.tickets) (es : List Event) :
    w.Held t es
      ∨ (w.run es).Gone t.id ∧ (.drop t.id ∈ es ∨ ∃ r, (w.run es).outcome? t.id = some r) := by
  induction es generalizing w t with
  | nil => exact .inl (held_nil w t)
  | cons ev es ih =>
    by_cases hdrop : ev = .drop t.id
    · subst hdrop
      refine .inr ⟨?_, .inl List.mem_cons_self⟩
      rw [run, List.foldl_cons, h.step_drop ht]
      exact (h.gone_release ht).run (h.release ht) es
    · by_cases hend : ev = .endWait t.id → t.outcome? w.clock = none
      · have hmem := h.behind_mem_step ht hdrop hend
        rcases ih (step_matched h ev) (step_ended h he ev) hmem with hheld | ⟨hgone, hwhy⟩
        · exact .inl (held_cons.mpr ⟨hdrop, hend, hheld⟩)
        · exact .inr ⟨hgone, hwhy.imp_left (List.mem_cons_of_mem ev)⟩
      · rw [Classical.not_imp] at hend
        obtain ⟨rfl, hne⟩ := hend
        obtain ⟨r, ho⟩ := Option.ne_none_iff_exists'.mp hne
        exact .inr ⟨(h.gone_endWait ht ho).run (step_matched h _) es,
          .inr ⟨r, outcome?_run (he.outcome?_endWait h ht ho) es⟩⟩

/-- **No channel closes without a reply:** who has got none has its entry. -/
theorem Matched.poll_eq (h : w.Matched) (ht : t ∈ w.tickets) : w.poll t = t.outcome? w.clock := by
  rw [poll, Ticket.outcome?]
  cases hr : t.reply with
  | some r => rfl
  | none =>
    have hentry : w.entries.any (·.id = t.id) = true :=
      List.any_eq_true.mpr ⟨t.entry, h.mem_entries.mpr ⟨t, ht, hr, rfl⟩, decide_eq_true rfl⟩
    simp only [hentry, if_pos]

/-- When a wait ends without a reply, its key is free. -/
theorem Matched.isPending_endWait (h : w.Matched) (ht : t ∈ w.tickets) (hr : t.reply = none)
    (ho : t.outcome? w.clock = some r) : (w.step (.endWait t.id)).isPending t.key = false := by
  rw [h.step_endWait ht ho, ← Bool.not_eq_true, isPending_iff]
  rintro ⟨e, he, hkey⟩
  obtain ⟨hmem, hne⟩ := List.mem_filter.mp he
  have hentry : t.entry ∈ w.entries := h.mem_entries.mpr ⟨t, ht, hr, rfl⟩
  exact of_decide_eq_true hne (h.entry_eq_of_key hmem hentry hkey)

/-! ## A request and its wait -/

/-- **A fresh ticket:** it has got no reply, and its caller does not wait yet. -/
structure Fresh (w : Waitlist) (t : Ticket) : Prop where
  matched : w.Matched
  ended : w.Ended
  mem_tickets : t ∈ w.tickets
  reply_eq_none : t.reply = none
  waiting_eq_false : t.waiting = false

/-- A request that is registered gets a fresh ticket, with the time that it has. -/
theorem fresh_of_register {w₀ : Waitlist} {timeout : Duration} (h : w₀.Matched) (he : w₀.Ended)
    (hreg : w₀.register key timeout = (.ok t, w)) : w.Fresh t
      ∧ t.key = key ∧ t.timeout = timeout ∧ t.deadline = deadlineAfter w₀.clock timeout := by
  have hw : w = w₀.step (.register key timeout) := by rw [step, hreg]
  have hmatched : w.Matched := hw ▸ step_matched h _
  have hended : w.Ended := hw ▸ step_ended h he _
  by_cases hp : w₀.isPending key = true
  · rw [register_of_isPending hp] at hreg
    cases hreg
  · rw [register_of_not_isPending hp] at hreg
    obtain ⟨ht, rfl⟩ := Prod.mk.inj hreg
    obtain rfl := Except.ok.inj ht
    exact ⟨⟨hmatched, hended, List.mem_cons_self, rfl, rfl⟩, rfl, rfl, rfl⟩

/-- **What the wait on a ticket can end with behind some events:** its caller waits, and there is a
first reply, or else the deadline has passed. -/
def CanEnd (w : Waitlist) (t : Ticket) (es : List Event) (r : Reply) : Prop :=
  .attend t.id ∈ es ∧ (firstReply t.key es = some r
    ∨ firstReply t.key es = none ∧ t.deadline ≤ (w.run es).clock
      ∧ r = .error (.correlationTimeout t.key t.timeout))

/-- No reply is a timeout. -/
theorem firstReply_ne_timeout (key : String) (es : List Event) (key' : String)
    (timeout : Duration) : firstReply key es ≠ some (.error (.correlationTimeout key' timeout)) := by
  intro h
  obtain ⟨ev, -, hev⟩ := List.exists_of_findSome?_eq_some h
  cases ev with
  | deliver k v =>
    rw [Event.replyTo] at hev
    split at hev <;> cases hev
  | drain reason => cases hev
  | _ => contradiction

namespace Fresh

theorem canEnd_iff (hf : w.Fresh t) :
    w.CanEnd t es r ↔ (t.behind es).outcome? (w.run es).clock = some r :=
  (Ticket.behind_outcome?_eq_some hf.reply_eq_none hf.waiting_eq_false).symm

theorem held_iff (hf : w.Fresh t) : w.Held t es ↔ .drop t.id ∉ es
    ∧ ∀ before after r, es = before ++ .endWait t.id :: after → ¬ w.CanEnd t before r := by
  constructor
  · rintro ⟨hdrop, hend⟩
    refine ⟨hdrop, fun before after r heq hcan => ?_⟩
    rw [hf.canEnd_iff, hend before after heq] at hcan
    contradiction
  · rintro ⟨hdrop, hend⟩
    refine ⟨hdrop, fun before after heq => Option.eq_none_iff_forall_ne_some.mpr fun r ho => ?_⟩
    exact hend before after r heq (hf.canEnd_iff.mpr ho)

/-- Where its wait ends, and with what. -/
theorem outcome?_eq_some (hf : w.Fresh t) : (w.run post).outcome? t.id = some r ↔ ∃ before after,
    post = before ++ .endWait t.id :: after ∧ .drop t.id ∉ before ∧ w.CanEnd t before r
      ∧ ∀ b b' r', before = b ++ .endWait t.id :: b' → ¬ w.CanEnd t b r' := by
  rw [outcome?_run_eq_some hf.matched hf.ended hf.mem_tickets]
  refine exists_congr fun before => exists_congr fun after => and_congr_right fun _ => ?_
  rw [hf.held_iff, ← hf.canEnd_iff, and_assoc, and_congr_right_iff]
  exact fun _ => and_comm

/-- **A wait that has begun ends** once its deadline has passed, if the ticket is not dropped. -/
theorem exists_outcome (hf : w.Fresh t) (hdrop : .drop t.id ∉ es) (hattend : .attend t.id ∈ es)
    (hdeadline : t.deadline ≤ (w.run es).clock) :
    ∃ r, (w.run (es ++ [.endWait t.id])).outcome? t.id = some r := by
  rw [run_concat]
  rcases held_or_gone hf.matched hf.ended hf.mem_tickets es with hheld | ⟨-, hdrop' | ⟨r, ho⟩⟩
  · obtain ⟨r, hcan⟩ : ∃ r, w.CanEnd t es r := by
      cases hfirst : firstReply t.key es with
      | some r => exact ⟨r, hattend, .inl hfirst⟩
      | none => exact ⟨_, hattend, .inr ⟨hfirst, hdeadline, rfl⟩⟩
    exact ⟨r, (run_ended hf.matched hf.ended es).outcome?_endWait (run_matched hf.matched es)
      (hheld.mem_tickets hf.matched hf.mem_tickets) (hf.canEnd_iff.mp hcan)⟩
  · exact absurd hdrop' hdrop
  · exact ⟨r, outcome?_run ho [.endWait t.id]⟩

/-- **A wait that gives up leaves its key free.** -/
theorem isPending_of_timeout (hf : w.Fresh t) (hnone : (w.run es).outcome? t.id = none)
    (hout : (w.run (es ++ [.endWait t.id])).outcome? t.id
      = some (.error (.correlationTimeout t.key t.timeout))) :
    (w.run (es ++ [.endWait t.id])).isPending t.key = false := by
  have hes : Matched (w.run es) := run_matched hf.matched es
  have hended : Ended (w.run es) := run_ended hf.matched hf.ended es
  rw [run_concat] at hout ⊢
  rcases held_or_gone hf.matched hf.ended hf.mem_tickets es with hheld | ⟨hgone, -⟩
  · have hmem := hheld.mem_tickets hf.matched hf.mem_tickets
    cases ho : (t.behind es).outcome? (w.run es).clock with
    | none =>
      have hstay := hes.step_endWait_of_none hmem ho
      rw [Ticket.id_behind] at hstay
      rw [hstay, hnone] at hout
      contradiction
    | some r =>
      have hsome := hended.outcome?_endWait hes hmem ho
      obtain rfl := Option.some.inj (hsome.symm.trans hout)
      have hfirst : firstReply t.key es = none := (hf.canEnd_iff.mpr ho).2.elim
        (fun h => absurd h (firstReply_ne_timeout _ _ _ _)) And.left
      have hreply : (t.behind es).reply = none := by
        simp only [Ticket.behind, hf.reply_eq_none, hfirst, Option.or_none]
      simpa using hes.isPending_endWait hmem hreply ho
  · have hstill : ((w.run es).step (.endWait t.id)).outcome? t.id = none :=
      hgone.outcome?_run hes hnone [.endWait t.id]
    rw [hstill] at hout
    contradiction

end Fresh

/-! ## Every wait -/

/-- **Each wait has one outcome, fixed by the first event that can.**  Behind the registration of a
request its wait ends with the first `endWait` that can end it, if the ticket is not dropped before:
with the first reply to the key, be it a response or the end of the connection, and without one with
a timeout, once the deadline has passed.  It does end then, its key is free again, and what comes
later changes nothing.  A response is taken if and only if there is a ticket that waits for it, which
is the one that gets it; and whoever waits without a reply has an entry, so that the end of a channel
without a reply is never what a wait ends with. -/
theorem run_outcome (pre post : List Event) {key : String} {timeout : Duration} {t : Ticket}
    {w : Waitlist} (hreg : (empty.run pre).register key timeout = (.ok t, w)) :
    (t.key = key ∧ t.timeout = timeout
      ∧ t.deadline = deadlineAfter (empty.run pre).clock timeout)
    ∧ (∀ r, (w.run post).outcome? t.id = some r ↔ ∃ before after,
      post = before ++ .endWait t.id :: after ∧ .drop t.id ∉ before ∧ w.CanEnd t before r
        ∧ ∀ b b' r', before = b ++ .endWait t.id :: b' → ¬ w.CanEnd t b r')
    ∧ ((w.run post).outcomes.map Prod.fst).Nodup
    ∧ (∀ r more, (w.run post).outcome? t.id = some r →
      (w.run (post ++ more)).outcome? t.id = some r)
    ∧ (∀ span, .drop t.id ∉ post → .attend t.id ∈ post →
      t.deadline ≤ (w.run post).clock + span.nanoseconds →
        ∃ r, (w.run (post ++ [.elapse span, .endWait t.id])).outcome? t.id = some r)
    ∧ ((w.run post).outcome? t.id = none →
      (w.run (post ++ [.endWait t.id])).outcome? t.id
          = some (.error (.correlationTimeout key timeout)) →
        (w.run (post ++ [.endWait t.id])).isPending key = false)
    ∧ (∀ k v, (((w.run post).deliver k v).1 = true
        ↔ ∃ t' ∈ (w.run post).tickets, t'.key = k ∧ t'.reply = none)
      ∧ ((w.run post).deliver k v).2.tickets = (w.run post).tickets.map fun t' =>
        if t'.key = k ∧ t'.reply = none then t'.answered (.ok v) else t')
    ∧ ∀ t' ∈ (w.run post).tickets, (w.run post).poll t' = t'.outcome? (w.run post).clock := by
  obtain ⟨hf, rfl, rfl, hdeadline⟩ := fresh_of_register (run_matched empty_matched pre)
    (run_ended empty_matched empty_ended pre) hreg
  have hpost : Matched (w.run post) := run_matched hf.matched post
  refine ⟨⟨rfl, rfl, hdeadline⟩, fun r => hf.outcome?_eq_some,
    (run_ended hf.matched hf.ended post).nodup_ids, fun r more ho => ?_,
    fun span hdrop hattend hspan => ?_, hf.isPending_of_timeout, fun k v => ?_,
    fun t' ht' => hpost.poll_eq ht'⟩
  · rw [run, List.foldl_append]
    exact outcome?_run ho more
  · have hclock : (w.run (post ++ [.elapse span])).clock
        = (w.run post).clock + span.nanoseconds := by
      rw [run_concat]
      rfl
    have hends : ∃ r, (w.run (post ++ [.elapse span] ++ [.endWait t.id])).outcome? t.id = some r :=
      hf.exists_outcome (by simpa using hdrop) (List.mem_append_left _ hattend) (hclock ▸ hspan)
    rwa [List.append_assoc] at hends
  · rw [deliver_fst, hpost.isPending_iff_ticket]
    exact ⟨Iff.rfl, hpost.tickets_deliver k v⟩

/-- Of two responses with a key the first is what the wait ends with, though it comes before the
caller waits. -/
theorem run_outcome_twoResponses : ∃ t w,
    (empty.run [.elapse (.seconds 5)]).register "Order-1" (.seconds 1) = (.ok t, w)
    ∧ (w.run [.deliver "Order-1" (.bool true), .deliver "Order-1" .null, .attend t.id,
      .endWait t.id]).outcome? t.id = some (.ok (.bool true)) := by
  refine ⟨_, _, rfl, ((run_outcome [.elapse (.seconds 5)] _ rfl).2.1 _).mpr
    ⟨[.deliver "Order-1" (.bool true), .deliver "Order-1" .null, .attend 0], [], rfl, ?_, ?_, ?_⟩⟩
  · simp
  · exact ⟨List.mem_cons_of_mem _ (List.mem_cons_of_mem _ List.mem_cons_self), .inl rfl⟩
  · intro b b' r' heq
    have hmem : Event.endWait 0 ∈ b ++ .endWait 0 :: b' :=
      List.mem_append_right b List.mem_cons_self
    have heq : _ = b ++ Event.endWait 0 :: b' := heq
    simp [← heq] at hmem

end Waitlist

end OrderDesk
