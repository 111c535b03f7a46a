import OrderDesk.Proofs.Channel.Matching

/-!
# Proofs/Channel/Disconnect — who is told that the stream has ended

    loop ends ──tell──▸ those who wait are told ──finish──▸ the queue is closed
                          └─ tardy: registers and queues its request here ──▸ its deadline

Between telling those who wait and closing the queue a sender can still register its request and
queue it.  `Severed` says who has been told: everybody but those who came too late, and nobody else.
-/

namespace OrderDesk

namespace Channel.Traffic

variable {w w' : Traffic} {t t' : Ticket} {r : ControlRequest} {id : Nat}

/-- **What a ticket has been told:** those who came before the end was told have a reply, those who
came later have none. -/
structure Informed (w : Traffic) (t : Ticket) : Prop where
  replied : w.HasTold → t.id ∉ w.tardy → t.reply ≠ none
  unreplied : t.id ∈ w.tardy → t.reply = none
  reason : ∀ err, t.reply = some (.error err) → err = .streamDisconnected disconnectedReason

/-- **The stream has ended for everybody but those who came too late:** nobody comes too late before
the end is told, every ticket knows what it should, and who came too late can only run out of
time. -/
structure Severed (w : Traffic) : Prop where
  isOpen_iff : w.channel.isOpen = true ↔ w.task ≠ .done
  tardy_eq : ¬ w.HasTold → w.tardy = []
  informed : ∀ t ∈ w.waitlist.tickets, w.Informed t
  outcome_lt : ∀ o ∈ w.waitlist.outcomes, o.1 < w.waitlist.nextId
  tardy_outcome : ∀ id ∈ w.tardy, ∀ reply, (id, reply) ∈ w.waitlist.outcomes →
    ∃ key timeout, reply = .error (.correlationTimeout key timeout)

theorem opening_severed : Severed opening where
  isOpen_iff := ⟨fun _ => nofun, fun _ => rfl⟩
  tardy_eq _ := rfl
  informed _ ht := absurd ht List.not_mem_nil
  outcome_lt _ ho := absurd ho List.not_mem_nil
  tardy_outcome _ hid := absurd hid List.not_mem_nil

/-! ## Who comes, and who goes -/

theorem Informed.congr (h : w.Informed t) (hid : t.id = t'.id) (hr : t.reply = t'.reply)
    (htask : w'.task = w.task) (htardy : w'.tardy = w.tardy) : w'.Informed t' := by
  have htold : w'.HasTold ↔ w.HasTold := by rw [HasTold, HasTold, htask]
  refine ⟨fun ht hnot => ?_, fun hmem => ?_, fun err herr => h.reason err (hr.trans herr)⟩
  · rw [← hr]
    exact h.replied (htold.mp ht) (by rwa [hid, ← htardy])
  · rw [← hr]
    exact h.unreplied (by rwa [hid, ← htardy])

/-- Before the end is told, only replies count. -/
theorem Informed.of_not_hasTold (hnot : ¬ w.HasTold) (htardy : w.tardy = [])
    (hreason : ∀ err, t.reply = some (.error err) → err = .streamDisconnected disconnectedReason) :
    w.Informed t where
  replied htold := absurd htold hnot
  unreplied hmem := absurd (htardy ▸ hmem) List.not_mem_nil
  reason := hreason

namespace Severed

/-- An event that leaves task and queue alone, and gives no ticket a reply. -/
theorem of_tickets (h : Severed w) (htask : w'.task = w.task) (htardy : w'.tardy = w.tardy)
    (hopen : w'.channel.isOpen = w.channel.isOpen)
    (hticket : ∀ t' ∈ w'.waitlist.tickets, ∃ t ∈ w.waitlist.tickets, t.id = t'.id
      ∧ t.reply = t'.reply)
    (hnext : w.waitlist.nextId ≤ w'.waitlist.nextId)
    (houtcomes : w'.waitlist.outcomes = w.waitlist.outcomes) : Severed w' where
  isOpen_iff := by
    rw [hopen, htask]
    exact h.isOpen_iff
  tardy_eq hnot := by
    rw [htardy]
    refine h.tardy_eq ?_
    rwa [HasTold, htask] at hnot
  informed t' ht' := by
    obtain ⟨t, ht, hid, hr⟩ := hticket t' ht'
    exact (h.informed t ht).congr hid hr htask htardy
  outcome_lt o ho := Nat.lt_of_lt_of_le (h.outcome_lt o (houtcomes ▸ ho)) hnext
  tardy_outcome id hid reply ho := h.tardy_outcome id (htardy ▸ hid) reply (houtcomes ▸ ho)

/-- Registering a request: who comes after the end was told is tardy. -/
theorem register (h : Severed w) (hs : Sound w) (r : ControlRequest) (timeout : Duration) :
    Severed (w.registered r timeout) := by
  by_cases hp : w.waitlist.isPending r.correlationKey = true
  · rw [registered_of_isPending hp]
    exact h.of_tickets rfl rfl rfl (fun t ht => ⟨t, ht, rfl, rfl⟩) (Nat.le_succ _) rfl
  · rw [registered_of_not_isPending hp, Waitlist.register_of_not_isPending hp]
    have htardy : ∀ id, id ∈ (if w.HasTold then w.tardy ++ [w.waitlist.nextId] else w.tardy)
        ↔ id ∈ w.tardy ∨ w.HasTold ∧ id = w.waitlist.nextId := by
      intro id
      split <;> simp [*]
    refine ⟨h.isOpen_iff, fun hnot => ?_, fun t ht => ⟨fun htold hmem => ?_, fun hmem => ?_,
      fun err herr => ?_⟩, fun o ho => Nat.lt_succ_of_lt (h.outcome_lt o ho), fun id hid => ?_⟩
    · exact (if_neg hnot).trans (h.tardy_eq hnot)
    · have hmem' := fun hor => hmem ((htardy t.id).mpr hor)
      rcases List.mem_cons.mp ht with rfl | ht
      · exact absurd (.inr ⟨htold, rfl⟩) hmem'
      · exact (h.informed t ht).replied htold fun hid => hmem' (.inl hid)
    · rcases List.mem_cons.mp ht with rfl | ht
      · rfl
      · rcases (htardy t.id).mp hmem with hid | ⟨-, hid⟩
        · exact (h.informed t ht).unreplied hid
        · exact absurd hid (Nat.ne_of_lt (hs.matched.id_lt t ht))
    · rcases List.mem_cons.mp ht with rfl | ht
      · contradiction
      · exact (h.informed t ht).reason err herr
    · intro reply ho
      rcases (htardy id).mp hid with hid | ⟨-, rfl⟩
      · exact h.tardy_outcome id hid reply ho
      · exact absurd (h.outcome_lt _ ho) (Nat.lt_irrefl _)

/-- Queuing a request, whether the queue takes it or not. -/
theorem enqueue (h : Severed w) (ht : w.waitlist.ticket? t.id = some t) :
    Severed (w.enqueued r t) := by
  by_cases hopen : w.channel.isOpen = true
  · rw [enqueued_of_open hopen]
    refine h.of_tickets rfl rfl rfl (fun t' ht' => ?_) (Nat.le_refl _) rfl
    obtain ⟨t₀, ht₀, hid, -, hr⟩ := Waitlist.exists_of_mem_attend ht'
    exact ⟨t₀, ht₀, hid, hr⟩
  · rw [enqueued_of_closed hopen ht]
    exact h.of_tickets rfl rfl rfl
      (fun t' ht' => ⟨t', (Waitlist.mem_tickets_release.mp ht').1, rfl, rfl⟩) (Nat.le_refl _) rfl

/-- The end of a wait: who came too late runs out of time. -/
theorem endWait (h : Severed w) (hs : Sound w) (ht : t ∈ w.waitlist.tickets) {reply : Reply}
    (hreply : t.outcome? w.waitlist.clock = some reply) :
    Severed (w.leaving t { w.waitlist.release t with
      outcomes := w.waitlist.outcomes ++ [(t.id, reply)] }) := by
  refine ⟨h.isOpen_iff, h.tardy_eq, fun t' ht' => ?_, fun o ho => ?_, fun id hid reply' ho => ?_⟩
  · have hinf := h.informed t' (Waitlist.mem_tickets_release.mp ht').1
    exact ⟨hinf.replied, hinf.unreplied, hinf.reason⟩
  · rcases List.mem_append.mp ho with ho | ho
    · exact h.outcome_lt o ho
    · obtain rfl := List.mem_singleton.mp ho
      exact hs.matched.id_lt t ht
  · rcases List.mem_append.mp ho with ho | ho
    · exact h.tardy_outcome id hid reply' ho
    · obtain ⟨rfl, rfl⟩ := Prod.mk.inj (List.mem_singleton.mp ho)
      exact ⟨t.key, t.timeout, Ticket.eq_expired hreply ((h.informed t ht).unreplied hid)⟩

/-! ## Until the end is told -/

theorem not_hasTold (htask : w.task = .running ∨ w.task = .ended) : ¬ w.HasTold := by
  rcases htask with htask | htask <;> simp [HasTold, htask]

/-- The loop goes on, or ends. -/
theorem of_running (h : Severed w) (htask : w.task = .running)
    (htask' : w'.task = .running ∨ w'.task = .ended) (hopen : w'.channel.isOpen = w.channel.isOpen)
    (htardy : w'.tardy = w.tardy)
    (hreason : ∀ t ∈ w'.waitlist.tickets, ∀ err, t.reply = some (.error err) →
      err = .streamDisconnected disconnectedReason)
    (hnext : w'.waitlist.nextId = w.waitlist.nextId)
    (houtcomes : w'.waitlist.outcomes = w.waitlist.outcomes) : Severed w' := by
  have hnil : w'.tardy = [] := htardy.trans (h.tardy_eq (not_hasTold (.inl htask)))
  have hdone : w'.task ≠ .done := fun hd => not_hasTold htask' (.inr hd)
  have hopen' : w.channel.isOpen = true := h.isOpen_iff.mpr (by rw [htask]; exact nofun)
  refine ⟨⟨fun _ => hdone, fun _ => hopen.trans hopen'⟩, fun _ => hnil, fun t ht =>
    .of_not_hasTold (not_hasTold htask') hnil (hreason t ht), fun o ho => ?_, fun id hid => ?_⟩
  · rw [hnext]
    exact h.outcome_lt o (houtcomes ▸ ho)
  · exact absurd (hnil ▸ hid) List.not_mem_nil

/-- A response is no error. -/
theorem responded (h : Severed w) (hs : Sound w) (htask : w.task = .running) (asker : Option Nat)
    (key : String) (v : Json.Value) : Severed (w.responded asker key v) := by
  refine h.of_running htask (.inl htask) rfl rfl (fun t ht err herr => ?_)
    (Waitlist.nextId_deliver ..) (Waitlist.outcomes_deliver ..)
  rcases hs.matched.mem_tickets_deliver.mp ht with ⟨ht, -⟩ | ⟨t₀, -, -, -, rfl⟩
  · exact (h.informed t ht).reason err herr
  · cases herr

/-- **When the end is told,** everybody who waits gets a reply. -/
theorem tell (h : Severed w) (hs : Sound w) (htask : w.task = .ended) :
    Severed { w.withWaitlist (w.waitlist.drain disconnectedReason) with task := .told } := by
  have hnil : w.tardy = [] := h.tardy_eq (not_hasTold (.inr htask))
  have hopen : w.channel.isOpen = true := h.isOpen_iff.mpr (by rw [htask]; exact nofun)
  rw [Waitlist.drain_eq_answer]
  refine ⟨⟨fun _ => nofun, fun _ => hopen⟩, fun hnot => absurd (.inl rfl) hnot, fun t' ht' => ?_,
    h.outcome_lt, h.tardy_outcome⟩
  obtain ⟨t, ht, rfl⟩ := hs.matched.mem_tickets_answer.mp ht'
  by_cases hr : t.reply = none
  · rw [if_pos (by simp [hr])]
    refine ⟨fun _ _ => nofun, fun hmem => absurd (hnil ▸ hmem) List.not_mem_nil, fun err herr => ?_⟩
    exact (Except.error.inj (Option.some.inj herr)).symm
  · rw [if_neg (by simp [hr])]
    exact ⟨fun _ _ => hr, (h.informed t ht).unreplied, (h.informed t ht).reason⟩

/-- When the queue is closed, nobody is told anything more. -/
theorem finish (h : Severed w) (htask : w.task = .told) :
    Severed { w with channel := w.channel.shut, task := .done, queue := [] } := by
  refine ⟨⟨nofun, fun hdone => absurd rfl hdone⟩, fun hnot => absurd (.inr rfl) hnot, fun t ht => ?_,
    h.outcome_lt, h.tardy_outcome⟩
  have hinf := h.informed t ht
  exact ⟨fun _ => hinf.replied (.inl htask), hinf.unreplied, hinf.reason⟩

end Severed

/-- **Each event keeps who has been told.** -/
theorem step_severed (hs : Sound w) (h : Severed w) : ∀ e : Event, w.step e = some w' → Severed w'
  | .register r timeout, he => by
      obtain rfl := Option.some.inj he
      exact h.register hs r timeout
  | .enqueue id, he => by
      obtain ⟨r, t, -, ht, -, rfl⟩ := enqueue_of_step he
      obtain ⟨-, rfl⟩ := Waitlist.ticket?_eq_some ht
      exact h.enqueue ht
  | .drop id, he => by
      obtain ⟨t, ht, rfl⟩ := drop_of_step he
      exact h.of_tickets rfl rfl rfl
        (fun t' ht' => ⟨t', (Waitlist.mem_tickets_release.mp ht').1, rfl, rfl⟩) (Nat.le_refl _) rfl
  | .endWait id, he => by
      obtain ⟨t, reply, ht, hreply, rfl⟩ := endWait_of_step he
      obtain ⟨hmem, rfl⟩ := Waitlist.ticket?_eq_some ht
      exact h.endWait hs hmem hreply
  | .elapse span, he => by
      obtain rfl := Option.some.inj he
      exact h.of_tickets rfl rfl rfl (fun t ht => ⟨t, ht, rfl, rfl⟩) (Nat.le_refl _) rfl
  | .transmit arrives, he => by
      obtain ⟨htask, r, outbox, id, queue, -, -, rfl⟩ := transmit_of_step he
      refine h.of_running htask ?_ rfl rfl (fun t ht => (h.informed t ht).reason) rfl rfl
      cases arrives with
      | true => exact .inl htask
      | false => exact .inr rfl
  | .answer id payload, he => by
      obtain ⟨htask, r, v, -, hv, ha, rfl⟩ := answer_of_step he
      rw [answered_eq hv ha]
      have hresponded := h.responded hs htask (some id) r.correlationKey v
      exact hresponded.of_running htask (.inl htask) rfl rfl
        (fun t ht => (hresponded.informed t ht).reason) rfl rfl
  | .receive payload writable, he => by
      obtain ⟨htask, ⟨key, v, -, rfl⟩ | ⟨-, task, htask', rfl⟩⟩ := receive_of_step he
      · exact h.responded hs htask none key v
      · exact h.of_running htask htask' rfl rfl (fun t ht => (h.informed t ht).reason) rfl rfl
  | .close, he => by
      obtain ⟨htask, rfl⟩ := close_of_step he
      exact h.of_running htask (.inr rfl) rfl rfl (fun t ht => (h.informed t ht).reason) rfl rfl
  | .tell, he => by
      obtain ⟨htask, rfl⟩ := tell_of_step he
      exact h.tell hs htask
  | .finish, he => by
      obtain ⟨htask, rfl⟩ := finish_of_step he
      exact h.finish htask

/-- **So does every run.** -/
theorem run_severed {es : List Event} (hrun : opening.run es = some w) : Severed w :=
  Steps.run_induction (P := fun _ w => Severed w) opening_severed
    (fun _ _ e _ hw he h => step_severed (run_sound hw) h e he) hrun

/-! ## Who is left behind -/

/-- Who came in time and has queued its request gets a reply: a response that was handed to it, or
that the stream is disconnected. -/
theorem exists_reply {es : List Event} (hrun : opening.run es = some w) (htold : w.HasTold)
    (ht : t ∈ w.waitlist.tickets) (hsent : t.id ∈ w.sent) (htardy : t.id ∉ w.tardy) :
    ∃ reply, (reply = .error (.streamDisconnected disconnectedReason)
        ∨ ∃ a ∈ w.answers, a.taker = some t.id ∧ reply = .ok a.value)
      ∧ ∀ now, t.outcome? now = some reply := by
  have hinf := (run_severed hrun).informed t ht
  obtain ⟨reply, hr⟩ := Option.ne_none_iff_exists'.mp (hinf.replied htold htardy)
  have hw : t.waiting = true := ((run_sound hrun).waiting_iff t ht).mpr hsent
  refine ⟨reply, ?_, Ticket.outcome?_of_reply hw hr⟩
  cases reply with
  | error err => exact .inl (congrArg Except.error (hinf.reason err hr))
  | ok v =>
    obtain ⟨a, ha, htaker, rfl⟩ := (run_replied hrun).of_ok t ht v hr
    exact .inr ⟨a, ha, htaker, rfl⟩

/-- **Who is left behind when the stream has ended:** the senders that came after those who wait
were told and that have queued their requests before the queue was closed.  They keep their entries,
and only their deadlines end their waits.  Every other sender that has queued its request has got a
reply, and once the queue is closed it takes no request.  So it is whatever the service has sent,
responses that nobody asked for among it. -/
theorem run_disconnected {es : List Event} (hrun : opening.run es = some w) (htold : w.HasTold) :
    (∀ e ∈ w.waitlist.entries, e.id ∉ w.sent ∨ e.id ∈ w.tardy)
    ∧ (∀ t ∈ w.waitlist.tickets, t.id ∈ w.sent → t.id ∉ w.tardy →
      ∃ reply, (reply = .error (.streamDisconnected disconnectedReason)
          ∨ ∃ a ∈ w.answers, a.taker = some t.id ∧ reply = .ok a.value)
        ∧ ∀ now, t.outcome? now = some reply)
    ∧ (∀ t ∈ w.waitlist.tickets, t.id ∈ w.sent → t.id ∈ w.tardy →
      t.entry ∈ w.waitlist.entries
        ∧ ∀ now, t.outcome? now = if t.deadline ≤ now then some t.expired else none)
    ∧ (∀ id ∈ w.tardy, ∀ reply, (id, reply) ∈ w.waitlist.outcomes →
      ∃ key timeout, reply = .error (.correlationTimeout key timeout))
    ∧ (w.task = .done → ∀ r t,
      (w.channel.enqueue r t).1 = .error (.streamDisconnected closedReason)) := by
  have hs := run_sound hrun
  have h := run_severed hrun
  refine ⟨fun e he => ?_, fun t ht hsent htardy => exists_reply hrun htold ht hsent htardy,
    fun t ht hsent htardy => ?_, h.tardy_outcome, fun hdone r t => ?_⟩
  · obtain ⟨t, ht, hr, rfl⟩ := hs.matched.mem_entries.mp he
    by_cases htardy : t.id ∈ w.tardy
    · exact .inr htardy
    · exact absurd hr ((h.informed t ht).replied htold htardy)
  · have hr := (h.informed t ht).unreplied htardy
    have hw : t.waiting = true := (hs.waiting_iff t ht).mpr hsent
    exact ⟨hs.matched.mem_entries.mpr ⟨t, ht, hr, rfl⟩, Ticket.outcome?_of_none hw hr⟩
  · have hclosed : ¬ w.channel.isOpen = true := fun hopen => h.isOpen_iff.mp hopen hdone
    rw [Channel.enqueue, if_neg hclosed]

/-- One sender waits when the service closes the stream; another one registers after the first was
told, and queues its request before the queue is closed. -/
def tardySend (r : ControlRequest) : List Event :=
  [.register r ⟨1⟩, .enqueue 0, .close, .tell, .register r ⟨1⟩, .enqueue 1, .finish]

/-- **The second sender is left behind,** whatever the request is. -/
theorem run_tardySend (r : ControlRequest) : ∃ w, opening.run (tardySend r) = some w
    ∧ w.task = .done ∧ w.waitlist.entries = [⟨r.correlationKey, 1⟩] ∧ w.sent = [0, 1]
    ∧ w.tardy = [1] ∧ w.waitlist.tickets.map Ticket.id = [1, 0] := by
  simp [tardySend, run, Steps.run, step, opening, opened, Waitlist.empty, HasTold, registered,
    Channel.register, Waitlist.register, Waitlist.isPending, Waitlist.newTicket, enqueued,
    Channel.enqueue, Waitlist.attend, Ticket.attended, Waitlist.ticket?, Ticket.entry, failPending,
    Waitlist.drain, Waitlist.answerAll, Ticket.answered, shut]

/-- The first of two senders is told that the stream has ended, the second one waits on. -/
theorem run_disconnected_cancelling : ∃ w, opening.run (tardySend (cancelling "x")) = some w
    ∧ w.HasTold ∧ ∀ t ∈ w.waitlist.tickets,
      t.id = 0 ∧ (∃ reply, (reply = .error (.streamDisconnected disconnectedReason)
          ∨ ∃ a ∈ w.answers, a.taker = some t.id ∧ reply = .ok a.value)
        ∧ ∀ now, t.outcome? now = some reply)
      ∨ t.id = 1 ∧ t.entry ∈ w.waitlist.entries
        ∧ ∀ now, t.outcome? now = if t.deadline ≤ now then some t.expired else none := by
  obtain ⟨w, hrun, hdone, -, hsent, htardy, hids⟩ := run_tardySend (cancelling "x")
  obtain ⟨-, htimely, hlate, -, -⟩ := run_disconnected hrun (.inr hdone)
  refine ⟨w, hrun, .inr hdone, fun t ht => ?_⟩
  have hmem : t.id ∈ [1, 0] := hids ▸ List.mem_map_of_mem ht
  rcases List.mem_cons.mp hmem with hid | hmem
  · exact .inr ⟨hid, hlate t ht (by simp [hid, hsent]) (by simp [hid, htardy])⟩
  · have hid : t.id = 0 := List.mem_singleton.mp hmem
    exact .inl ⟨hid, htimely t ht (by simp [hid, hsent]) (by simp [hid, htardy])⟩

/-- **Not everybody whose request was queued is told.** -/
theorem not_run_nobody_left : ¬ ∀ (es : List Event) (w : Traffic), opening.run es = some w →
    w.task = .done → ∀ e ∈ w.waitlist.entries, e.id ∉ w.sent := by
  intro h
  obtain ⟨w, hrun, hdone, hentries, hsent, -, -⟩ := run_tardySend (cancelling "x")
  refine h _ w hrun hdone ⟨(cancelling "x").correlationKey, 1⟩ ?_ ?_
  · rw [hentries]
    exact List.mem_singleton_self _
  · simp [hsent]

end Channel.Traffic

end OrderDesk
