import OrderDesk.Proofs.Channel.Traffic
import OrderDesk.Proofs.Waitlist.Tickets

/-!
# Proofs/Channel/Ledger — the numbers beside the stream

    outbox  ──number by number──▸  requests  ◂──key── tickets

What `Traffic` notes beside the channel is right: each ticket belongs to a registered request with
its key, the numbers in the queue are those of the requests in the outbox, and what the service has
received is what was registered under that number.  `Sound` says so, and every event keeps it.  Each
reply is a response of the service that was handed to its ticket (`Replied`).
-/

namespace OrderDesk

namespace Channel.Traffic

variable {w w' : Traffic} {t t' : Ticket} {r : ControlRequest} {id : Nat} {key : String} {e : Event}

/-! ## Effects -/

theorem registered_of_isPending (h : w.waitlist.isPending r.correlationKey = true)
    (timeout : Duration) : w.registered r timeout
      = w.withWaitlist { w.waitlist with nextId := w.waitlist.nextId + 1 } := by
  rw [registered, register, Waitlist.register_of_isPending h]
  rfl

theorem registered_of_not_isPending (h : ¬ w.waitlist.isPending r.correlationKey = true)
    (timeout : Duration) : w.registered r timeout
      = { w.withWaitlist (w.waitlist.register r.correlationKey timeout).2 with
          requests := Function.update w.requests w.waitlist.nextId (some r)
          tardy := if w.HasTold then w.tardy ++ [w.waitlist.nextId] else w.tardy } := by
  rw [registered, register, Waitlist.register_of_not_isPending h]
  rfl

section Registered

variable (w : Traffic) (r : ControlRequest) (timeout : Duration)

@[simp] theorem task_registered : (w.registered r timeout).task = w.task := by
  rw [registered]
  split <;> rfl

@[simp] theorem queue_registered : (w.registered r timeout).queue = w.queue := by
  rw [registered]
  split <;> rfl

@[simp] theorem inbox_registered : (w.registered r timeout).inbox = w.inbox := by
  rw [registered]
  split <;> rfl

@[simp] theorem answers_registered : (w.registered r timeout).answers = w.answers := by
  rw [registered]
  split <;> rfl

@[simp] theorem sent_registered : (w.registered r timeout).sent = w.sent := by
  rw [registered]
  split <;> rfl

@[simp] theorem givenUp_registered : (w.registered r timeout).givenUp = w.givenUp := by
  rw [registered]
  split <;> rfl

@[simp] theorem waitlist_registered : (w.registered r timeout).waitlist
    = (w.waitlist.register r.correlationKey timeout).2 := by
  rw [registered, register]
  split <;> next heq =>
    obtain ⟨-, rfl⟩ := Prod.mk.inj heq
    rfl

end Registered

theorem requests_registered (h : ¬ w.waitlist.isPending r.correlationKey = true)
    (timeout : Duration) : (w.registered r timeout).requests
      = Function.update w.requests w.waitlist.nextId (some r) := by
  rw [registered_of_not_isPending h]

theorem enqueued_of_open (h : w.channel.isOpen = true) : w.enqueued r t
    = { w with
        channel :=
          { w.channel with
            outbox := w.channel.outbox ++ [r]
            waitlist := w.waitlist.attend t.id }
        queue := w.queue ++ [t.id]
        sent := w.sent ++ [t.id] } := by
  rw [enqueued, enqueue, if_pos h]

theorem enqueued_of_closed (h : ¬ w.channel.isOpen = true)
    (ht : w.waitlist.ticket? t.id = some t) :
    w.enqueued r t = w.withWaitlist (w.waitlist.release t) := by
  rw [enqueued, enqueue, if_neg h, Waitlist.drop, ht]
  rfl

/-- An answer goes to the list of those who wait under the key of its request. -/
theorem answered_eq {payload : List UInt8} {v : Json.Value}
    (hv : Frame.classify payload = some (.data v)) (ha : r.isAnswer v = true) :
    w.answered id r payload v
      = { w.responded (some id) r.correlationKey v with inbox := w.inbox.filter (·.1 ≠ id) } := by
  rw [answered, take_of_response (response?_of_isAnswer hv ha)]
  rfl

/-! ## What every run keeps -/

/-- **The ledger is right:** entries and tickets match, each ticket belongs to a registered request
with its key, numbers are used once, who has queued a request waits, and queue and inbox are noted
under the right numbers. -/
structure Sound (w : Traffic) : Prop where
  matched : w.waitlist.Matched
  request_of_ticket : ∀ t ∈ w.waitlist.tickets, ∃ r, w.requests t.id = some r
    ∧ t.key = r.correlationKey
  request_lt : ∀ id r, w.requests id = some r → id < w.waitlist.nextId
  request_of_sent : ∀ id ∈ w.sent, ∃ r, w.requests id = some r
  waiting_iff : ∀ t ∈ w.waitlist.tickets, t.waiting = true ↔ t.id ∈ w.sent
  queue_eq : w.channel.outbox.map some = w.queue.map w.requests
  inbox_eq : ∀ q ∈ w.inbox, w.requests q.1 = some q.2
  request_of_answer : ∀ a ∈ w.answers, ∀ id, a.asker = some id →
    ∃ r, w.requests id = some r ∧ r.isAnswer a.value = true

theorem opening_sound : Sound opening :=
  ⟨Waitlist.empty_matched, fun _ ht => absurd ht List.not_mem_nil, fun _ _ hr => absurd hr nofun,
    fun _ hid => absurd hid List.not_mem_nil, fun _ ht => absurd ht List.not_mem_nil, rfl,
    fun _ hq => absurd hq List.not_mem_nil, fun _ ha => absurd ha List.not_mem_nil⟩

/-- Requests stay registered. -/
theorem requests_registered_mono (h : Sound w) (timeout : Duration) {r' : ControlRequest}
    (hr : w.requests id = some r') : (w.registered r timeout).requests id = some r' := by
  by_cases hp : w.waitlist.isPending r.correlationKey = true
  · rw [registered_of_isPending hp]
    exact hr
  · rw [registered_of_not_isPending hp]
    have hne : id ≠ w.waitlist.nextId := Nat.ne_of_lt (h.request_lt id r' hr)
    exact (Function.update_of_ne hne ..).trans hr

/-- What is under way has been registered. -/
theorem Sound.exists_request (h : Sound w) (hid : id ∈ w.queue ++ w.inbox.map Prod.fst) :
    ∃ r, w.requests id = some r := by
  rcases List.mem_append.mp hid with hid | hid
  · have hmem : w.requests id ∈ w.channel.outbox.map some := h.queue_eq ▸ List.mem_map_of_mem hid
    obtain ⟨r, -, hr⟩ := List.mem_map.mp hmem
    exact ⟨r, hr.symm⟩
  · obtain ⟨q, hq, rfl⟩ := List.mem_map.mp hid
    exact ⟨q.2, h.inbox_eq q hq⟩

/-- A number that is still to be given has no request in the queue. -/
theorem Sound.nextId_not_sent (h : Sound w) : w.waitlist.nextId ∉ w.sent := by
  intro hid
  obtain ⟨r, hr⟩ := h.request_of_sent _ hid
  exact Nat.lt_irrefl _ (h.request_lt _ r hr)

namespace Sound

/-- An event that queues and registers nothing keeps the ledger right. -/
theorem of_tickets (h : Sound w) (hm : w'.waitlist.Matched) (hreq : w'.requests = w.requests)
    (hnext : w'.waitlist.nextId = w.waitlist.nextId) (hout : w'.channel.outbox = w.channel.outbox)
    (hqueue : w'.queue = w.queue) (hsent : w'.sent = w.sent) (hinbox : w'.inbox = w.inbox)
    (hanswers : w'.answers = w.answers)
    (hticket : ∀ t' ∈ w'.waitlist.tickets, ∃ t ∈ w.waitlist.tickets, t.id = t'.id ∧ t.key = t'.key
      ∧ t.waiting = t'.waiting) : Sound w' where
  matched := hm
  request_of_ticket t' ht' := by
    obtain ⟨t, ht, hid, hkey, -⟩ := hticket t' ht'
    rw [← hid, ← hkey, hreq]
    exact h.request_of_ticket t ht
  request_lt id r hr := by
    rw [hnext]
    exact h.request_lt id r (hreq ▸ hr)
  request_of_sent := by
    rw [hsent, hreq]
    exact h.request_of_sent
  waiting_iff t' ht' := by
    obtain ⟨t, ht, hid, -, hwaiting⟩ := hticket t' ht'
    rw [← hid, ← hwaiting, hsent]
    exact h.waiting_iff t ht
  queue_eq := by
    rw [hout, hqueue, hreq]
    exact h.queue_eq
  inbox_eq := by
    rw [hinbox, hreq]
    exact h.inbox_eq
  request_of_answer := by
    rw [hanswers, hreq]
    exact h.request_of_answer

/-- Letting go of a ticket keeps the ledger right. -/
theorem release (h : Sound w) (ht : t ∈ w.waitlist.tickets) :
    Sound (w.withWaitlist (w.waitlist.release t)) :=
  h.of_tickets (h.matched.release ht) rfl rfl rfl rfl rfl rfl rfl fun t' ht' =>
    ⟨t', (Waitlist.mem_tickets_release.mp ht').1, rfl, rfl, rfl⟩

theorem answer (h : Sound w) (p : Entry → Bool) (reply : Reply) :
    Sound (w.withWaitlist (w.waitlist.answer p reply)) :=
  h.of_tickets (h.matched.answer p reply) rfl rfl rfl rfl rfl rfl rfl fun t' ht' => by
    obtain ⟨t, ht, rfl⟩ := h.matched.mem_tickets_answer.mp ht'
    refine ⟨t, ht, ?_⟩
    split <;> exact ⟨rfl, rfl, rfl⟩

theorem register (h : Sound w) (r : ControlRequest) (timeout : Duration) :
    Sound (w.registered r timeout) := by
  have hm := h.matched.register r.correlationKey timeout
  by_cases hp : w.waitlist.isPending r.correlationKey = true
  · rw [registered_of_isPending hp]
    rw [Waitlist.register_of_isPending hp] at hm
    exact ⟨hm, h.request_of_ticket, fun id r' hr => Nat.lt_succ_of_lt (h.request_lt id r' hr),
      h.request_of_sent, h.waiting_iff, h.queue_eq, h.inbox_eq, h.request_of_answer⟩
  · have hkeep : ∀ id r', w.requests id = some r' →
        Function.update w.requests w.waitlist.nextId (some r) id = some r' := by
      intro id r' hr
      rw [Function.update_of_ne (Nat.ne_of_lt (h.request_lt id r' hr))]
      exact hr
    rw [registered_of_not_isPending hp]
    constructor
    case matched => exact hm
    case request_of_ticket =>
      intro t ht
      rw [withWaitlist, Waitlist.register_of_not_isPending hp] at ht
      rcases List.mem_cons.mp ht with rfl | ht
      · exact ⟨r, Function.update_self .., rfl⟩
      · obtain ⟨r', hr, hkey⟩ := h.request_of_ticket t ht
        exact ⟨r', hkeep _ _ hr, hkey⟩
    case request_lt =>
      intro id r' hr
      rw [withWaitlist, Waitlist.nextId_register]
      by_cases hid : id = w.waitlist.nextId
      · exact hid ▸ Nat.lt_succ_self _
      · exact Nat.lt_succ_of_lt (h.request_lt id r' ((Function.update_of_ne hid ..).symm.trans hr))
    case request_of_sent =>
      intro id hid
      obtain ⟨r', hr⟩ := h.request_of_sent id hid
      exact ⟨r', hkeep _ _ hr⟩
    case waiting_iff =>
      intro t ht
      rw [withWaitlist, Waitlist.register_of_not_isPending hp] at ht
      rcases List.mem_cons.mp ht with rfl | ht
      · exact ⟨nofun, fun hid => absurd hid h.nextId_not_sent⟩
      · exact h.waiting_iff t ht
    case queue_eq =>
      refine h.queue_eq.trans (List.map_congr_left fun id hid => ?_)
      obtain ⟨r', hr⟩ := h.exists_request (List.mem_append_left _ hid)
      exact hr.trans (hkeep id r' hr).symm
    case inbox_eq => exact fun q hq => hkeep _ _ (h.inbox_eq q hq)
    case request_of_answer =>
      intro a ha id hid
      obtain ⟨r', hr, hanswer⟩ := h.request_of_answer a ha id hid
      exact ⟨r', hkeep _ _ hr, hanswer⟩

/-- Queuing a request keeps the ledger right, whether the queue takes it or not. -/
theorem enqueue (h : Sound w) (hr : w.requests t.id = some r)
    (ht : w.waitlist.ticket? t.id = some t) : Sound (w.enqueued r t) := by
  by_cases hopen : w.channel.isOpen = true
  · rw [enqueued_of_open hopen]
    refine ⟨Waitlist.step_matched h.matched (.attend t.id), fun t' ht' => ?_, h.request_lt,
      fun id hid => ?_, fun t' ht' => ?_, ?_, h.inbox_eq, h.request_of_answer⟩
    · obtain ⟨t₀, ht₀, hid, hkey, -⟩ := Waitlist.exists_of_mem_attend ht'
      rw [← hid, ← hkey]
      exact h.request_of_ticket t₀ ht₀
    · rcases List.mem_append.mp hid with hid | hid
      · exact h.request_of_sent id hid
      · exact ⟨r, List.mem_singleton.mp hid ▸ hr⟩
    · obtain ⟨t₀, ht₀, hid, hwaiting⟩ := Waitlist.waiting_of_mem_attend ht'
      rw [← hid, hwaiting, h.waiting_iff t₀ ht₀, List.mem_append, List.mem_singleton]
    · rw [List.map_append, List.map_append, h.queue_eq, List.map_singleton, List.map_singleton, hr]
  · rw [enqueued_of_closed hopen ht]
    exact h.release (Waitlist.ticket?_eq_some ht).1

/-- A response keeps the ledger right, whether somebody waits for it or not. -/
theorem responded (h : Sound w) {asker : Option Nat} {v : Json.Value} (key : String)
    (hasker : ∀ id, asker = some id → ∃ r, w.requests id = some r ∧ r.isAnswer v = true) :
    Sound (w.responded asker key v) := by
  have hdeliver : Sound (w.withWaitlist (w.waitlist.deliver key v).2) := by
    by_cases hp : w.waitlist.isPending key = true
    · rw [Waitlist.deliver_of_isPending hp]
      exact h.answer (·.key = key) (.ok v)
    · rw [Waitlist.deliver_of_not_isPending hp]
      exact h
  refine ⟨hdeliver.matched, hdeliver.request_of_ticket, hdeliver.request_lt,
    hdeliver.request_of_sent, hdeliver.waiting_iff, hdeliver.queue_eq, hdeliver.inbox_eq,
    fun a hmem => ?_⟩
  rcases List.mem_append.mp hmem with hmem | hmem
  · exact h.request_of_answer a hmem
  · obtain rfl := List.mem_singleton.mp hmem
    exact hasker

/-- So does an answer, which is one to a request that was received. -/
theorem answered (h : Sound w) {payload : List UInt8} {v : Json.Value}
    (hr : w.inbox.lookup id = some r) (hv : Frame.classify payload = some (.data v))
    (ha : r.isAnswer v = true) : Sound (w.answered id r payload v) := by
  have hresponded : Sound (w.responded (some id) r.correlationKey v) := by
    refine h.responded _ fun id' hid => ?_
    obtain rfl := Option.some.inj hid
    obtain ⟨_, _, hinbox, -⟩ := List.lookup_eq_some_iff.mp hr
    exact ⟨r, h.inbox_eq (id, r) (by simp [hinbox]), ha⟩
  rw [answered_eq hv ha]
  exact ⟨hresponded.matched, hresponded.request_of_ticket, hresponded.request_lt,
    hresponded.request_of_sent, hresponded.waiting_iff, hresponded.queue_eq,
    fun q hq => h.inbox_eq q (List.mem_of_mem_filter hq), hresponded.request_of_answer⟩

/-- Sending a request keeps the ledger right. -/
theorem transmit (h : Sound w) {outbox : List ControlRequest} {queue : List Nat}
    (hout : w.channel.outbox = r :: outbox) (hqueue : w.queue = id :: queue) (arrives : Bool) :
    Sound (w.transmitted r id arrives) := by
  have heq := h.queue_eq
  rw [hout, hqueue, List.map_cons, List.map_cons, List.cons.injEq] at heq
  refine ⟨h.matched, h.request_of_ticket, h.request_lt, h.request_of_sent, h.waiting_iff, ?_,
    fun q hq => ?_, h.request_of_answer⟩
  · rw [transmitted, next, hout, hqueue]
    exact heq.2
  · rw [transmitted] at hq
    split at hq
    · rcases List.mem_append.mp hq with hq | hq
      · exact h.inbox_eq q hq
      · obtain rfl := List.mem_singleton.mp hq
        exact heq.1.symm
    · exact h.inbox_eq q hq

end Sound

/-- **Each event keeps the ledger right.** -/
theorem step_sound (h : Sound w) : ∀ e : Event, w.step e = some w' → Sound w'
  | .register r timeout, he => by
      obtain rfl := Option.some.inj he
      exact h.register r timeout
  | .enqueue id, he => by
      obtain ⟨r, t, hr, ht, -, rfl⟩ := enqueue_of_step he
      obtain ⟨-, rfl⟩ := Waitlist.ticket?_eq_some ht
      exact h.enqueue hr ht
  | .drop id, he => by
      obtain ⟨t, ht, rfl⟩ := drop_of_step he
      have hr := h.release (Waitlist.ticket?_eq_some ht).1
      exact ⟨hr.matched, hr.request_of_ticket, hr.request_lt, hr.request_of_sent, hr.waiting_iff,
        hr.queue_eq, hr.inbox_eq, hr.request_of_answer⟩
  | .endWait id, he => by
      obtain ⟨t, reply, ht, -, rfl⟩ := endWait_of_step he
      have hr := h.release (Waitlist.ticket?_eq_some ht).1
      have hm := hr.matched
      exact ⟨⟨hm.entries_eq, hm.nodup_keys, hm.nodup_ids, hm.id_lt⟩, hr.request_of_ticket,
        hr.request_lt, hr.request_of_sent, hr.waiting_iff, hr.queue_eq, hr.inbox_eq,
        hr.request_of_answer⟩
  | .elapse span, he => by
      obtain rfl := Option.some.inj he
      exact ⟨Waitlist.step_matched h.matched (.elapse span), h.request_of_ticket, h.request_lt,
        h.request_of_sent, h.waiting_iff, h.queue_eq, h.inbox_eq, h.request_of_answer⟩
  | .transmit arrives, he => by
      obtain ⟨-, r, outbox, id, queue, hout, hqueue, rfl⟩ := transmit_of_step he
      exact h.transmit hout hqueue arrives
  | .answer id payload, he => by
      obtain ⟨-, r, v, hr, hv, ha, rfl⟩ := answer_of_step he
      exact h.answered hr hv ha
  | .receive payload writable, he => by
      obtain ⟨-, ⟨key, v, -, rfl⟩ | ⟨-, task, -, rfl⟩⟩ := receive_of_step he
      · exact h.responded key nofun
      · exact ⟨h.matched, h.request_of_ticket, h.request_lt, h.request_of_sent, h.waiting_iff,
          h.queue_eq, h.inbox_eq, h.request_of_answer⟩
  | .close, he => by
      obtain ⟨-, rfl⟩ := close_of_step he
      exact ⟨h.matched, h.request_of_ticket, h.request_lt, h.request_of_sent, h.waiting_iff,
        h.queue_eq, h.inbox_eq, h.request_of_answer⟩
  | .tell, he => by
      obtain ⟨-, rfl⟩ := tell_of_step he
      rw [Waitlist.drain_eq_answer]
      have hs := h.answer (fun _ => true) (.error (.streamDisconnected disconnectedReason))
      exact ⟨hs.matched, hs.request_of_ticket, hs.request_lt, hs.request_of_sent, hs.waiting_iff,
        hs.queue_eq, hs.inbox_eq, hs.request_of_answer⟩
  | .finish, he => by
      obtain ⟨-, rfl⟩ := finish_of_step he
      exact ⟨h.matched, h.request_of_ticket, h.request_lt, h.request_of_sent, h.waiting_iff, rfl,
        h.inbox_eq, h.request_of_answer⟩

/-- **So does every run.** -/
theorem run_sound {es : List Event} (hrun : opening.run es = some w) : Sound w :=
  Steps.run_induction (P := fun _ w => Sound w) opening_sound
    (fun _ _ e _ _ he h => step_sound h e he) hrun

/-! ## Replies -/

/-- An entry under a key is that of the ticket that waits under it. -/
theorem taker?_eq_some (hs : Sound w) : w.taker? key = some id
    ↔ ∃ t ∈ w.waitlist.tickets, t.reply = none ∧ t.key = key ∧ t.id = id := by
  rw [taker?, Option.map_eq_some_iff]
  constructor
  · rintro ⟨e, he, rfl⟩
    have hkey : e.key = key := by simpa using List.find?_some he
    obtain ⟨t, ht, hr, rfl⟩ := hs.matched.mem_entries.mp (List.mem_of_find?_eq_some he)
    exact ⟨t, ht, hr, hkey, rfl⟩
  · rintro ⟨t, ht, hr, rfl, rfl⟩
    have he : t.entry ∈ w.waitlist.entries := hs.matched.mem_entries.mpr ⟨t, ht, hr, rfl⟩
    cases hf : w.waitlist.entries.find? (·.key = t.key) with
    | none => exact absurd (decide_eq_true rfl) (List.find?_eq_none.mp hf t.entry he)
    | some e =>
      have hkey : e.key = t.entry.key := by simpa [Ticket.entry] using List.find?_some hf
      refine ⟨e, rfl, ?_⟩
      rw [hs.matched.entry_eq_of_key (List.mem_of_find?_eq_some hf) he hkey]
      rfl

/-- **Each reply is a response:** what a ticket or an outcome holds, the service has sent, and it was
handed to that ticket. -/
structure Replied (w : Traffic) : Prop where
  of_ok : ∀ t ∈ w.waitlist.tickets, ∀ v, t.reply = some (.ok v) →
    ∃ a ∈ w.answers, a.taker = some t.id ∧ a.value = v
  of_outcome : ∀ id v, (id, .ok v) ∈ w.waitlist.outcomes →
    ∃ a ∈ w.answers, a.taker = some id ∧ a.value = v

theorem opening_replied : Replied opening :=
  ⟨fun _ ht => absurd ht List.not_mem_nil, fun _ _ ho => absurd ho List.not_mem_nil⟩

namespace Replied

/-- An event that hands out no response gives no reply either. -/
theorem of_tickets (h : Replied w)
    (hticket : ∀ t' ∈ w'.waitlist.tickets, ∀ v, t'.reply = some (.ok v) →
      ∃ t ∈ w.waitlist.tickets, t.id = t'.id ∧ t.reply = some (.ok v))
    (houtcome : ∀ id v, (id, .ok v) ∈ w'.waitlist.outcomes →
      (id, .ok v) ∈ w.waitlist.outcomes ∨ ∃ t ∈ w.waitlist.tickets, t.id = id ∧ t.reply = some (.ok v))
    (hanswers : w'.answers = w.answers) : Replied w' where
  of_ok t' ht' v hr := by
    obtain ⟨t, ht, hid, hr⟩ := hticket t' ht' v hr
    rw [hanswers, ← hid]
    exact h.of_ok t ht v hr
  of_outcome id v ho := by
    rw [hanswers]
    rcases houtcome id v ho with ho | ⟨t, ht, rfl, hr⟩
    · exact h.of_outcome id v ho
    · exact h.of_ok t ht v hr

/-- A response is the reply of who waits under its key. -/
theorem responded (h : Replied w) (hs : Sound w) (asker : Option Nat) (key : String)
    (v : Json.Value) : Replied (w.responded asker key v) where
  of_ok t ht v' hr := by
    rcases hs.matched.mem_tickets_deliver.mp ht with ⟨ht, -⟩ | ⟨t₀, ht₀, hr₀, hkey, rfl⟩
    · obtain ⟨a, hmem, htaker⟩ := h.of_ok t ht v' hr
      exact ⟨a, List.mem_append_left _ hmem, htaker⟩
    · obtain rfl := Except.ok.inj (Option.some.inj hr)
      exact ⟨_, List.mem_append_right _ (List.mem_singleton_self _),
        (taker?_eq_some hs).mpr ⟨t₀, ht₀, hr₀, hkey, rfl⟩, rfl⟩
  of_outcome id v' ho := by
    rw [Traffic.responded, withWaitlist, Waitlist.outcomes_deliver] at ho
    obtain ⟨a, hmem, htaker⟩ := h.of_outcome id v' ho
    exact ⟨a, List.mem_append_left _ hmem, htaker⟩

theorem register (h : Replied w) (r : ControlRequest) (timeout : Duration) :
    Replied (w.registered r timeout) := by
  refine h.of_tickets (fun t ht v hr => ?_) (fun id v ho => ?_) (answers_registered ..)
  all_goals rw [waitlist_registered] at *
  · by_cases hp : w.waitlist.isPending r.correlationKey = true
    · rw [Waitlist.register_of_isPending hp] at ht
      exact ⟨t, ht, rfl, hr⟩
    · rw [Waitlist.register_of_not_isPending hp] at ht
      rcases List.mem_cons.mp ht with rfl | ht
      · contradiction
      · exact ⟨t, ht, rfl, hr⟩
  · refine .inl ?_
    rw [Waitlist.register] at ho
    split at ho <;> exact ho

end Replied

/-- **Each event keeps replies responses.** -/
theorem step_replied (hs : Sound w) (h : Replied w) : ∀ e : Event, w.step e = some w' → Replied w'
  | .register r timeout, he => by
      obtain rfl := Option.some.inj he
      exact h.register r timeout
  | .enqueue id, he => by
      obtain ⟨r, t, -, ht, -, rfl⟩ := enqueue_of_step he
      obtain ⟨-, rfl⟩ := Waitlist.ticket?_eq_some ht
      by_cases hopen : w.channel.isOpen = true
      · rw [enqueued_of_open hopen]
        refine h.of_tickets (fun t' ht' v hr => ?_) (fun _ _ ho => .inl ho) rfl
        obtain ⟨t₀, ht₀, hid, -, hr₀⟩ := Waitlist.exists_of_mem_attend ht'
        exact ⟨t₀, ht₀, hid, hr₀.trans hr⟩
      · rw [enqueued_of_closed hopen ht]
        exact h.of_tickets (fun t' ht' _ hr =>
          ⟨t', (Waitlist.mem_tickets_release.mp ht').1, rfl, hr⟩) (fun _ _ ho => .inl ho) rfl
  | .drop id, he => by
      obtain ⟨t, ht, rfl⟩ := drop_of_step he
      exact h.of_tickets (fun t' ht' _ hr =>
        ⟨t', (Waitlist.mem_tickets_release.mp ht').1, rfl, hr⟩) (fun _ _ ho => .inl ho) rfl
  | .endWait id, he => by
      obtain ⟨t, reply, ht, hreply, rfl⟩ := endWait_of_step he
      obtain ⟨hmem, rfl⟩ := Waitlist.ticket?_eq_some ht
      refine h.of_tickets (fun t' ht' _ hr =>
        ⟨t', (Waitlist.mem_tickets_release.mp ht').1, rfl, hr⟩) (fun id v ho => ?_) rfl
      rcases List.mem_append.mp ho with ho | ho
      · exact .inl ho
      · obtain ⟨rfl, rfl⟩ := Prod.mk.inj (List.mem_singleton.mp ho)
        exact .inr ⟨t, hmem, rfl, Ticket.reply_eq_ok hreply⟩
  | .answer id payload, he => by
      obtain ⟨-, r, v, hr, hv, ha, rfl⟩ := answer_of_step he
      rw [answered_eq hv ha]
      have hresponded := h.responded hs (some id) r.correlationKey v
      exact ⟨hresponded.of_ok, hresponded.of_outcome⟩
  | .receive payload writable, he => by
      obtain ⟨-, ⟨key, v, -, rfl⟩ | ⟨-, task, -, rfl⟩⟩ := receive_of_step he
      · exact h.responded hs none key v
      · exact ⟨h.of_ok, h.of_outcome⟩
  | .tell, he => by
      obtain ⟨-, rfl⟩ := tell_of_step he
      rw [Waitlist.drain_eq_answer]
      refine h.of_tickets (fun t' ht' v hr => ?_) (fun _ _ ho => .inl ho) rfl
      obtain ⟨t, ht, rfl⟩ := hs.matched.mem_tickets_answer.mp ht'
      by_cases hnone : t.reply = none
      · simp [hnone, Ticket.answered] at hr
      · rw [if_neg (by simp [hnone])] at hr ⊢
        exact ⟨t, ht, rfl, hr⟩
  | .elapse span, he => by
      obtain rfl := Option.some.inj he
      exact ⟨h.of_ok, h.of_outcome⟩
  | .transmit arrives, he => by
      obtain ⟨-, r, outbox, id, queue, -, -, rfl⟩ := transmit_of_step he
      exact ⟨h.of_ok, h.of_outcome⟩
  | .close, he => by
      obtain ⟨-, rfl⟩ := close_of_step he
      exact ⟨h.of_ok, h.of_outcome⟩
  | .finish, he => by
      obtain ⟨-, rfl⟩ := finish_of_step he
      exact ⟨h.of_ok, h.of_outcome⟩

theorem run_replied {es : List Event} (hrun : opening.run es = some w) : Replied w :=
  Steps.run_induction (P := fun _ w => Replied w) opening_replied
    (fun _ _ e _ hw he h => step_replied (run_sound hw) h e he) hrun

end Channel.Traffic

end OrderDesk
