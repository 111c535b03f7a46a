import OrderDesk.Proofs.Channel.Traffic
import OrderDesk.Proofs.Waitlist.Tickets

/-!
# Proofs/Channel/Dispatch — what a response does to those who wait

    {"KindResponse": … "order_id": id …}  ──key──▸  one entry  ──number──▸  one ticket

A response to a request carries its key, and a key has one entry at most.  Handing the response out
takes that entry off the list and gives the response to the ticket that the entry belongs to
(`handed`); all else stays as it was.  Other requests have other keys, so that none of them is
concerned (`run_dispatch`).
-/

namespace OrderDesk

namespace Waitlist

variable {w : Waitlist} {t t' : Ticket} {v : Json.Value}

/-- A list after a ticket has got a response: its entry is gone, and the response is its reply. -/
def handed (w : Waitlist) (t : Ticket) (v : Json.Value) : Waitlist :=
  { w with
    entries := w.entries.filter (· ≠ t.entry)
    tickets := w.tickets.map fun t' => if t'.id = t.id then t'.answered (.ok v) else t' }

/-- The reply is found under the ticket's number… -/
theorem ticket?_handed (h : w.ticket? t.id = some t) :
    (w.handed t v).ticket? t.id = some (t.answered (.ok v)) := by
  have hids : ((fun t' : Ticket => decide (t'.id = t.id)) ∘ fun t' : Ticket =>
      if t'.id = t.id then t'.answered (.ok v) else t') = fun t' => decide (t'.id = t.id) := by
    funext t'
    simp only [Function.comp_apply]
    split <;> rfl
  rw [ticket?, handed, List.find?_map, hids]
  rw [ticket?] at h
  rw [h, Option.map_some, if_pos rfl]

/-- …and every other ticket is still there as it was. -/
theorem mem_tickets_handed (ht' : t' ∈ w.tickets) (hid : t'.id ≠ t.id) :
    t' ∈ (w.handed t v).tickets :=
  List.mem_map.mpr ⟨t', ht', if_neg hid⟩

namespace Matched

/-- **A response is handed out to the ticket that waits under its key.** -/
theorem deliver_eq (h : w.Matched) (ht : t ∈ w.tickets) (hr : t.reply = none) (v : Json.Value) :
    w.deliver t.key v = (true, w.handed t v) := by
  have hp : w.isPending t.key = true := h.isPending_iff_ticket.mpr ⟨t, ht, rfl, hr⟩
  have he : t.entry ∈ w.entries := h.mem_entries.mpr ⟨t, ht, hr, rfl⟩
  have hentries : w.entries.filter (fun e => !decide (e.key = t.key))
      = w.entries.filter (· ≠ t.entry) := by
    refine List.filter_congr fun e hmem => ?_
    have hiff : e.key = t.key ↔ e = t.entry :=
      ⟨h.entry_eq_of_key hmem he, fun heq => congrArg Entry.key heq⟩
    simp [hiff]
  have htickets : answerAll (w.entries.filter fun e => e.key = t.key) (.ok v) w.tickets
      = w.tickets.map fun t' => if t'.id = t.id then t'.answered (.ok v) else t' := by
    refine (h.tickets_answer (fun e => e.key = t.key) (.ok v)).trans ?_
    refine List.map_congr_left fun t' ht' => if_congr ?_ rfl rfl
    rw [Bool.and_eq_true, Option.isNone_iff_eq_none, decide_eq_true_iff]
    constructor
    · rintro ⟨hr', hkey⟩
      rw [h.eq_of_key ht' ht hr' hr hkey]
    · intro hid
      rw [h.eq_of_id ht' ht hid]
      exact ⟨hr, rfl⟩
  rw [deliver_of_isPending hp, Waitlist.answer, handed, hentries, htickets]

/-- The ticket's key is free again… -/
theorem not_isPending_handed (h : w.Matched) (ht : t ∈ w.tickets) (hr : t.reply = none) :
    ¬ (w.handed t v).isPending t.key = true := by
  intro hp
  obtain ⟨e, he, hkey⟩ := isPending_iff.mp hp
  obtain ⟨hmem, hne⟩ := List.mem_filter.mp he
  have heq : e = t.entry := h.entry_eq_of_key hmem (h.mem_entries.mpr ⟨t, ht, hr, rfl⟩) hkey
  exact of_decide_eq_true hne heq

/-- …and all others wait on. -/
theorem entry_mem_handed (h : w.Matched) (ht' : t' ∈ w.tickets) (hr' : t'.reply = none)
    (hid : t'.id ≠ t.id) : t'.entry ∈ (w.handed t v).entries := by
  refine List.mem_filter.mpr ⟨h.mem_entries.mpr ⟨t', ht', hr', rfl⟩, ?_⟩
  simpa using fun heq : t'.entry = t.entry => hid (congrArg Entry.id heq)

end Matched

end Waitlist

/-- **Responses to a request,** in both layouts, answer it. -/
theorem ControlRequest.isAnswer_tagged {r : ControlRequest} {content : Json.Value}
    (hid : Response.Embeds content r.orderId) :
    r.isAnswer (.tagged (r.kind ++ "Response") content) = true := by
  simp [Json.Value.tagged, isAnswer, Response.orderId?_eq_some_iff.mpr hid]

namespace Channel

/-- **A frame has reached one who waits, and nobody else:** the ticket has it as its reply, which ends
the wait at any time; its key is free; all other tickets are as they were, and those of them that wait
for a reply still have their entries. -/
structure Reached (c : Channel) (t : Ticket) (v : Json.Value) (c' : Channel) : Prop where
  eq_handed : c' = { c with waitlist := c.waitlist.handed t v }
  ticket? : c'.waitlist.ticket? t.id = some (t.answered (.ok v))
  outcome? : ∀ now, (t.answered (.ok v)).attended.outcome? now = some (.ok v)
  free : ¬ c'.waitlist.isPending t.key = true
  others : ∀ t' ∈ c.waitlist.tickets, t'.id ≠ t.id →
    t' ∈ c'.waitlist.tickets ∧ (t'.reply = none → t'.entry ∈ c'.waitlist.entries)

variable {c : Channel} {t : Ticket} {v : Json.Value}

/-- **A frame with the key of one who waits reaches it.** -/
theorem reached_dispatch (h : c.waitlist.Matched) (ht : t ∈ c.waitlist.tickets)
    (hr : t.reply = none) (hkey : responseKey v = some t.key) : c.Reached t v (c.dispatch v) := by
  have heq : c.dispatch v = { c with waitlist := c.waitlist.handed t v } := by
    rw [dispatch_of_some hkey, h.deliver_eq ht hr]
  rw [heq]
  exact ⟨rfl, Waitlist.ticket?_handed (h.ticket?_eq ht),
    Ticket.outcome?_of_reply rfl rfl, h.not_isPending_handed ht hr,
    fun t' ht' hid => ⟨Waitlist.mem_tickets_handed ht' hid, fun hr' => h.entry_mem_handed ht' hr' hid⟩⟩

/-- **A response reaches its own waiter and no other.**  Whatever has happened to the list, and whoever
else waits: a response to a pending request reaches the ticket that waits under the key of the request,
and all other pending requests stay pending, for a key tells the kind and the order. -/
theorem run_dispatch (es : List Waitlist.Event) (c : Channel)
    (hc : c.waitlist = Waitlist.empty.run es) (r : ControlRequest)
    (hp : c.waitlist.isPending r.correlationKey = true) (content : Json.Value)
    (hid : Response.Embeds content r.orderId) :
    (∃ t ∈ c.waitlist.tickets, t.key = r.correlationKey ∧ t.reply = none
      ∧ c.Reached t (.tagged (r.kind ++ "Response") content)
        (c.dispatch (.tagged (r.kind ++ "Response") content)))
    ∧ (∀ r' : ControlRequest, c.waitlist.isPending r'.correlationKey = true →
      ¬ (r'.kind = r.kind ∧ r'.orderId = r.orderId) →
      (c.dispatch (.tagged (r.kind ++ "Response") content)).waitlist.isPending r'.correlationKey
        = true)
    ∧ ∀ r₁ r₂ : ControlRequest, r₁.correlationKey = r₂.correlationKey →
      r₁.kind = r₂.kind ∧ r₁.orderId = r₂.orderId := by
  have h : c.waitlist.Matched := hc ▸ Waitlist.run_matched Waitlist.empty_matched es
  obtain ⟨t, ht, hkey, hr⟩ := h.isPending_iff_ticket.mp hp
  have hresponse := ControlRequest.responseKey_of_isAnswer (ControlRequest.isAnswer_tagged hid)
  have hreached := reached_dispatch h ht hr (hresponse.trans (congrArg some hkey.symm))
  refine ⟨⟨t, ht, hkey, hr, hreached⟩, fun r' hp' hne => ?_,
    fun r₁ r₂ => ControlRequest.eq_of_correlationKey⟩
  obtain ⟨t', ht', hkey', hr'⟩ := h.isPending_iff_ticket.mp hp'
  have hother : t'.id ≠ t.id := by
    intro heq
    obtain rfl := h.eq_of_id ht' ht heq
    exact hne (ControlRequest.eq_of_correlationKey (hkey'.symm.trans hkey))
  exact Waitlist.isPending_iff.mpr ⟨t'.entry, (hreached.others t' ht' hother).2 hr', hkey'⟩

/-- The content of a response about an order, one level deeper and behind another member. -/
def nested (orderId : String) : Json.Value :=
  .object [("asset_id", .null), ("response", .object [("order_id", .string orderId)])]

/-- A cancel and a replace of an order with a colon in its id both wait, and the cancel is answered. -/
theorem run_dispatch_twoKinds : ∃ c : Channel,
    c.waitlist.isPending "CancelOrder:a:Response" = true
      ∧ c.waitlist.isPending "ReplaceOrder:a:Response" = true
      ∧ ∃ t ∈ c.waitlist.tickets, t.key = "CancelOrder:a:Response"
        ∧ c.Reached t (.tagged "CancelOrderResponse" (nested "a:Response"))
          (c.dispatch (.tagged "CancelOrderResponse" (nested "a:Response"))) := by
  let es : List Waitlist.Event :=
    [.register "ReplaceOrder:a:Response" ⟨1⟩, .register "CancelOrder:a:Response" ⟨1⟩]
  have hreached := (run_dispatch es ⟨Waitlist.empty.run es, [], true⟩ rfl
    (.cancel ⟨⟨"a:Response", .index 0, ⟨.zero⟩⟩, [], 0⟩) (by decide) (nested "a:Response")
    (.inner _ rfl rfl rfl)).1
  obtain ⟨t, ht, hkey, -, hreached⟩ := hreached
  exact ⟨_, by decide, by decide, t, ht, hkey, hreached⟩

end Channel

end OrderDesk
