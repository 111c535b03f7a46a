import OrderDesk.Proofs.Channel.Ledger
import Mathlib.Data.List.Perm.Subperm

/-!
# Proofs/Channel/Matching — whose answer a sender gets

    request ──▸ service ──▸ answer ──key──▸ whoever waits under the key

An answer carries the kind and the order of its request, and no number.  It goes to whoever waits
under its key, and that is the sender of the request, as long as nobody has stopped to wait under the
key without a reply: `Paired` says that the request of an answer still to come is waited for, or has
been `Overtaken` by a later one after an earlier one was given up.
-/

namespace OrderDesk.Channel.Traffic

variable {w w' : Traffic} {t t' : Ticket} {r : ControlRequest} {id : Nat} {key : String} {e : Event}

/-- The key of a registered request. -/
def keyOf (w : Traffic) (id : Nat) : Option String :=
  (w.requests id).map ControlRequest.correlationKey

/-- The numbers of the requests that were queued and not answered yet. -/
def transit (w : Traffic) : List Nat := w.queue ++ w.inbox.map Prod.fst

/-- A request with the key, no later than another one, was given up. -/
def Overtaken (w : Traffic) (key : String) (id : Nat) : Prop :=
  ∃ id' ∈ w.givenUp, id' ≤ id ∧ w.keyOf id' = some key

/-- **An answer reaches its own sender,** or one who waits under the same key since an earlier one
was given up. -/
structure Reaches (w : Traffic) (key : String) (asker id : Nat) : Prop where
  asker_key : w.keyOf asker = some key
  taker_key : w.keyOf id = some key
  asker_le : asker ≤ id
  own_or_overtaken : asker = id ∨ ∃ id' ∈ w.givenUp, id' < id ∧ w.keyOf id' = some key

/-- **Answers and senders are paired:** nobody waits under a key behind a later request, a request
that is under way is waited for or overtaken, and each response is an answer that reaches whom it was
handed to. -/
structure Paired (w : Traffic) : Prop where
  le_entry : ∀ e ∈ w.waitlist.entries, ∀ id, w.keyOf id = some e.key → id ≤ e.id
  keyOf_givenUp : ∀ id ∈ w.givenUp, ∃ key, w.keyOf id = some key
  ticket_ne_givenUp : ∀ id ∈ w.givenUp, ∀ t ∈ w.waitlist.tickets, t.id ≠ id
  nodup_transit : w.transit.Nodup
  transit_sent : ∀ id ∈ w.transit, id ∈ w.sent
  awaited : w.task = .running → ∀ id ∈ w.transit, ∀ key, w.keyOf id = some key →
    (∃ t ∈ w.waitlist.tickets, t.id = id ∧ t.reply = none) ∨ w.Overtaken key id
  asker_sent : ∀ a ∈ w.answers, ∀ id, a.asker = some id → id ∈ w.sent
  reaches : ∀ a ∈ w.answers, ∀ id, a.taker = some id →
    ∃ asker key, a.asker = some asker ∧ w.Reaches key asker id
  ne_error : w.task = .running → ∀ t ∈ w.waitlist.tickets, ∀ err, t.reply ≠ some (.error err)

theorem opening_paired : Paired opening where
  le_entry _ he := absurd he List.not_mem_nil
  keyOf_givenUp _ hid := absurd hid List.not_mem_nil
  ticket_ne_givenUp _ hid := absurd hid List.not_mem_nil
  nodup_transit := List.nodup_nil
  transit_sent _ hid := absurd hid List.not_mem_nil
  awaited _ _ hid := absurd hid List.not_mem_nil
  asker_sent _ ha := absurd ha List.not_mem_nil
  reaches _ ha := absurd ha List.not_mem_nil
  ne_error _ _ ht := absurd ht List.not_mem_nil

/-! ## What stays -/

theorem keyOf_eq (hr : w.requests id = some r) : w.keyOf id = some r.correlationKey := by
  rw [keyOf, hr]
  rfl

theorem keyOf_ticket (hs : Sound w) (ht : t ∈ w.waitlist.tickets) : w.keyOf t.id = some t.key := by
  obtain ⟨r, hr, hkey⟩ := hs.request_of_ticket t ht
  rw [hkey]
  exact keyOf_eq hr

/-- Keys and requests that were given up stay known. -/
structure Grows (w w' : Traffic) : Prop where
  keyOf : ∀ id key, w.keyOf id = some key → w'.keyOf id = some key
  givenUp : ∀ id ∈ w.givenUp, id ∈ w'.givenUp

theorem Overtaken.mono (h : w.Overtaken key id) (hg : Grows w w') : w'.Overtaken key id := by
  obtain ⟨id', hid', hle, hkey⟩ := h
  exact ⟨id', hg.givenUp id' hid', hle, hg.keyOf id' key hkey⟩

theorem Reaches.mono {asker : Nat} (h : w.Reaches key asker id) (hg : Grows w w') :
    w'.Reaches key asker id := by
  refine ⟨hg.keyOf _ _ h.asker_key, hg.keyOf _ _ h.taker_key, h.asker_le, ?_⟩
  refine h.own_or_overtaken.imp_right ?_
  rintro ⟨id', hid', hlt, hkey⟩
  exact ⟨id', hg.givenUp id' hid', hlt, hg.keyOf id' key hkey⟩

namespace Paired

theorem reaches_mono (h : Paired w) (hg : Grows w w') :
    ∀ a ∈ w.answers, ∀ id, a.taker = some id →
      ∃ asker key, a.asker = some asker ∧ w'.Reaches key asker id := by
  intro a ha id htaker
  obtain ⟨asker, key, hasker, hr⟩ := h.reaches a ha id htaker
  exact ⟨asker, key, hasker, hr.mono hg⟩

/-- Less under way, and nothing else changed for those who wait. -/
theorem shrink (h : Paired w) (hentries : w'.waitlist.entries = w.waitlist.entries)
    (htickets : w'.waitlist.tickets = w.waitlist.tickets) (hrequests : w'.requests = w.requests)
    (hanswers : w'.answers = w.answers) (hsent : w'.sent = w.sent) (hgivenUp : w'.givenUp = w.givenUp)
    (hsub : w'.transit.Subperm w.transit) (htask : w'.task = .running → w.task = .running) :
    Paired w' := by
  have hkey : w'.keyOf = w.keyOf := by
    funext id
    rw [keyOf, keyOf, hrequests]
  have hgrows : Grows w w' := ⟨fun id key hk => by rwa [hkey], fun id hid => by rwa [hgivenUp]⟩
  have hnodup : w'.transit.Nodup := by
    obtain ⟨l, hperm, hsublist⟩ := hsub
    exact hperm.nodup_iff.mp (h.nodup_transit.sublist hsublist)
  constructor
  case nodup_transit => exact hnodup
  all_goals simp only [hentries, htickets, hkey, hanswers, hsent, hgivenUp]
  case le_entry => exact h.le_entry
  case keyOf_givenUp => exact h.keyOf_givenUp
  case ticket_ne_givenUp => exact h.ticket_ne_givenUp
  case transit_sent => exact fun id hid => h.transit_sent id (hsub.subset hid)
  case awaited =>
    intro hrun id hid key hk
    exact (h.awaited (htask hrun) id (hsub.subset hid) key hk).imp_right fun ho => ho.mono hgrows
  case asker_sent => exact h.asker_sent
  case reaches => exact h.reaches_mono hgrows
  case ne_error => exact fun hrun => h.ne_error (htask hrun)

/-! ## Registering and queuing -/

theorem keyOf_lt (hs : Sound w) (hk : w.keyOf id = some key) : id < w.waitlist.nextId := by
  obtain ⟨r, hr, -⟩ := Option.map_eq_some_iff.mp hk
  exact hs.request_lt id r hr

theorem grows_registered (hs : Sound w) (r : ControlRequest) (timeout : Duration) :
    Grows w (w.registered r timeout) where
  keyOf id key hk := by
    obtain ⟨r', hr, rfl⟩ := Option.map_eq_some_iff.mp hk
    exact keyOf_eq (requests_registered_mono hs timeout hr)
  givenUp id hid := by rwa [givenUp_registered]

/-- The new number is the only one whose key is new. -/
theorem keyOf_registered {timeout : Duration} (hp : ¬ w.waitlist.isPending r.correlationKey = true)
    (hk : (w.registered r timeout).keyOf id = some key) :
    id = w.waitlist.nextId ∧ r.correlationKey = key ∨ w.keyOf id = some key := by
  rw [keyOf, requests_registered hp, Function.update_apply] at hk
  split at hk
  · next hid => exact .inl ⟨hid, Option.some.inj hk⟩
  · exact .inr hk

/-- Registering a request keeps the pairing. -/
theorem register (h : Paired w) (hs : Sound w) (r : ControlRequest) (timeout : Duration) :
    Paired (w.registered r timeout) := by
  by_cases hp : w.waitlist.isPending r.correlationKey = true
  · rw [registered_of_isPending hp]
    exact h.shrink rfl rfl rfl rfl rfl rfl (List.Subperm.refl _) id
  · have hgrows := grows_registered hs r timeout
    have htransit : (w.registered r timeout).transit = w.transit := by simp [transit]
    constructor
    all_goals
      simp only [waitlist_registered, Waitlist.register_of_not_isPending hp, givenUp_registered,
        task_registered, answers_registered, sent_registered, htransit]
    case le_entry =>
      intro e he id hk
      rcases List.mem_cons.mp he with rfl | he
      · rcases keyOf_registered hp hk with ⟨rfl, -⟩ | hk
        · exact Nat.le_refl _
        · exact Nat.le_of_lt (keyOf_lt hs hk)
      · rcases keyOf_registered hp hk with ⟨rfl, heq⟩ | hk
        · exact absurd (Waitlist.isPending_iff.mpr ⟨e, he, heq.symm⟩) hp
        · exact h.le_entry e he id hk
    case keyOf_givenUp =>
      intro id hid
      obtain ⟨key, hk⟩ := h.keyOf_givenUp id hid
      exact ⟨key, hgrows.keyOf id key hk⟩
    case ticket_ne_givenUp =>
      intro id hid t ht
      rcases List.mem_cons.mp ht with rfl | ht
      · obtain ⟨key, hk⟩ := h.keyOf_givenUp id hid
        exact (Nat.ne_of_lt (keyOf_lt hs hk)).symm
      · exact h.ticket_ne_givenUp id hid t ht
    case nodup_transit => exact h.nodup_transit
    case transit_sent => exact h.transit_sent
    case awaited =>
      intro htask id hid key hk
      obtain ⟨r', hr⟩ := hs.exists_request hid
      obtain rfl := Option.some.inj ((hgrows.keyOf id _ (keyOf_eq hr)).symm.trans hk)
      rcases h.awaited htask id hid _ (keyOf_eq hr) with ⟨t, ht, hid, hr⟩ | ho
      · exact .inl ⟨t, List.mem_cons_of_mem _ ht, hid, hr⟩
      · exact .inr (ho.mono hgrows)
    case asker_sent => exact h.asker_sent
    case reaches => exact h.reaches_mono hgrows
    case ne_error =>
      intro htask t ht err
      rcases List.mem_cons.mp ht with rfl | ht
      · exact nofun
      · exact h.ne_error htask t ht err

/-- A request whose sender has got an answer before it was queued is overtaken. -/
theorem awaited_or_overtaken (h : Paired w) (hs : Sound w) (hreplied : Replied w)
    (ht : t ∈ w.waitlist.tickets) (htask : w.task = .running) (hsent : t.id ∉ w.sent) :
    t.reply = none ∨ w.Overtaken t.key t.id := by
  match hr : t.reply with
  | none => exact .inl rfl
  | some (.error err) => exact absurd hr (h.ne_error htask t ht err)
  | some (.ok v) =>
    obtain ⟨a, ha, htaker, -⟩ := hreplied.of_ok t ht v hr
    obtain ⟨asker, key, hasker, hreach⟩ := h.reaches a ha t.id htaker
    rcases hreach.own_or_overtaken with heq | ⟨id', hid', hlt, hk⟩
    · exact absurd (heq ▸ h.asker_sent a ha asker hasker) hsent
    · obtain rfl := Option.some.inj (hreach.taker_key.symm.trans (keyOf_ticket hs ht))
      exact .inr ⟨id', hid', Nat.le_of_lt hlt, hk⟩

/-- Queuing a request keeps the pairing. -/
theorem enqueue (h : Paired w) (hs : Sound w) (hreplied : Replied w) (ht : t ∈ w.waitlist.tickets)
    (hsent : t.id ∉ w.sent) (hopen : w.channel.isOpen = true) : Paired (w.enqueued r t) := by
  rw [enqueued_of_open hopen]
  have hperm : (w.queue ++ [t.id] ++ w.inbox.map Prod.fst).Perm (t.id :: w.transit) := by
    rw [List.append_assoc]
    exact List.perm_middle
  have hattend : ∀ t' ∈ w.waitlist.tickets, t'.reply = none →
      ∃ t₁ ∈ (w.waitlist.attend t.id).tickets, t₁.id = t'.id ∧ t₁.reply = none := by
    intro t' ht' hr
    obtain ⟨t₁, ht₁, hid, hr₁⟩ := Waitlist.exists_attended t.id ht'
    exact ⟨t₁, ht₁, hid, hr₁.trans hr⟩
  constructor
  case le_entry => exact h.le_entry
  case keyOf_givenUp => exact h.keyOf_givenUp
  case ticket_ne_givenUp =>
    intro id hid t' ht'
    obtain ⟨t₀, ht₀, hid', -, -⟩ := Waitlist.exists_of_mem_attend ht'
    exact hid' ▸ h.ticket_ne_givenUp id hid t₀ ht₀
  case nodup_transit =>
    exact hperm.nodup_iff.mpr
      (List.nodup_cons.mpr ⟨fun hid => hsent (h.transit_sent _ hid), h.nodup_transit⟩)
  case transit_sent =>
    intro id hid
    rcases List.mem_cons.mp (hperm.mem_iff.mp hid) with rfl | hid
    · exact List.mem_append_right _ (List.mem_singleton_self _)
    · exact List.mem_append_left _ (h.transit_sent id hid)
  case awaited =>
    intro htask id hid key hk
    rcases List.mem_cons.mp (hperm.mem_iff.mp hid) with rfl | hid
    · obtain rfl := Option.some.inj ((keyOf_ticket hs ht).symm.trans hk)
      exact (h.awaited_or_overtaken hs hreplied ht htask hsent).imp_left fun hr => hattend t ht hr
    · refine (h.awaited htask id hid key hk).imp_left ?_
      rintro ⟨t', ht', rfl, hr⟩
      exact hattend t' ht' hr
  case asker_sent =>
    exact fun a ha id hid => List.mem_append_left _ (h.asker_sent a ha id hid)
  case reaches => exact h.reaches_mono ⟨fun _ _ hk => hk, fun _ hid => hid⟩
  case ne_error =>
    intro htask t' ht' err hr
    obtain ⟨t₀, ht₀, -, -, hr₀⟩ := Waitlist.exists_of_mem_attend ht'
    exact h.ne_error htask t₀ ht₀ err (hr₀.trans hr)

/-! ## Letting go -/

/-- Letting go of a ticket keeps the pairing, if a request that is under way is then given up. -/
theorem letGo (h : Paired w) (hs : Sound w) (ht : t ∈ w.waitlist.tickets)
    (hentries : w'.waitlist.entries = (w.waitlist.release t).entries)
    (htickets : w'.waitlist.tickets = (w.waitlist.release t).tickets)
    (hrequests : w'.requests = w.requests) (htransit : w'.transit = w.transit)
    (htask : w'.task = w.task) (hanswers : w'.answers = w.answers) (hsent : w'.sent = w.sent)
    (hkept : ∀ id ∈ w.givenUp, id ∈ w'.givenUp)
    (hgivenUp : ∀ id ∈ w'.givenUp, id ∈ w.givenUp ∨ id = t.id)
    (hown : t.reply = none → t.id ∈ w.transit → t.id ∈ w'.givenUp) : Paired w' := by
  have hkey : w'.keyOf = w.keyOf := by
    funext id
    rw [keyOf, keyOf, hrequests]
  have hgrows : Grows w w' := ⟨fun id key hk => by rwa [hkey], hkept⟩
  constructor
  all_goals simp only [hentries, htickets, hkey, htransit, htask, hanswers, hsent]
  case le_entry => exact fun e he => h.le_entry e (List.mem_of_mem_filter he)
  case keyOf_givenUp =>
    intro id hid
    rcases hgivenUp id hid with hid | rfl
    · exact h.keyOf_givenUp id hid
    · exact ⟨t.key, keyOf_ticket hs ht⟩
  case ticket_ne_givenUp =>
    intro id hid t' ht'
    obtain ⟨ht', hne⟩ := Waitlist.mem_tickets_release.mp ht'
    rcases hgivenUp id hid with hid | rfl
    · exact h.ticket_ne_givenUp id hid t' ht'
    · exact hne
  case nodup_transit => exact h.nodup_transit
  case transit_sent => exact h.transit_sent
  case awaited =>
    intro hrun id hid key hk
    rcases h.awaited hrun id hid key hk with ⟨t', ht', rfl, hr⟩ | ho
    · by_cases hid' : t'.id = t.id
      · obtain rfl := hs.matched.eq_of_id ht' ht hid'
        exact .inr ⟨t'.id, hown hr hid, Nat.le_refl _, hgrows.keyOf _ _ hk⟩
      · exact .inl ⟨t', Waitlist.mem_tickets_release.mpr ⟨ht', hid'⟩, rfl, hr⟩
    · exact .inr (ho.mono hgrows)
  case asker_sent => exact h.asker_sent
  case reaches => exact h.reaches_mono hgrows
  case ne_error => exact fun hrun t' ht' => h.ne_error hrun t' (Waitlist.mem_tickets_release.mp ht').1

/-! ## Answers -/

/-- **A request that is taken from the queue** goes to the service or is lost. -/
theorem transmit (h : Paired w) {queue : List Nat} (hqueue : w.queue = id :: queue) (arrives : Bool)
    (htask : w.task = .running) : Paired (w.transmitted r id arrives) := by
  refine h.shrink rfl rfl rfl rfl rfl rfl ?_ fun _ => htask
  rw [transit, transit, hqueue]
  cases arrives with
  | true =>
    have htransit : (w.transmitted r id true).queue ++ (w.transmitted r id true).inbox.map Prod.fst
        = queue ++ w.inbox.map Prod.fst ++ [id] := by
      simp [transmitted, hqueue]
    rw [htransit]
    exact (List.perm_append_singleton id _).subperm
  | false =>
    have htransit : (w.transmitted r id false).queue ++ (w.transmitted r id false).inbox.map Prod.fst
        = queue ++ w.inbox.map Prod.fst := by
      simp [transmitted, hqueue]
    rw [htransit]
    exact (List.sublist_cons_self id _).subperm

/-- **An answer that arrives reaches its own sender,** or a later one under the same key. -/
theorem reaches_taker (h : Paired w) (hs : Sound w) (htask : w.task = .running) {asker : Nat}
    (hq : (asker, r) ∈ w.inbox) (htaker : w.taker? r.correlationKey = some id) :
    w.Reaches r.correlationKey asker id := by
  obtain ⟨t, ht, hr, hkey, rfl⟩ := (taker?_eq_some hs).mp htaker
  have hasker : w.keyOf asker = some r.correlationKey := keyOf_eq (hs.inbox_eq _ hq)
  have he : t.entry ∈ w.waitlist.entries := hs.matched.mem_entries.mpr ⟨t, ht, hr, rfl⟩
  have hle : asker ≤ t.id := h.le_entry t.entry he asker (by rw [hasker, ← hkey]; rfl)
  refine ⟨hasker, hkey ▸ keyOf_ticket hs ht, hle, ?_⟩
  have hmem : asker ∈ w.transit := List.mem_append_right _ (List.mem_map_of_mem hq)
  rcases h.awaited htask asker hmem _ hasker with ⟨t', ht', rfl, hr'⟩ | ⟨id', hid', hle', hk⟩
  · have hkey' : t'.key = t.key :=
      Option.some.inj ((keyOf_ticket hs ht').symm.trans (hasker.trans (congrArg some hkey.symm)))
    exact .inl (congrArg Ticket.id (hs.matched.eq_of_key ht' ht hr' hr hkey'))
  · refine .inr ⟨id', hid', Nat.lt_of_le_of_ne (Nat.le_trans hle' hle) ?_, hk⟩
    exact (h.ticket_ne_givenUp id' hid' t ht).symm

/-- What is still under way when an answer has arrived. -/
theorem mem_transit_answered {payload : List UInt8} {v : Json.Value} (h : Paired w)
    (hq : (id, r) ∈ w.inbox) {id' : Nat} (hid' : id' ∈ (w.answered id r payload v).transit) :
    id' ∈ w.transit ∧ id' ≠ id := by
  have hnodup := List.nodup_append.mp h.nodup_transit
  rcases List.mem_append.mp hid' with hmem | hmem
  · refine ⟨List.mem_append_left _ hmem, ?_⟩
    exact hnodup.2.2 id' hmem id (List.mem_map_of_mem hq)
  · obtain ⟨q, hq', rfl⟩ := List.mem_map.mp hmem
    obtain ⟨hq', hne⟩ := List.mem_filter.mp hq'
    exact ⟨List.mem_append_right _ (List.mem_map_of_mem hq'), by simpa using hne⟩

theorem nodup_transit_answered {payload : List UInt8} {v : Json.Value} (h : Paired w) :
    (w.answered id r payload v).transit.Nodup :=
  h.nodup_transit.sublist ((List.Sublist.refl _).append (List.filter_sublist.map _))

/-- The tickets when an answer has arrived: those that did not wait under its key, and the one that
did, with the answer. -/
theorem mem_tickets_answered (hs : Sound w) {payload : List UInt8} {v : Json.Value}
    (hv : Frame.classify payload = some (.data v)) (ha : r.isAnswer v = true) :
    t' ∈ (w.answered id r payload v).waitlist.tickets
      ↔ (t' ∈ w.waitlist.tickets ∧ ¬ (t'.reply = none ∧ t'.key = r.correlationKey))
        ∨ ∃ t ∈ w.waitlist.tickets, t.reply = none ∧ t.key = r.correlationKey
          ∧ t.answered (.ok v) = t' := by
  rw [answered_eq hv ha]
  exact hs.matched.mem_tickets_deliver

/-- **An answer keeps the pairing.** -/
theorem answer (h : Paired w) (hs : Sound w) (htask : w.task = .running) {payload : List UInt8}
    {v : Json.Value} (hq : (id, r) ∈ w.inbox) (hv : Frame.classify payload = some (.data v))
    (ha : r.isAnswer v = true) : Paired (w.answered id r payload v) := by
  have hreach : ∀ id', w.taker? r.correlationKey = some id' →
      w.Reaches r.correlationKey id id' := fun id' htaker => h.reaches_taker hs htask hq htaker
  have hgrows : Grows w (w.answered id r payload v) := ⟨fun _ _ hk => hk, fun _ hid => hid⟩
  constructor
  case le_entry =>
    intro e he id' hk
    rw [answered_eq hv ha] at he
    exact h.le_entry e (Waitlist.mem_entries_deliver he) id' hk
  case keyOf_givenUp => exact h.keyOf_givenUp
  case ticket_ne_givenUp =>
    intro id' hid' t ht
    rcases (mem_tickets_answered hs hv ha).mp ht with ⟨ht, -⟩ | ⟨t₀, ht₀, -, -, rfl⟩
    · exact h.ticket_ne_givenUp id' hid' t ht
    · exact h.ticket_ne_givenUp id' hid' t₀ ht₀
  case nodup_transit => exact h.nodup_transit_answered
  case transit_sent => exact fun id' hid' => h.transit_sent id' (h.mem_transit_answered hq hid').1
  case awaited =>
    intro _ id' hid' key hk
    obtain ⟨hmem, hne⟩ := h.mem_transit_answered hq hid'
    rcases h.awaited htask id' hmem key hk with ⟨t, ht, rfl, hr⟩ | ho
    · by_cases hkey : t.key = r.correlationKey
      · -- The answer was for this ticket, which thereby waits for no other: it is overtaken.
        have htaker := (taker?_eq_some hs).mpr ⟨t, ht, hr, hkey, rfl⟩
        obtain ⟨id₁, hid₁, hlt, hk₁⟩ := (hreach t.id htaker).own_or_overtaken.resolve_left hne.symm
        obtain rfl := Option.some.inj ((keyOf_ticket hs ht).symm.trans hk)
        exact .inr ⟨id₁, hid₁, Nat.le_of_lt hlt, hkey ▸ hk₁⟩
      · exact .inl ⟨t, (mem_tickets_answered hs hv ha).mpr (.inl ⟨ht, fun hr' => hkey hr'.2⟩), rfl, hr⟩
    · exact .inr (ho.mono hgrows)
  case asker_sent =>
    intro a hmem id' hid'
    rcases List.mem_append.mp hmem with hmem | hmem
    · exact h.asker_sent a hmem id' hid'
    · obtain rfl := List.mem_singleton.mp hmem
      obtain rfl := Option.some.inj hid'
      exact h.transit_sent id (List.mem_append_right _ (List.mem_map_of_mem hq))
  case reaches =>
    intro a hmem id' htaker
    rcases List.mem_append.mp hmem with hmem | hmem
    · exact h.reaches_mono hgrows a hmem id' htaker
    · obtain rfl := List.mem_singleton.mp hmem
      exact ⟨id, r.correlationKey, rfl, (hreach id' htaker).mono hgrows⟩
  case ne_error =>
    intro _ t ht err hr
    rcases (mem_tickets_answered hs hv ha).mp ht with ⟨ht, -⟩ | ⟨t₀, ht₀, -, -, rfl⟩
    · exact h.ne_error htask t ht err hr
    · cases hr

/-- **The end of the connection** keeps the pairing. -/
theorem tell (h : Paired w) (hs : Sound w) :
    Paired { w.withWaitlist (w.waitlist.drain disconnectedReason) with task := .told } := by
  rw [Waitlist.drain_eq_answer]
  refine ⟨fun e he => h.le_entry e (List.mem_of_mem_filter he), h.keyOf_givenUp,
    fun id hid t ht => ?_, h.nodup_transit, h.transit_sent, nofun, h.asker_sent,
    h.reaches_mono ⟨fun _ _ hk => hk, fun _ hid => hid⟩, nofun⟩
  obtain ⟨t₀, ht₀, rfl⟩ := hs.matched.mem_tickets_answer.mp ht
  split <;> exact h.ticket_ne_givenUp id hid t₀ ht₀

end Paired

/-! ## Every event keeps the pairing -/

theorem mem_givenUp_leaving {waitlist : Waitlist} : id ∈ (w.leaving t waitlist).givenUp
    ↔ id ∈ w.givenUp ∨ (t.waiting = true ∧ t.reply = none) ∧ id = t.id := by
  rw [leaving]
  cases t.waiting <;> cases t.reply <;> simp

/-- A sender that holds its ticket no longer keeps the pairing. -/
theorem Paired.leaving (h : Paired w) (hs : Sound w) (ht : t ∈ w.waitlist.tickets)
    {waitlist : Waitlist} (hentries : waitlist.entries = (w.waitlist.release t).entries)
    (htickets : waitlist.tickets = (w.waitlist.release t).tickets) :
    Paired (w.leaving t waitlist) :=
  h.letGo hs ht hentries htickets rfl rfl rfl rfl rfl
    (fun _ hid => mem_givenUp_leaving.mpr (.inl hid))
    (fun _ hid => (mem_givenUp_leaving.mp hid).imp_right And.right)
    fun hr hid => mem_givenUp_leaving.mpr
      (.inr ⟨⟨(hs.waiting_iff t ht).mpr (h.transit_sent _ hid), hr⟩, rfl⟩)

/-- **Each event keeps the pairing,** if no response is one that nobody asked for. -/
theorem step_paired (hs : Sound w) (hreplied : Replied w) (h : Paired w) :
    ∀ e : Event, ¬ e.IsStray → w.step e = some w' → Paired w'
  | .register r timeout, _, he => by
      obtain rfl := Option.some.inj he
      exact h.register hs r timeout
  | .enqueue id, _, he => by
      obtain ⟨r, t, hr, ht, hsent, rfl⟩ := enqueue_of_step he
      obtain ⟨hmem, rfl⟩ := Waitlist.ticket?_eq_some ht
      by_cases hopen : w.channel.isOpen = true
      · exact h.enqueue hs hreplied hmem hsent hopen
      · rw [enqueued_of_closed hopen ht]
        exact h.letGo hs hmem rfl rfl rfl rfl rfl rfl rfl (fun _ hid => hid)
          (fun _ hid => .inl hid) fun _ hid => absurd (h.transit_sent _ hid) hsent
  | .drop id, _, he => by
      obtain ⟨t, ht, rfl⟩ := drop_of_step he
      exact h.leaving hs (Waitlist.ticket?_eq_some ht).1 rfl rfl
  | .endWait id, _, he => by
      obtain ⟨t, reply, ht, -, rfl⟩ := endWait_of_step he
      exact h.leaving hs (Waitlist.ticket?_eq_some ht).1 rfl rfl
  | .elapse span, _, he => by
      obtain rfl := Option.some.inj he
      exact h.shrink rfl rfl rfl rfl rfl rfl (.refl _) id
  | .transmit arrives, _, he => by
      obtain ⟨htask, r, outbox, id, queue, -, hqueue, rfl⟩ := transmit_of_step he
      exact h.transmit hqueue arrives htask
  | .answer id payload, _, he => by
      obtain ⟨htask, r, v, hr, hv, ha, rfl⟩ := answer_of_step he
      obtain ⟨_, _, hinbox, -⟩ := List.lookup_eq_some_iff.mp hr
      exact h.answer hs htask (by simp [hinbox]) hv ha
  | .receive payload writable, hstray, he => by
      obtain ⟨htask, ⟨key, v, hresponse, -⟩ | ⟨-, task, -, rfl⟩⟩ := receive_of_step he
      · exact absurd (Option.isSome_iff_exists.mpr ⟨_, hresponse⟩) hstray
      · exact h.shrink rfl rfl rfl rfl rfl rfl (.refl _) fun _ => htask
  | .close, _, he => by
      obtain ⟨htask, rfl⟩ := close_of_step he
      exact h.shrink rfl rfl rfl rfl rfl rfl (.refl _) fun _ => htask
  | .tell, _, he => by
      obtain ⟨-, rfl⟩ := tell_of_step he
      exact h.tell hs
  | .finish, _, he => by
      obtain ⟨-, rfl⟩ := finish_of_step he
      exact h.shrink rfl rfl rfl rfl rfl rfl (List.sublist_append_right _ _).subperm nofun

/-- **So does every run** in which the service only answers what it is asked. -/
theorem run_paired {es : List Event} (hrun : opening.run es = some w)
    (hasked : ∀ e ∈ es, ¬ e.IsStray) : Paired w := by
  refine Steps.run_induction (P := fun es w => (∀ e ∈ es, ¬ e.IsStray) → Paired w)
    (fun _ => opening_paired) (fun es w₁ e w₂ hw he h hasked => ?_) hrun hasked
  have hes : ∀ e ∈ es, ¬ e.IsStray := fun e' he' => hasked e' (List.mem_append_left _ he')
  have hlast : ¬ e.IsStray := hasked e (List.mem_append_right _ (List.mem_singleton_self e))
  exact step_paired (run_sound hw) (run_replied hw) (h hes) e hlast he

/-! ## Whose answer a send returns -/

/-- Two requests of one kind about one order. -/
def Alike (w : Traffic) (id id' : Nat) : Prop :=
  ∃ r r', w.requests id = some r ∧ w.requests id' = some r' ∧ r.kind = r'.kind
    ∧ r.orderId = r'.orderId

/-- Requests under one key are alike. -/
theorem Alike.of_keyOf {id' : Nat} (h : w.keyOf id = some key) (h' : w.keyOf id' = some key) :
    w.Alike id id' := by
  obtain ⟨r, hr, hk⟩ := Option.map_eq_some_iff.mp h
  obtain ⟨r', hr', hk'⟩ := Option.map_eq_some_iff.mp h'
  exact ⟨r, r', hr, hr', ControlRequest.eq_of_correlationKey (hk.trans hk'.symm)⟩

/-- **What a send returns is an answer to a request of its own kind about its own order,** if the
service answers each request that it receives once at most and sends no other response.  That request
is its own, unless an earlier send for the same kind and order has stopped to wait without a reply. -/
theorem run_answer {es : List Event} {v : Json.Value} (hrun : opening.run es = some w)
    (hasked : ∀ e ∈ es, ¬ e.IsStray) (ho : (id, .ok v) ∈ w.waitlist.outcomes) :
    ∃ a ∈ w.answers, ∃ asker, a.asker = some asker ∧ a.value = v ∧ a.taker = some id
      ∧ (∃ r, w.requests asker = some r ∧ r.isAnswer v = true)
      ∧ w.Alike asker id ∧ asker ≤ id
      ∧ (asker = id ∨ ∃ id' ∈ w.givenUp, id' < id ∧ w.Alike id' id) := by
  obtain ⟨a, ha, htaker, rfl⟩ := (run_replied hrun).of_outcome id v ho
  obtain ⟨asker, key, hasker, hreach⟩ := (run_paired hrun hasked).reaches a ha id htaker
  refine ⟨a, ha, asker, hasker, rfl, htaker, (run_sound hrun).request_of_answer a ha asker hasker,
    .of_keyOf hreach.asker_key hreach.taker_key, hreach.asker_le, ?_⟩
  refine hreach.own_or_overtaken.imp_right ?_
  rintro ⟨id', hid', hlt, hk⟩
  exact ⟨id', hid', hlt, .of_keyOf hk hreach.taker_key⟩

/-- A sender gives up, the next one sends the same request, and only then the first request is
answered. -/
def lateAnswer (r : ControlRequest) (payload : List UInt8) : List Event :=
  [.register r ⟨1⟩, .enqueue 0, .transmit true, .drop 0, .register r ⟨1⟩, .enqueue 1,
    .transmit true, .answer 0 payload, .endWait 1]

/-- **A late answer goes to the next sender,** whatever the request and its answer are. -/
theorem run_lateAnswer {payload : List UInt8} {v : Json.Value}
    (hv : Frame.classify payload = some (.data v)) (ha : r.isAnswer v = true) :
    ∃ w, opening.run (lateAnswer r payload) = some w ∧ w.waitlist.outcomes = [(1, .ok v)]
      ∧ w.answers = [⟨some 0, v, some 1⟩] := by
  -- One rewriting rule for each step of the run.
  simp [lateAnswer, run, Steps.run, step, opening, opened, Waitlist.empty, withWaitlist,
    registered, Channel.register, Waitlist.register, Waitlist.isPending, Waitlist.newTicket,
    enqueued, Channel.enqueue, Waitlist.attend, Ticket.attended, transmitted, Channel.next,
    leaving, Waitlist.drop, Waitlist.release, Waitlist.ticket?, Ticket.entry, hv, ha, answered,
    taker?, take_of_response (response?_of_isAnswer hv ha), Waitlist.deliver, Waitlist.answerAll,
    Ticket.answered, Waitlist.endWait, Ticket.outcome?]

/-- A request to cancel an order. -/
def cancelling (orderId : String) : ControlRequest :=
  .cancel ⟨⟨orderId, .index 0, ⟨.zero⟩⟩, [], 0⟩

/-- A payload that says that the order `x` is cancelled. -/
def cancelled : List UInt8 :=
  Bytes.ofString "\x7b\"CancelOrderResponse\":\x7b\"order_id\":\"x\"\x7d\x7d"

theorem classify_cancelled : ∃ v, Frame.classify cancelled = some (.data v)
    ∧ (cancelling "x").isAnswer v = true :=
  ControlRequest.isAnsweredBy_iff.mp (by decide +kernel)

theorem not_isStray_lateAnswer {payload : List UInt8} : ∀ e ∈ lateAnswer r payload, ¬ e.IsStray := by
  simp [lateAnswer, Event.IsStray]

/-- The second of two senders gets the answer to the first. -/
theorem run_answer_cancelling : ∃ w v, opening.run (lateAnswer (cancelling "x") cancelled) = some w
    ∧ (∀ e ∈ lateAnswer (cancelling "x") cancelled, ¬ e.IsStray)
    ∧ (1, .ok v) ∈ w.waitlist.outcomes
    ∧ ∃ a ∈ w.answers, ∃ asker, a.asker = some asker ∧ a.value = v ∧ a.taker = some 1
      ∧ (∃ r, w.requests asker = some r ∧ r.isAnswer v = true)
      ∧ w.Alike asker 1 ∧ asker ≤ 1
      ∧ (asker = 1 ∨ ∃ id' ∈ w.givenUp, id' < 1 ∧ w.Alike id' 1) := by
  obtain ⟨v, hv, ha⟩ := classify_cancelled
  obtain ⟨w, hrun, houtcomes, -⟩ := run_lateAnswer hv ha
  have ho : (1, .ok v) ∈ w.waitlist.outcomes := by simp [houtcomes]
  exact ⟨w, v, hrun, not_isStray_lateAnswer, ho, run_answer hrun not_isStray_lateAnswer ho⟩

/-- **It need not be the answer to its own request.** -/
theorem not_run_own_answer : ¬ ∀ (es : List Event) (w : Traffic) (id : Nat) (v : Json.Value),
    opening.run es = some w → (∀ e ∈ es, ¬ e.IsStray) → (id, .ok v) ∈ w.waitlist.outcomes →
    ∃ a ∈ w.answers, a.asker = some id ∧ a.value = v := by
  intro h
  obtain ⟨v, hv, ha⟩ := classify_cancelled
  obtain ⟨w, hrun, houtcomes, hanswers⟩ := run_lateAnswer hv ha
  obtain ⟨a, hmem, hasker, -⟩ := h _ w 1 v hrun not_isStray_lateAnswer (by simp [houtcomes])
  rw [hanswers] at hmem
  obtain rfl := List.mem_singleton.mp hmem
  exact Nat.zero_ne_one (Option.some.inj hasker)

end OrderDesk.Channel.Traffic
