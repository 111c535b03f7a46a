import OrderDesk.Order.Response

/-!
# Proofs/Channel/Keys — the keys of requests, and the frames that carry them

    CancelOrder  ⌢  :  ⌢  id            kind  ⌢  p  ⌢  :  ⌢  id   =   kind  ⌢  :  ⌢  order

A key is flat text.  The kind of a request has no colon, so that its key tells its kind and its order;
but the name of a frame's member is any text, and a colon in it is as good as the one of the key.  So
a frame carries the key of a request if its member is named after the kind and holds the order id, or
if the order id is cut at one of its own colons, the front in the name and the back in the content
(`responseKey_eq_correlationKey_iff`).
-/

namespace OrderDesk

open Json (Value)

/-! ## Keys as text -/

/-- **When two keys are the same text:** kind and order are, or the order of the one begins with what
the kind of the other goes on with. -/
theorem correlationKey_eq_iff {kind kind' id id' : String} (hk : ':' ∉ kind.toList) :
    correlationKey kind' id' = correlationKey kind id
      ↔ kind' = kind ∧ id' = id
        ∨ ∃ front, kind' = correlationKey kind front ∧ id = correlationKey front id' := by
  have hlist : ∀ kind id : String,
      (correlationKey kind id).toList = kind.toList ++ ':' :: id.toList := by
    intro kind id
    simp [correlationKey]
  simp only [← String.toList_inj, hlist]
  constructor
  · intro h
    rcases List.append_eq_append_iff.mp h with ⟨rest, hkind, hid⟩ | ⟨rest, hkind, hid⟩
    · -- the kind goes on behind the other one, but it has no colon
      rcases rest with _ | ⟨c, rest⟩
      · rw [List.append_nil] at hkind
        exact .inl ⟨hkind.symm, (List.cons.inj hid).2⟩
      · rw [List.cons_append, List.cons.injEq] at hid
        exact absurd (hkind ▸ List.mem_append_right _ (hid.1 ▸ List.mem_cons_self)) hk
    · rcases rest with _ | ⟨c, rest⟩
      · rw [List.append_nil] at hkind
        exact .inl ⟨hkind, (List.cons.inj hid).2.symm⟩
      · rw [List.cons_append, List.cons.injEq] at hid
        refine .inr ⟨String.ofList rest, ?_, ?_⟩
        · rw [hkind, ← hid.1, String.toList_ofList]
        · rw [hid.2, String.toList_ofList]
  · rintro (⟨hkind, hid⟩ | ⟨front, hkind, hid⟩)
    · rw [hkind, hid]
    · rw [hkind, hid, List.append_assoc, List.cons_append]

namespace ControlRequest

variable {r r' : ControlRequest}

theorem colon_notMem_kind : ∀ r : ControlRequest, ':' ∉ r.kind.toList
  | .cancel _ => show ':' ∉ "CancelOrder".toList by decide
  | .replace _ => show ':' ∉ "ReplaceOrder".toList by decide

/-- **A key tells the kind and the order of a request.** -/
theorem eq_of_correlationKey (h : r.correlationKey = r'.correlationKey) :
    r.kind = r'.kind ∧ r.orderId = r'.orderId := by
  rcases (correlationKey_eq_iff r'.colon_notMem_kind).mp h with heq | ⟨front, hkind, -⟩
  · exact heq
  · refine absurd ?_ r.colon_notMem_kind
    rw [hkind]
    simp [OrderDesk.correlationKey]

end ControlRequest

/-! ## Frames -/

namespace Response

variable {name kind id : String} {content : Value}

/-- **The names of a response** to a kind of request: the kind with `Response` behind it, or without,
unless it ends with `Response` itself. -/
def Names (kind name : String) : Prop :=
  name = kind ++ "Response" ∨ name = kind ∧ ¬ ∃ front, kind = front ++ "Response"

/-- **The order that a content is about:** its own order id, which must be a text, or if it has none
the one of its `response`. -/
inductive Embeds (content : Value) (id : String) : Prop
  | own (hid : content.get? "order_id" = some (.string id))
  | inner (response : Value) (hnone : content.get? "order_id" = none)
      (hresponse : content.get? "response" = some response)
      (hid : response.get? "order_id" = some (.string id))

theorem toList_append_response (front : String) :
    (front ++ "Response").toList = front.toList ++ suffix :=
  String.toList_append

/-- A text ends with `Response` if the suffix can be cut off it. -/
theorem isSuffixOf_iff : suffix.isSuffixOf name.toList = true ↔ ∃ front, name = front ++ "Response" := by
  rw [List.isSuffixOf_iff_suffix]
  constructor
  · rintro ⟨front, hfront⟩
    refine ⟨String.ofList front, ?_⟩
    rw [← String.toList_inj, toList_append_response, String.toList_ofList, hfront]
  · rintro ⟨front, rfl⟩
    exact ⟨front.toList, (toList_append_response front).symm⟩

/-- **One suffix is cut off a name,** if it has one. -/
theorem kind_eq_iff : Response.kind name = kind ↔ Names kind name := by
  have hcut : ∀ front : String, Response.kind (front ++ "Response") = front := by
    intro front
    have hlength : (front.toList ++ suffix).length - suffix.length = front.toList.length := by
      rw [List.length_append, Nat.add_sub_cancel]
    have hsuffix : suffix.isSuffixOf (front.toList ++ suffix) = true :=
      List.isSuffixOf_iff_suffix.mpr (List.suffix_append _ _)
    simp only [Response.kind, toList_append_response, if_pos hsuffix, hlength, List.take_left',
      String.ofList_toList]
  by_cases hname : ∃ front, name = front ++ "Response"
  · obtain ⟨front, rfl⟩ := hname
    rw [hcut]
    constructor
    · rintro rfl
      exact .inl rfl
    · rintro (h | ⟨rfl, hnone⟩)
      · simpa using h
      · exact absurd ⟨front, rfl⟩ hnone
  · have hwhole : Response.kind name = name := if_neg fun h => hname (isSuffixOf_iff.mp h)
    rw [hwhole]
    constructor
    · rintro rfl
      exact .inr ⟨rfl, hname⟩
    · rintro (h | ⟨h, -⟩)
      · exact absurd ⟨kind, h⟩ hname
      · exact h

theorem string?_eq_some_iff {v : Value} {s : String} : v.string? = some s ↔ v = .string s := by
  cases v <;> simp [Value.string?]

theorem orderId?_eq_some_iff : orderId? content = some id ↔ Embeds content id := by
  rw [orderId?]
  constructor
  · intro h
    split at h
    · next v hv => exact .own (hv.trans (congrArg some (string?_eq_some_iff.mp h)))
    · next hnone =>
      obtain ⟨v, hv, hs⟩ := Option.bind_eq_some_iff.mp h
      obtain ⟨response, hresponse, hid⟩ := Option.bind_eq_some_iff.mp hv
      exact .inner response hnone hresponse (hid.trans (congrArg some (string?_eq_some_iff.mp hs)))
  · rintro (hid | ⟨response, hnone, hresponse, hid⟩)
    · simp only [hid]
      rfl
    · simp only [hnone, hresponse, Option.bind_some, hid]
      rfl

end Response

/-- **A frame's key** is that of its only member's name and of the order that its content is about. -/
theorem responseKey_eq_some_iff {v : Value} {key : String} : responseKey v = some key
    ↔ ∃ name content id, v = .object [(name, content)] ∧ Response.Embeds content id
      ∧ correlationKey (Response.kind name) id = key := by
  constructor
  · intro h
    unfold responseKey at h
    split at h
    · next name content =>
      obtain ⟨id, hid, hkey⟩ := Option.map_eq_some_iff.mp h
      exact ⟨name, content, id, rfl, Response.orderId?_eq_some_iff.mp hid, hkey⟩
    · contradiction
  · rintro ⟨name, content, id, rfl, hid, hkey⟩
    exact Option.map_eq_some_iff.mpr ⟨id, Response.orderId?_eq_some_iff.mpr hid, hkey⟩

namespace ControlRequest

theorem not_isSuffixOf_kind : ∀ r : ControlRequest, ¬ Response.suffix.isSuffixOf r.kind.toList = true
  | .cancel _ => show ¬ Response.suffix.isSuffixOf "CancelOrder".toList = true by decide
  | .replace _ => show ¬ Response.suffix.isSuffixOf "ReplaceOrder".toList = true by decide

/-- **Which frames carry the key of a request:** an object with one member, which is named after the
kind and whose content is about the order; or which is named after the kind, a colon and the front of
an order id that has a colon, and whose content is about the back of it. -/
theorem responseKey_eq_correlationKey_iff (r : ControlRequest) (v : Value) :
    responseKey v = some r.correlationKey
      ↔ ∃ name content id, v = .object [(name, content)] ∧ Response.Embeds content id
        ∧ ((name = r.kind ++ "Response" ∨ name = r.kind) ∧ id = r.orderId
          ∨ ∃ front, Response.Names (r.kind ++ ":" ++ front) name
            ∧ r.orderId = front ++ ":" ++ id) := by
  have hplain : ∀ name, Response.kind name = r.kind
      ↔ name = r.kind ++ "Response" ∨ name = r.kind := by
    intro name
    have hkind : ¬ ∃ front, r.kind = front ++ "Response" :=
      fun h => r.not_isSuffixOf_kind (Response.isSuffixOf_iff.mpr h)
    rw [Response.kind_eq_iff, Response.Names, and_iff_left hkind]
  rw [responseKey_eq_some_iff]
  refine exists_congr fun name => exists_congr fun content => exists_congr fun id =>
    and_congr_right fun _ => and_congr_right fun _ => ?_
  rw [correlationKey, correlationKey_eq_iff r.colon_notMem_kind, hplain]
  exact or_congr_right (exists_congr fun front => and_congr_left fun _ => Response.kind_eq_iff)

/-- **Not only a response to a request carries its key:** so does a frame that is named after the kind
alone, and one that is about the order `b` where the request is about `a:b`. -/
theorem not_responseKey_own :
    (¬ ∀ (r : ControlRequest) (v : Value), responseKey v = some r.correlationKey →
      ∃ content, v = .object [(r.kind ++ "Response", content)])
    ∧ ¬ ∀ (r : ControlRequest) (v : Value), responseKey v = some r.correlationKey →
      ∃ name content, v = .object [(name, content)] ∧ Response.Embeds content r.orderId := by
  constructor
  · intro h
    obtain ⟨content, hv⟩ := h (.cancel ⟨⟨"x", .index 0, ⟨.zero⟩⟩, [], 0⟩)
      (.tagged "CancelOrder" (.object [("order_id", .string "x")])) (by decide)
    simp [Value.tagged, kind] at hv
  · intro h
    obtain ⟨name, content, hv, hid⟩ := h (.cancel ⟨⟨"a:b", .index 0, ⟨.zero⟩⟩, [], 0⟩)
      (.tagged "CancelOrder:aResponse" (.object [("order_id", .string "b")])) (by decide)
    simp only [Value.tagged, Value.object.injEq, List.cons.injEq, Prod.mk.injEq, and_true] at hv
    obtain ⟨-, rfl⟩ := hv
    rcases hid with hid | ⟨response, hnone, -, -⟩
    · simp [Value.get?, orderId] at hid
    · simp [Value.get?] at hnone

end ControlRequest

end OrderDesk
