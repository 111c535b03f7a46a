import OrderDesk.Order.Request

/-!
# Order/Response — the request that a response answers

A response is an object with a single member.  Its name is the kind of the request, with or without
`Response` behind it; the order id is a text in its content, or one level deeper in the content's
`response`.  `responseKey` builds from both the key under which the request waits.
-/

namespace OrderDesk

open Json (Value)

namespace Response

/-- What stands behind the kind in the name of a response. -/
def suffix : List Char := ['R', 'e', 's', 'p', 'o', 'n', 's', 'e']

/-- The kind of request that a response with a name answers: the name without one suffix. -/
def kind (name : String) : String :=
  let cs := name.toList
  if suffix.isSuffixOf cs then String.ofList (cs.take (cs.length - suffix.length)) else name

/-- The order that the content of a response is about. -/
def orderId? (content : Value) : Option String :=
  match content.get? "order_id" with
  | some id => id.string?
  | none => ((content.get? "response").bind (·.get? "order_id")).bind Value.string?

end Response

/-- **The key of the request that a frame answers**, if it is a response. -/
def responseKey : Value → Option String
  | .object [(name, content)] =>
    (Response.orderId? content).map (correlationKey (Response.kind name))
  | _ => none

end OrderDesk
