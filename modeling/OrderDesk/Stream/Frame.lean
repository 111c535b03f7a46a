import OrderDesk.Bytes
import OrderDesk.Json.Codec

/-!
# Stream/Frame — control frames and data frames

A frame is a JSON document.  An object whose `type` is `subscriptions`, `ping` or `pong` belongs to
the connection itself; every other document is data.  What is no JSON is no frame.
-/

namespace OrderDesk

open Json (Value Fault Origin Document Codec)

/-- A message about the connection. -/
inductive ControlMessage where
  /-- The service confirms what the connection is subscribed to. -/
  | subscriptions (fields : List (String × Value))
  | ping
  | pong

namespace ControlMessage

/-- Whether it confirms subscriptions. -/
def isSubscriptions : ControlMessage → Bool
  | subscriptions _ => true
  | _ => false

/-- Whether it asks for a pong. -/
def isPing : ControlMessage → Bool
  | ping => true
  | _ => false

/-- Whether it answers a ping. -/
def isPong : ControlMessage → Bool
  | pong => true
  | _ => false

/-- The member that tells control messages apart. -/
def tagName : String := "type"

/-- The tags of control messages. -/
def tags : List String := ["subscriptions", "ping", "pong"]

/-- A message as an object: the tag, and the fields of a confirmation behind it. -/
def toValue : ControlMessage → Value
  | subscriptions fields => .object ((tagName, .string "subscriptions") :: fields)
  | ping => .object [(tagName, .string "ping")]
  | pong => .object [(tagName, .string "pong")]

/-- The message that a tag and the other members give. -/
def ofTag? (tag : String) (fields : List (String × Value)) : Option ControlMessage :=
  if tag = "subscriptions" then some (subscriptions fields)
  else if tag = "ping" then some ping
  else if tag = "pong" then some pong
  else none

/-- The message that an object's members give, if one of them is a tag. -/
def ofMembers? (members : List (String × Value)) : Option ControlMessage :=
  match members.lookup tagName with
  | some (.string tag) => ofTag? tag (members.filter (·.1 != tagName))
  | _ => none

/-- A message without fields, alone in an array. -/
def ofTagAlone? (tag : String) : Option ControlMessage :=
  if tag = "ping" then some ping else if tag = "pong" then some pong else none

/-- **Reading.**  The tag may stand anywhere among the members, but only once. -/
def decode (_ : Origin) (d : Document) : Except Fault ControlMessage :=
  let message := match d with
    | .object ds =>
      if ds.countP (·.1 == some tagName) = 1 then
        match d.toValue? with
        | some (.object members) => ofMembers? members
        | _ => none
      else none
    | .array [.string tag] => ofTagAlone? tag
    | _ => none
  match message with
  | some m => .ok m
  | none => .error .unreadable

/-- A control message in JSON. -/
def codec : Codec ControlMessage := ⟨toValue, decode⟩

end ControlMessage

/-- A frame. -/
inductive Frame where
  | control (message : ControlMessage)
  | data (value : Value)

namespace Frame

/-- Whether a document is tagged as a control message. -/
def isTagged (v : Value) : Bool :=
  match (v.get? ControlMessage.tagName).bind Value.string? with
  | some tag => ControlMessage.tags.contains tag
  | none => false

/-- The frame that a document is. -/
def ofValue (v : Value) : Option Frame :=
  if isTagged v then (ControlMessage.codec.ofValue v).toOption.map control else some (data v)

/-- The document that a payload holds. -/
def document? (payload : List UInt8) : Option Value := (Bytes.toString? payload).bind Value.parse?

/-- **The frame that a payload holds**; nothing if it is malformed. -/
def classify (payload : List UInt8) : Option Frame := (document? payload).bind ofValue

end Frame

end OrderDesk
