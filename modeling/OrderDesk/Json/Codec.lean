import OrderDesk.Json.Document

/-!
# Json/Codec — how a type is written as JSON and read from it

A codec pairs the one way a type is written with all the ways it is read.  A document is read where
it stands: members in the order of the text, so that of two faults the earlier one is reported.
Records are put together from fields (`Fields`), alternatives from variants (`Variant`).
-/

namespace OrderDesk.Json

/-- Why a document does not give a value of a type. -/
inductive Fault where
  /-- The text is no JSON, or its shape is not the type's. -/
  | unreadable
  /-- The shape fits, but the type does not take the value, for the reason given. -/
  | refused (reason : String)
deriving DecidableEq, Repr

/-- Where a document comes from: a text, or a free value that was read before. -/
inductive Origin where
  | text
  | value
deriving DecidableEq, Repr

/-- **A codec.** -/
structure Codec (α : Type) where
  /-- The value that is written. -/
  encode : α → Value
  /-- What a document says. -/
  decode : Origin → Document → Except Fault α

namespace Codec

variable {α β : Type}

/-- The compact JSON text of a value. -/
def write (c : Codec α) (a : α) : String := (c.encode a).render

/-- What a reading says, if nothing follows in its text. -/
def ofReading (c : Codec α) (reading : Reading) : Except Fault α :=
  match c.decode .text reading.document with
  | .ok a => if reading.complete then .ok a else .error .unreadable
  | .error e => .error e

/-- What a text says. -/
def read (c : Codec α) (text : String) : Except Fault α := c.ofReading (Document.read text)

/-- What a text says, read from its bytes. -/
def readBytes (c : Codec α) (bytes : List UInt8) : Except Fault α :=
  c.ofReading (Document.readBytes bytes)

/-- What a free value says. -/
def ofValue (c : Codec α) (v : Value) : Except Fault α := c.decode .value (.ofValue v)

/-! ## Single values -/

/-- A text. -/
def string : Codec String where
  encode := .string
  decode _ d := match d with
    | .string s => .ok s
    | _ => .error .unreadable

/-- A truth value. -/
def bool : Codec Bool where
  encode := .bool
  decode _ d := match d with
    | .bool b => .ok b
    | _ => .error .unreadable

/-- An integer within bounds, written in decimal. -/
def integer (low high : Int) (toInt : α → Int) (ofInt : Int → α) : Codec α where
  encode a := .int (toInt a)
  decode _ d := match d with
    | .number (.int z) => if low ≤ z ∧ z < high then .ok (ofInt z) else .error .unreadable
    | _ => .error .unreadable

/-- A byte. -/
def byte : Codec UInt8 := integer 0 (Int.pow 2 8) (fun b => b.toNat) (fun z => .ofNat z.toNat)

/-- An unsigned 64-bit integer. -/
def word : Codec UInt64 := integer 0 (Int.pow 2 64) (fun w => w.toNat) (fun z => .ofNat z.toNat)

/-- A signed 8-bit integer. -/
def int8 : Codec Int8 := integer (-(Int.pow 2 7)) (Int.pow 2 7) Int8.toInt .ofInt

/-- A signed 64-bit integer. -/
def int64 : Codec Int64 := integer (-(Int.pow 2 63)) (Int.pow 2 63) Int64.toInt .ofInt

/-- Any value, kept as a free value. -/
def free : Codec Value where
  encode := id
  decode _ d := match d.toValue? with
    | some v => .ok v
    | none => .error .unreadable

/-! ## Several values -/

/-- The items of an array, each read by itself, up to the first fault. -/
def readAll (read : Document → Except Fault α) : List Document → Except Fault (List α)
  | [] => .ok []
  | d :: ds =>
    match read d with
    | .error e => .error e
    | .ok a =>
      match readAll read ds with
      | .error e => .error e
      | .ok as => .ok (a :: as)

/-- A list, as an array. -/
def list (c : Codec α) : Codec (List α) where
  encode as := .array (as.map c.encode)
  decode o d := match d with
    | .array ds => readAll (c.decode o) ds
    | _ => .error .unreadable

/-- A value that may be missing, written as `null`. -/
def optional (c : Codec α) : Codec (Option α) where
  encode
    | none => .null
    | some a => c.encode a
  decode o d := match d with
    | .null => .ok none
    | d => (c.decode o d).map some

/-- A type that is written and read through another one. -/
def via (c : Codec β) (toOther : α → β) (ofOther : β → Except Fault α) : Codec α where
  encode a := c.encode (toOther a)
  decode o d := (c.decode o d).bind ofOther

end Codec

/-! ## Records -/

/-- **The fields of a record** of type `ρ`.  Members of an object are taken one after the other into
slots of type `σ`, and full slots give an `α`; the items of an array are taken in the declared
order. -/
structure Fields (ρ σ α : Type) where
  /-- The members as they are written. -/
  write : ρ → List (String × Value)
  /-- The slots before the first member. -/
  empty : σ
  /-- What a member with a name does to the slots; nothing if there is no such field. -/
  take? : String → Option (Origin → Document → σ → Except Fault σ)
  /-- What the slots give after the last member. -/
  finish : σ → Except Fault α
  /-- What the first items of an array give, with the items that are left. -/
  inOrder : Origin → List Document → Except Fault (α × List Document)

namespace Fields

variable {ρ σ τ α β : Type}

/-- One field.  `absent` is its value when an object has no such member, `short` its value when an
array ends before it; without one the record is incomplete. -/
def single (name : String) (get : ρ → α) (c : Codec α) (absent short : Option α) :
    Fields ρ (Option α) α where
  write r := [(name, c.encode (get r))]
  empty := none
  take? key :=
    if key = name then
      some fun o d slot =>
        match slot with
        | some _ => .error .unreadable
        | none => (c.decode o d).map some
    else none
  finish slot := match slot.or absent with
    | some a => .ok a
    | none => .error .unreadable
  inOrder o ds := match ds with
    | d :: ds => (c.decode o d).map (·, ds)
    | [] => match short with
      | some a => .ok (a, [])
      | none => .error .unreadable

/-- A field that must be there. -/
def required (name : String) (get : ρ → α) (c : Codec α) : Fields ρ (Option α) α :=
  single name get c none none

/-- A field that may be missing from an object, but not from an array. -/
def optional (name : String) (get : ρ → Option α) (c : Codec α) :
    Fields ρ (Option (Option α)) (Option α) :=
  single name get c.optional (some none) none

/-- A field that has a value when it is missing. -/
def defaulted (name : String) (get : ρ → α) (c : Codec α) (value : α) : Fields ρ (Option α) α :=
  single name get c (some value) (some value)

/-- The fields of two parts of a record, one part after the other. -/
def and (f : Fields ρ σ α) (g : Fields ρ τ β) : Fields ρ (σ × τ) (α × β) where
  write r := f.write r ++ g.write r
  empty := (f.empty, g.empty)
  take? key :=
    match f.take? key with
    | some take => some fun o d (s, t) => (take o d s).map (·, t)
    | none => (g.take? key).map fun take o d (s, t) => (take o d t).map (s, ·)
  finish := fun (s, t) => do return (← f.finish s, ← g.finish t)
  inOrder o ds := do
    let (a, ds) ← f.inOrder o ds
    let (b, ds) ← g.inOrder o ds
    return ((a, b), ds)

/-- Members taken one after the other; a member that is no field is passed over, but every name is
read. -/
def gather (f : Fields ρ σ α) (o : Origin) : List (Option String × Document) → σ → Except Fault σ
  | [], s => .ok s
  | (none, _) :: _, _ => .error .unreadable
  | (some key, d) :: ms, s =>
    match f.take? key with
    | some take =>
      match take o d s with
      | .ok s => f.gather o ms s
      | .error e => .error e
    | none => if d.isWhole then f.gather o ms s else .error .unreadable

/-- **A record**, written as an object and read from an object or from an array of its fields. -/
def codec (f : Fields ρ σ α) (build : α → ρ) : Codec ρ where
  encode r := .object (f.write r)
  decode o d := match d with
    | .object ms => ((f.gather o ms f.empty).bind f.finish).map build
    | .array ds => (f.inOrder o ds).bind fun (a, rest) =>
      if rest.isEmpty then .ok (build a) else .error .unreadable
    | _ => .error .unreadable

end Fields

/-! ## Alternatives -/

/-- One of several alternatives, known by its tag. -/
structure Variant (α : Type) where
  /-- The tags by which it is known. -/
  tags : List String
  /-- What the tag alone says, if it may stand alone. -/
  alone : Option α
  /-- What the tag says with a content. -/
  content : Origin → Document → Except Fault α

namespace Variant

variable {α β : Type}

/-- An alternative without content; a content of `null` is none. -/
def plain (tags : List String) (a : α) : Variant α where
  tags := tags
  alone := some a
  content _ d := match d with
    | .null => .ok a
    | _ => .error .unreadable

/-- An alternative with a content. -/
def holding (tag : String) (c : Codec β) (make : β → α) : Variant α where
  tags := [tag]
  alone := none
  content o d := (c.decode o d).map make

/-- An alternative with fields of its own; from a free value they are read by name only. -/
def fields (tag : String) (c : Codec β) (make : β → α) : Variant α where
  tags := [tag]
  alone := none
  content o d := match o, d with
    | .value, .array _ => .error .unreadable
    | o, d => (c.decode o d).map make

/-- The alternative that a tag names. -/
def find? (variants : List (Variant α)) (tag : String) : Except Fault (Variant α) :=
  match variants.find? (·.tags.contains tag) with
  | some v => .ok v
  | none => .error .unreadable

/-- **Reading alternatives:** a tag alone, or an object whose single member is named by the tag.  In
a text the content is read before a second member is seen. -/
def decode (variants : List (Variant α)) (o : Origin) : Document → Except Fault α
  | .string tag => (find? variants tag).bind fun v =>
    match v.alone with
    | some a => .ok a
    | none => .error .unreadable
  | .object ((some tag, d) :: more) =>
    match o, more with
    | .value, _ :: _ => .error .unreadable
    | _, _ => (find? variants tag).bind fun v => (v.content o d).bind fun a =>
      if more.isEmpty then .ok a else .error .unreadable
  | _ => .error .unreadable

end Variant

/-- An object with a single member, which tags its content. -/
def Value.tagged (tag : String) (content : Value) : Value := .object [(tag, content)]

end OrderDesk.Json
