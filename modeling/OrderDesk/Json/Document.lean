import OrderDesk.Json.Token

/-!
# Json/Document — what a JSON text says, faults included

A document is a JSON value as it was written: members keep their order and their repetitions, and an
integer its size.  Two marks stand where the text is at fault.  `unreadable` marks a part that is well
formed but has no value — a string that says nothing, a number beyond every double, an array or
object inside 127 others; it can be passed over, and so can a member whose name says nothing.  `cut`
marks the place where the text stops being JSON; nothing can be said behind it.

`Document.ofTokens` is a machine that runs over the lexemes with the stack of open arrays and
objects.  `Document.toValue?` reads a document as a free value: no faults, members sorted by name, of
repeated members the last, and integers beyond 64 bits as doubles.
-/

namespace OrderDesk.Json

/-- A JSON text as it was written.  A member without a name has one that says nothing. -/
inductive Document where
  | null
  | bool (b : Bool)
  | number (n : Number)
  | string (s : String)
  | array (items : List Document)
  | object (members : List (Option String × Document))
  | unreadable
  | cut
deriving Repr, Inhabited

/-- A document, and whether nothing follows it in the text. -/
structure Reading where
  /-- What the text says. -/
  document : Document
  /-- Whether the text ends with the document. -/
  complete : Bool
deriving Repr, Inhabited

namespace Document

/-! ## From lexemes -/

/-- An array or object that is still open, with what it holds so far, the newest first. -/
inductive Frame where
  | array (items : List Document)
  | object (members : List (Option String × Document)) (key : Option String)

/-- What may come next. -/
inductive Awaiting where
  /-- A value. -/
  | value
  /-- A value, or the end of an empty array. -/
  | firstItem
  /-- A member's name, or the end of an empty object. -/
  | firstKey
  /-- A member's name. -/
  | key (members : List (Option String × Document))
  /-- The colon behind a member's name. -/
  | colon (members : List (Option String × Document)) (key : Option String)
  /-- A comma or the end of what is open, behind a value. -/
  | separator (value : Document)

/-- What is open, ended where the text stops being JSON. -/
def cutOff (stack : List Frame) : Document :=
  stack.foldl (fun inner frame =>
    match frame with
    | .array items => .array (inner :: items).reverse
    | .object members key => .object ((key, inner) :: members).reverse) .cut

/-- What is open, cut where a member should begin. -/
def cutMember (members : List (Option String × Document)) (stack : List Frame) : Document :=
  cutOff (.object members none :: stack)

/-- How many arrays and objects may stand inside each other. -/
def maxDepth : Nat := 127

/-- A closed array or object with what is open around it: it can be read if it is not nested too
deeply. -/
def closed (value : Document) (stack : List Frame) : Document :=
  if (stack.drop (maxDepth - 1)).isEmpty then value else .unreadable

/-- What a number lexeme says. -/
def ofLiteral (l : Literal) : Document :=
  match l.toInt? with
  | some z => .number (.int z)
  | none =>
    match l.toBinary64? with
    | some x => .number (.float x)
    | none => .unreadable

/-- The document that one lexeme is, unless it opens or punctuates. -/
def ofToken? : Token → Option Document
  | .null => some .null
  | .bool b => some (.bool b)
  | .number l => some (ofLiteral l)
  | .string (some s) => some (.string s)
  | .string none => some .unreadable
  | _ => none

/-- One step of the machine: on to the next lexeme, or the end of the reading. -/
inductive Step where
  | next (awaiting : Awaiting) (stack : List Frame)
  | stop (reading : Reading)

/-- An array or object is closed. -/
def Step.close (value : Document) (stack : List Frame) : Step :=
  .next (.separator (closed value stack)) stack

/-- The lexeme does not fit. -/
def Step.fail (stack : List Frame) : Step := .stop ⟨cutOff stack, true⟩

/-- A value begins. -/
def Step.begin (t : Token) (stack : List Frame) : Step :=
  match t with
  | .openBracket => .next .firstItem stack
  | .openBrace => .next .firstKey stack
  | t =>
    match ofToken? t with
    | some v => .next (.separator v) stack
    | none => .fail stack

/-- What a lexeme does, by what is awaited and what is open. -/
def step (t : Token) : Awaiting → List Frame → Step
  | .value, stack => .begin t stack
  | .firstItem, stack =>
    if t = .closeBracket then .close (.array []) stack else .begin t (.array [] :: stack)
  | .firstKey, stack =>
    match t with
    | .closeBrace => .close (.object []) stack
    | .string key => .next (.colon [] key) stack
    | _ => .stop ⟨cutMember [] stack, true⟩
  | .key members, stack =>
    match t with
    | .string key => .next (.colon members key) stack
    | _ => .stop ⟨cutMember members stack, true⟩
  | .colon members key, stack =>
    match t with
    | .colon => .next .value (.object members key :: stack)
    | _ => .stop ⟨cutMember members stack, true⟩
  | .separator v, [] => .stop ⟨v, false⟩
  | .separator v, .array items :: stack =>
    match t with
    | .comma => .next .value (.array (v :: items) :: stack)
    | .closeBracket => .close (.array (v :: items).reverse) stack
    | _ => .fail (.array (v :: items) :: stack)
  | .separator v, .object members key :: stack =>
    match t with
    | .comma => .next (.key ((key, v) :: members)) stack
    | .closeBrace => .close (.object ((key, v) :: members).reverse) stack
    | _ => .stop ⟨cutMember ((key, v) :: members) stack, true⟩

/-- The reading when the lexemes are at an end. -/
def finish : Awaiting → List Frame → Reading
  | .separator v, [] => ⟨v, true⟩
  | .separator v, .array items :: stack => ⟨cutOff (.array (v :: items) :: stack), true⟩
  | .separator v, .object members key :: stack => ⟨cutMember ((key, v) :: members) stack, true⟩
  | .value, stack => ⟨cutOff stack, true⟩
  | .firstItem, stack => ⟨cutOff (.array [] :: stack), true⟩
  | .firstKey, stack => ⟨cutMember [] stack, true⟩
  | .key members, stack => ⟨cutMember members stack, true⟩
  | .colon members _, stack => ⟨cutMember members stack, true⟩

/-- **The machine.**  It runs over the lexemes with what it awaits and the stack of what is open. -/
def run : List Token → Awaiting → List Frame → Reading
  | [], awaiting, stack => finish awaiting stack
  | t :: ts, awaiting, stack =>
    match step t awaiting stack with
    | .next awaiting stack => run ts awaiting stack
    | .stop reading => reading

/-- What lexemes say. -/
def ofTokens (ts : List Token) : Reading := run ts .value []

/-- **Reading a text.** -/
def read (text : String) : Reading := ofTokens (tokens textOf? text.toList)

/-- **Reading a text from its bytes.**  Bytes that are no UTF-8 are a fault only in what is read. -/
def readBytes (bytes : List UInt8) : Reading :=
  ofTokens (tokens textOfBytes? (bytes.map fun b => Char.ofNat b.toNat))

/-! ## Passing over a part -/

mutual

/-- Whether a part can be passed over: the text is JSON throughout. -/
def isWhole : Document → Bool
  | .cut => false
  | .array items => allWhole items
  | .object members => membersWhole members
  | _ => true

/-- Whether all items can be passed over. -/
def allWhole : List Document → Bool
  | [] => true
  | d :: ds => d.isWhole && allWhole ds

/-- Whether all members can be passed over. -/
def membersWhole : List (Option String × Document) → Bool
  | [] => true
  | (_, d) :: ms => d.isWhole && membersWhole ms

end

/-! ## Free values -/

/-- An integer as a free value holds it: within 64 bits as it is, beyond as the double that its
digits denote. -/
def freeNumber? : Number → Option Number
  | .float x => some (.float x)
  | .int z =>
    if -(Int.pow 2 63) ≤ z ∧ z < Int.pow 2 64 then some (.int z)
    else (Literal.ofInt z).toBinary64?.map .float

/-- A member put into its place among members that are sorted by name; it takes the place of one
with the same name. -/
def insertMember (key : String) (v : Value) : List (String × Value) → List (String × Value)
  | [] => [(key, v)]
  | (k, w) :: ms =>
    if key = k then (key, v) :: ms
    else if key < k then (key, v) :: (k, w) :: ms
    else (k, w) :: insertMember key v ms

mutual

/-- **A document as a free value.** -/
def toValue? : Document → Option Value
  | .null => some .null
  | .bool b => some (.bool b)
  | .number n => (freeNumber? n).map .number
  | .string s => some (.string s)
  | .array items => (itemsToValues? items).map .array
  | .object members => (membersToValues? [] members).map .object
  | .unreadable => none
  | .cut => none

/-- The items of an array as free values. -/
def itemsToValues? : List Document → Option (List Value)
  | [] => some []
  | d :: ds =>
    match d.toValue?, itemsToValues? ds with
    | some v, some vs => some (v :: vs)
    | _, _ => none

/-- The members of an object as free values, put into their places one after the other. -/
def membersToValues? (sorted : List (String × Value)) :
    List (Option String × Document) → Option (List (String × Value))
  | [] => some sorted
  | (none, _) :: _ => none
  | (some k, d) :: ms =>
    match d.toValue? with
    | some v => membersToValues? (insertMember k v sorted) ms
    | none => none

end

mutual

/-- A value as a document. -/
def ofValue : Value → Document
  | .null => .null
  | .bool b => .bool b
  | .number n => .number n
  | .string s => .string s
  | .array items => .array (ofItems items)
  | .object members => .object (ofMembers members)

/-- The items of an array as documents. -/
def ofItems : List Value → List Document
  | [] => []
  | v :: vs => ofValue v :: ofItems vs

/-- The members of an object as documents. -/
def ofMembers : List (String × Value) → List (Option String × Document)
  | [] => []
  | (k, v) :: ms => (some k, ofValue v) :: ofMembers ms

end

end Document

namespace Value

/-- **A text as a free value**, if it is JSON and nothing follows. -/
def parse? (text : String) : Option Value :=
  let reading := Document.read text
  match reading.document.toValue? with
  | some v => if reading.complete then some v else none
  | none => none

/-- A value as a free value: members sorted, numbers within range. -/
def free? (v : Value) : Option Value := (Document.ofValue v).toValue?

/-- Member of an object in alphabetical order, from members given in any order. -/
def sorted (members : List (String × Value)) : Value :=
  .object (members.foldl (fun ms (k, v) => Document.insertMember k v ms) [])

end Value

end OrderDesk.Json
