import OrderDesk.Proofs.Json.Lexemes
import OrderDesk.Proofs.Json.Machine

/-!
# Proofs/Json/Reading — what a compact text reads as

    v ──render──▸ text ──read──▸ v.within 127

A value without doubles is read as a phrase (`Value.exists_phrase`), so that the machine comes back
with the value itself, except for the parts that stand too deep: these it passes over (`read_render`).
The value reads back from its text if it nests at most 127 arrays and objects (`read_render_of_depth`),
and a deeper one is refused by every reader of free values (`parse?_render_of_deep`).
-/

namespace OrderDesk.Json

/-! ## Depth -/

mutual

/-- How many arrays and objects of a value stand inside each other. -/
def Value.depth : Value → Nat
  | .array items => itemsDepth items + 1
  | .object members => membersDepth members + 1
  | _ => 0

/-- The depth of the deepest of some items. -/
def itemsDepth : List Value → Nat
  | [] => 0
  | v :: vs => max v.depth (itemsDepth vs)

/-- The depth of the deepest of some members. -/
def membersDepth : List (String × Value) → Nat
  | [] => 0
  | (_, v) :: ms => max v.depth (membersDepth ms)

end

mutual

/-- A value as a document, where no array or object is read that has no room: each takes one place
and leaves the others to what stands inside it. -/
def Value.within : Value → Nat → Document
  | .null, _ => .null
  | .bool b, _ => .bool b
  | .number n, _ => .number n
  | .string s, _ => .string s
  | .array _, 0 => .unreadable
  | .array items, room + 1 => .array (itemsWithin items room)
  | .object _, 0 => .unreadable
  | .object members, room + 1 => .object (membersWithin members room)

/-- Items as documents. -/
def itemsWithin : List Value → Nat → List Document
  | [], _ => []
  | v :: vs, room => v.within room :: itemsWithin vs room

/-- Members as documents. -/
def membersWithin : List (String × Value) → Nat → List (Option String × Document)
  | [], _ => []
  | (k, v) :: ms, room => (some k, v.within room) :: membersWithin ms room

end

mutual

/-- With room enough every part is read. -/
theorem Value.within_of_depth_le : ∀ (v : Value) (room : Nat), v.depth ≤ room →
    v.within room = .ofValue v
  | .null, room, _ => by rw [Value.within, Document.ofValue]
  | .bool b, room, _ => by rw [Value.within, Document.ofValue]
  | .number n, room, _ => by rw [Value.within, Document.ofValue]
  | .string s, room, _ => by rw [Value.within, Document.ofValue]
  | .array items, room, h => by
      obtain ⟨room, rfl⟩ := Nat.exists_eq_add_of_le' (Nat.le_of_add_left_le h)
      rw [Value.depth] at h
      rw [Value.within, Document.ofValue, itemsWithin_of_depth_le items room (by omega)]
  | .object members, room, h => by
      obtain ⟨room, rfl⟩ := Nat.exists_eq_add_of_le' (Nat.le_of_add_left_le h)
      rw [Value.depth] at h
      rw [Value.within, Document.ofValue, membersWithin_of_depth_le members room (by omega)]

theorem itemsWithin_of_depth_le : ∀ (vs : List Value) (room : Nat), itemsDepth vs ≤ room →
    itemsWithin vs room = Document.ofItems vs
  | [], room, _ => by rw [itemsWithin, Document.ofItems]
  | v :: vs, room, h => by
      rw [itemsDepth] at h
      rw [itemsWithin, Document.ofItems, Value.within_of_depth_le v room (by omega),
        itemsWithin_of_depth_le vs room (by omega)]

theorem membersWithin_of_depth_le : ∀ (ms : List (String × Value)) (room : Nat),
    membersDepth ms ≤ room → membersWithin ms room = Document.ofMembers ms
  | [], room, _ => by rw [membersWithin, Document.ofMembers]
  | (k, v) :: ms, room, h => by
      rw [membersDepth] at h
      rw [membersWithin, Document.ofMembers, Value.within_of_depth_le v room (by omega),
        membersWithin_of_depth_le ms room (by omega)]

end

mutual

/-- **Without room enough the document is no free value.** -/
theorem Value.toValue?_within : ∀ (v : Value) (room : Nat), room < v.depth →
    (v.within room).toValue? = none
  | .null, _, h | .bool _, _, h | .number _, _, h | .string _, _, h => by simp [Value.depth] at h
  | .array items, 0, _ => by rw [Value.within, Document.toValue?]
  | .object members, 0, _ => by rw [Value.within, Document.toValue?]
  | .array items, room + 1, h => by
      rw [Value.depth] at h
      rw [Value.within, Document.toValue?, itemsToValues?_itemsWithin items room (by omega),
        Option.map_none]
  | .object members, room + 1, h => by
      rw [Value.depth] at h
      rw [Value.within, Document.toValue?, membersToValues?_membersWithin members room [] (by omega),
        Option.map_none]

theorem itemsToValues?_itemsWithin : ∀ (vs : List Value) (room : Nat), room < itemsDepth vs →
    Document.itemsToValues? (itemsWithin vs room) = none
  | [], _, h => by simp [itemsDepth] at h
  | v :: vs, room, h => by
      rw [itemsDepth] at h
      have h' : room < v.depth ∨ room < itemsDepth vs := by omega
      rw [itemsWithin]
      exact Document.itemsToValues?_cons_eq_none
        (h'.imp (Value.toValue?_within v room) (itemsToValues?_itemsWithin vs room))

theorem membersToValues?_membersWithin : ∀ (ms : List (String × Value)) (room : Nat)
    (sorted : List (String × Value)), room < membersDepth ms →
    Document.membersToValues? sorted (membersWithin ms room) = none
  | [], _, _, h => by simp [membersDepth] at h
  | (k, v) :: ms, room, sorted, h => by
      rw [membersDepth] at h
      have h' : room < v.depth ∨ room < membersDepth ms := by omega
      rw [membersWithin]
      exact Document.membersToValues?_cons_eq_none
        (h'.imp (Value.toValue?_within v room)
          fun h sorted => membersToValues?_membersWithin ms room sorted h)

end

/-! ## A value is read as a phrase -/

namespace Document

theorem ofLiteral_ofInt (z : Int) : ofLiteral (.ofInt z) = .number (.int z) := by
  have h : (Literal.ofInt z).toInt? = some z := by
    rw [Literal.ofInt, Literal.toInt?]
    simp only [Nat.ofDigitChars_ten_toDigits, decide_eq_true_eq]
    split
    next hz => rw [if_neg (by omega)]; congr 1; omega
    next hz => congr 1; omega
  rw [ofLiteral, h]

end Document

mutual

/-- **A value is read as a phrase:** one with the same lexemes and the same documents. -/
theorem Value.exists_phrase : ∀ v : Value, v.hasDouble = false →
    ∃ p : Phrase, p.lexemes = v.lexemes ∧ ∀ room, p.within room = v.within room
  | .null, _ => ⟨.null, rfl, fun _ => rfl⟩
  | .bool b, _ => ⟨.bool b, rfl, fun _ => rfl⟩
  | .number (.int z), _ => ⟨.number (.ofInt z), rfl, fun _ => Document.ofLiteral_ofInt z⟩
  | .number (.float _), h => by simp [Value.hasDouble] at h
  | .string s, _ => ⟨.string (some s), rfl, fun _ => rfl⟩
  | .array [], _ => ⟨.array [], rfl, fun room => by cases room <;> rfl⟩
  | .array (v :: vs), h => by
      simp only [Value.hasDouble, anyDouble, Bool.or_eq_false_iff] at h
      obtain ⟨p, hp, hpw⟩ := Value.exists_phrase v h.1
      obtain ⟨ps, hps, hpsw⟩ := exists_itemPhrases vs h.2
      refine ⟨.array (p :: ps), by simp [Phrase.lexemes, Value.lexemes, hp, hps], fun room => ?_⟩
      cases room with
      | zero => rfl
      | succ room => simp [Phrase.within, Phrase.itemsWithin, Value.within, itemsWithin, hpw, hpsw]
  | .object [], _ => ⟨.object [], rfl, fun room => by cases room <;> rfl⟩
  | .object ((k, v) :: ms), h => by
      simp only [Value.hasDouble, anyDoubleMember, Bool.or_eq_false_iff] at h
      obtain ⟨p, hp, hpw⟩ := Value.exists_phrase v h.1
      obtain ⟨us, hus, husw⟩ := exists_memberPhrases ms h.2
      refine ⟨.object ((some k, p) :: us), by simp [Phrase.lexemes, Value.lexemes, hp, hus],
        fun room => ?_⟩
      cases room with
      | zero => rfl
      | succ room =>
        simp [Phrase.within, Phrase.membersWithin, Value.within, membersWithin, hpw, husw]

theorem exists_itemPhrases : ∀ vs : List Value, anyDouble vs = false →
    ∃ ps, Phrase.itemLexemes ps = itemLexemes vs
      ∧ ∀ room, Phrase.itemsWithin ps room = itemsWithin vs room
  | [], _ => ⟨[], rfl, fun _ => rfl⟩
  | v :: vs, h => by
      simp only [anyDouble, Bool.or_eq_false_iff] at h
      obtain ⟨p, hp, hpw⟩ := Value.exists_phrase v h.1
      obtain ⟨ps, hps, hpsw⟩ := exists_itemPhrases vs h.2
      exact ⟨p :: ps, by simp [Phrase.itemLexemes, itemLexemes, hp, hps],
        fun room => by rw [Phrase.itemsWithin, itemsWithin, hpw, hpsw]⟩

theorem exists_memberPhrases : ∀ ms : List (String × Value), anyDoubleMember ms = false →
    ∃ us, Phrase.memberLexemes us = memberLexemes ms
      ∧ ∀ room, Phrase.membersWithin us room = membersWithin ms room
  | [], _ => ⟨[], rfl, fun _ => rfl⟩
  | (k, v) :: ms, h => by
      simp only [anyDoubleMember, Bool.or_eq_false_iff] at h
      obtain ⟨p, hp, hpw⟩ := Value.exists_phrase v h.1
      obtain ⟨us, hus, husw⟩ := exists_memberPhrases ms h.2
      exact ⟨(some k, p) :: us, by simp [Phrase.memberLexemes, memberLexemes, hp, hus],
        fun room => by rw [Phrase.membersWithin, membersWithin, hpw, husw]⟩

end

namespace Document

/-- **A compact text reads as its value,** but for the parts that stand too deep. -/
theorem read_render {v : Value} (h : v.hasDouble = false) :
    read v.render = ⟨v.within maxDepth, true⟩ := by
  obtain ⟨p, hp, hwithin⟩ := Value.exists_phrase v h
  rw [read, tokens_render h, ← hp, ofTokens_lexemes, hwithin]

theorem read_render_of_depth {v : Value} (h : v.hasDouble = false) (hd : v.depth ≤ maxDepth) :
    read v.render = ⟨ofValue v, true⟩ := by
  rw [read_render h, Value.within_of_depth_le v _ hd]

end Document

namespace Value

variable {v w : Value}

/-- A compact text is taken for the free value of its value. -/
theorem parse?_render (h : v.hasDouble = false) (hd : v.depth ≤ Document.maxDepth) :
    parse? v.render = v.free? := by
  rw [parse?, Document.read_render_of_depth h hd, free?]
  cases (Document.ofValue v).toValue? <;> rfl

/-- A text that nests too deeply is no free value. -/
theorem parse?_render_of_deep (h : v.hasDouble = false) (hd : Document.maxDepth < v.depth) :
    parse? v.render = none := by
  rw [parse?, Document.read_render h, Value.toValue?_within v _ hd]

end Value

/-! ## The text says the value -/

namespace Document

mutual

/-- The document of a value is no other value's. -/
theorem ofValue_inj : ∀ {v w : Value}, ofValue v = ofValue w → v = w
  | .null, w, h => by
      cases w with
      | null => rfl
      | _ => simp [ofValue] at h
  | .bool b, w, h => by
      cases w with
      | bool b' => rw [Document.bool.inj h]
      | _ => simp [ofValue] at h
  | .number n, w, h => by
      cases w with
      | number n' => rw [Document.number.inj h]
      | _ => simp [ofValue] at h
  | .string s, w, h => by
      cases w with
      | string s' => rw [Document.string.inj h]
      | _ => simp [ofValue] at h
  | .array items, w, h => by
      cases w with
      | array items' => rw [ofItems_inj (Document.array.inj h)]
      | _ => simp [ofValue] at h
  | .object members, w, h => by
      cases w with
      | object members' => rw [ofMembers_inj (Document.object.inj h)]
      | _ => simp [ofValue] at h

theorem ofItems_inj : ∀ {vs ws : List Value}, ofItems vs = ofItems ws → vs = ws
  | [], [], _ => rfl
  | [], _ :: _, h | _ :: _, [], h => by simp [ofItems] at h
  | v :: vs, w :: ws, h => by
      rw [ofItems, ofItems, List.cons.injEq] at h
      rw [ofValue_inj h.1, ofItems_inj h.2]

theorem ofMembers_inj : ∀ {ms us : List (String × Value)}, ofMembers ms = ofMembers us → ms = us
  | [], [], _ => rfl
  | [], _ :: _, h | _ :: _, [], h => by simp [ofMembers] at h
  | (k, v) :: ms, (k', w) :: us, h => by
      rw [ofMembers, ofMembers, List.cons.injEq, Prod.mk.injEq, Option.some.injEq] at h
      rw [h.1.1, ofValue_inj h.1.2, ofMembers_inj h.2]

end

end Document

/-- **Values without doubles that are not too deep are told apart by their texts.** -/
theorem Value.render_inj {v w : Value} (hv : v.hasDouble = false) (hw : w.hasDouble = false)
    (hv' : v.depth ≤ Document.maxDepth) (hw' : w.depth ≤ Document.maxDepth)
    (h : v.render = w.render) : v = w := by
  have hread := Document.read_render_of_depth hv hv'
  rw [h, Document.read_render_of_depth hw hw'] at hread
  exact Document.ofValue_inj (Reading.mk.inj hread).1.symm

end OrderDesk.Json
