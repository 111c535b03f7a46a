import OrderDesk.Proofs.Json.Denotation
import OrderDesk.Stream.Frame

/-!
# Proofs/Stream/Classification — which frame a payload is

    payload ──Holds──▸ phrase ──Is──▸ frame
            ─────────classify───────▸

A payload is a frame if it holds a phrase, and which one is a matter of the phrase alone: of its last
member named `type`, if it is an object.  Every tagged document is read as a control message
(`decode_ofValue`), so that none is malformed, and a payload is a frame unless it holds nothing
(`classify_exact`).
-/

namespace OrderDesk

open Json (Phrase Value Document Token LexemesText)

namespace Frame

/-- **What a payload holds:** its bytes are a text of the phrase, whose strings and numbers can be read,
and in which at most 127 arrays and objects stand inside each other. -/
structure Holds (payload : List UInt8) (p : Phrase) : Prop where
  isText : ∃ text, Bytes.toString? payload = some text ∧ p.IsText text
  legible : ∀ t ∈ p.lexemes, t.Legible
  depth_le : p.depth ≤ 127

/-- The tag of a phrase: what its member named `type` says. -/
def tag? (p : Phrase) : Option String := (p.member? "type").bind Value.string?

/-- **Which frame a phrase is.**  A confirmation has the other members as its fields, each name once
and in alphabetical order. -/
inductive Is (p : Phrase) : Frame → Prop
  | subscriptions {fields : List (String × Value)} (tag : tag? p = some "subscriptions")
    (order : fields.Pairwise (·.1 < ·.1))
    (others : ∀ name, fields.lookup name = if name = "type" then none else p.member? name) :
    Is p (.control (.subscriptions fields))
  | ping (tag : tag? p = some "ping") : Is p (.control .ping)
  | pong (tag : tag? p = some "pong") : Is p (.control .pong)
  | data {v : Value} (tag : ∀ t ∈ tag? p, t ∉ ["subscriptions", "ping", "pong"])
    (value : p.value? = some v) : Is p (.data v)

variable {payload : List UInt8} {p : Phrase} {v : Value} {frame frame' : Frame}

/-! ## A phrase is one frame -/

/-- **A phrase is at most one frame.** -/
theorem Is.unique (h : Is p frame) (h' : Is p frame') : frame = frame' := by
  cases h with
  | subscriptions tag order others =>
    cases h' with
    | subscriptions _ order' others' =>
      have hothers := fun name => (others name).trans (others' name).symm
      rw [Document.eq_of_lookup_eq order order' hothers]
    | ping tag' | pong tag' => exact absurd (tag.symm.trans tag') (by decide)
    | data tag' => exact absurd (by decide) (tag' _ tag)
  | ping tag =>
    cases h' with
    | ping => rfl
    | subscriptions tag' | pong tag' => exact absurd (tag.symm.trans tag') (by decide)
    | data tag' => exact absurd (by decide) (tag' _ tag)
  | pong tag =>
    cases h' with
    | pong => rfl
    | subscriptions tag' | ping tag' => exact absurd (tag.symm.trans tag') (by decide)
    | data tag' => exact absurd (by decide) (tag' _ tag)
  | data tag value =>
    cases h' with
    | data _ value' => rw [Option.some.inj (value.symm.trans value')]
    | subscriptions tag' | ping tag' | pong tag' => exact absurd (by decide) (tag _ tag')

/-! ## Tagged documents are control messages -/

/-- In alphabetical order a name stands once. -/
theorem countP_tagName {members : List (String × Value)} (h : members.Pairwise (·.1 < ·.1))
    (hmem : "type" ∈ members.map Prod.fst) :
    (Document.ofMembers members).countP (·.1 == some ControlMessage.tagName) = 1 := by
  have hnodup : (members.map Prod.fst).Nodup := by
    rw [List.Nodup, List.pairwise_map]
    exact h.imp fun hlt => String.ne_of_lt hlt
  have hcount : (members.map Prod.fst).count "type" = 1 := by rw [hnodup.count, if_pos hmem]
  rw [List.count, List.countP_map] at hcount
  rw [Value.Fits.ofMembers_eq_map, List.countP_map, ← hcount]
  refine List.countP_congr fun m _ => ?_
  simp [ControlMessage.tagName]

/-- **A tagged document is read as the control message of its tag.** -/
theorem decode_ofValue {members : List (String × Value)} {tag : String} {m : ControlMessage}
    (hfree : (Value.object members).IsFree) (htag : members.lookup "type" = some (.string tag))
    (hm : ControlMessage.ofTag? tag (members.filter (·.1 != "type")) = some m) :
    ControlMessage.codec.ofValue (.object members) = .ok m := by
  have hmem : "type" ∈ members.map Prod.fst :=
    List.mem_map.mpr ⟨_, (Document.mem_iff_lookup hfree.1).mpr htag, rfl⟩
  have hread : (Document.object (Document.ofMembers members)).toValue? = some (.object members) :=
    (Json.spells_ofValue (.object members)).toValue? hfree
  change ControlMessage.decode .value (.object (Document.ofMembers members)) = .ok m
  have hmembers : ControlMessage.ofMembers? members = some m := by
    rw [ControlMessage.ofMembers?, ControlMessage.tagName, htag]
    exact hm
  simp only [ControlMessage.decode, countP_tagName hfree.1 hmem, hread, hmembers, if_true]

/-- What is tagged is an object. -/
theorem exists_object {tag : String}
    (h : (v.get? ControlMessage.tagName).bind Value.string? = some tag) :
    ∃ members, v = .object members ∧ members.lookup "type" = some (.string tag) := by
  obtain ⟨w, hw, hstring⟩ := Option.bind_eq_some_iff.mp h
  cases w with
  | string s =>
    cases Option.some.inj hstring
    cases v with
    | object members => exact ⟨members, rfl, hw⟩
    | _ => cases hw
  | _ => cases hstring

/-- **A phrase with a value is a frame.** -/
theorem exists_is (hv : p.value? = some v) : ∃ frame, ofValue v = some frame ∧ Is p frame := by
  have htag : (v.get? ControlMessage.tagName).bind Value.string? = tag? p := by
    rw [Phrase.get?_of_value? hv]
    rfl
  cases htagged : isTagged v with
  | false =>
    refine ⟨.data v, by rw [ofValue, htagged]; rfl, .data ?_ hv⟩
    intro t ht
    rw [isTagged, htag, ht] at htagged
    simpa [ControlMessage.tags] using htagged
  | true =>
    have hcontrol := htagged
    rw [isTagged, htag] at htagged
    split at htagged
    next tag ht =>
      obtain ⟨members, rfl, hlookup⟩ := exists_object (htag.trans ht)
      have hfree := Phrase.isFree_of_value? hv
      have hframe : ∀ {m : ControlMessage},
          ControlMessage.ofTag? tag (members.filter (·.1 != "type")) = some m →
          ofValue (.object members) = some (.control m) := by
        intro m hm
        rw [ofValue, if_pos hcontrol, decode_ofValue hfree hlookup hm]
        rfl
      have hmem : tag = "subscriptions" ∨ tag = "ping" ∨ tag = "pong" := by
        simpa [ControlMessage.tags] using htagged
      rcases hmem with rfl | rfl | rfl
      · refine ⟨_, hframe rfl, .subscriptions ht (hfree.1.filter _) fun name => ?_⟩
        rw [Document.lookup_filter_ne, ← Phrase.get?_of_value? hv]
        rfl
      · exact ⟨_, hframe rfl, .ping ht⟩
      · exact ⟨_, hframe rfl, .pong ht⟩
    next => cases htagged

/-! ## Payloads -/

/-- The document of a payload is the value of the phrase that it holds. -/
theorem document?_eq_some_iff :
    document? payload = some v ↔ ∃ p, Holds payload p ∧ p.value? = some v := by
  rw [document?, Option.bind_eq_some_iff]
  constructor
  · rintro ⟨text, htext, hparse⟩
    obtain ⟨p, hp, hdepth, hv⟩ := Value.parse?_eq_some_iff.mp hparse
    exact ⟨p, ⟨⟨text, htext, hp⟩, p.isSome_value?_iff.mp (by rw [hv]; rfl), hdepth⟩, hv⟩
  · rintro ⟨p, ⟨⟨text, htext, hp⟩, -, hdepth⟩, hv⟩
    exact ⟨text, htext, Value.parse?_eq_some_iff.mpr ⟨p, hp, hdepth, hv⟩⟩

/-- **A payload is the frame that its phrase is.** -/
theorem Holds.exists_classify (h : Holds payload p) :
    ∃ frame, classify payload = some frame ∧ Is p frame := by
  obtain ⟨v, hv⟩ := Option.isSome_iff_exists.mp (p.isSome_value?_iff.mpr h.legible)
  obtain ⟨frame, hframe, his⟩ := exists_is hv
  have hdocument : document? payload = some v := document?_eq_some_iff.mpr ⟨p, h, hv⟩
  exact ⟨frame, by rw [classify, hdocument, Option.bind_some, hframe], his⟩

/-- **Which frame a payload is.**  It is none if it holds no phrase; otherwise it is the frame that its
phrase is, and no other.  No document is tagged as a control message without being one. -/
theorem classify_exact (payload : List UInt8) :
    (classify payload = none ↔ ¬ ∃ p, Holds payload p)
      ∧ (∀ p frame, Holds payload p → (classify payload = some frame ↔ Is p frame))
      ∧ ∀ v, document? payload = some v → isTagged v = true →
          ∃ m, ControlMessage.codec.ofValue v = .ok m := by
  refine ⟨⟨?_, ?_⟩, ?_, ?_⟩
  · rintro hnone ⟨p, hp⟩
    obtain ⟨frame, hframe, -⟩ := hp.exists_classify
    cases hnone.symm.trans hframe
  · intro hnone
    cases hdocument : document? payload with
    | none => rw [classify, hdocument, Option.bind_none]
    | some v =>
      obtain ⟨p, hp, -⟩ := document?_eq_some_iff.mp hdocument
      exact absurd ⟨p, hp⟩ hnone
  · intro p frame hp
    obtain ⟨frame', hframe', his⟩ := hp.exists_classify
    rw [hframe', Option.some.injEq]
    exact ⟨fun heq => heq ▸ his, his.unique⟩
  · intro v hdocument htagged
    obtain ⟨p, -, hv⟩ := document?_eq_some_iff.mp hdocument
    obtain ⟨frame, hframe, -⟩ := exists_is hv
    rw [ofValue, if_pos htagged] at hframe
    cases hdecode : ControlMessage.codec.ofValue v with
    | ok m => exact ⟨m, rfl⟩
    | error e => rw [hdecode] at hframe; cases hframe

/-- A confirmation about topics; its first `type` does not count. -/
def topics : String :=
  "\x7b\"type\":\"trade\",\"topics\":[\"a\"],\"type\":\"subscriptions\"\x7d"

/-- What it says. -/
def topicsPhrase : Phrase :=
  .object [(some "type", .string (some "trade")), (some "topics", .array [.string (some "a")]),
    (some "type", .string (some "subscriptions"))]

/-- It is read as a control message that carries its topics. -/
theorem classify_exact_topics :
    Holds (Bytes.ofString topics) topicsPhrase
      ∧ Is topicsPhrase (.control (.subscriptions [("topics", .array [.string "a"])]))
      ∧ classify (Bytes.ofString topics)
          = some (.control (.subscriptions [("topics", .array [.string "a"])]))
      ∧ ∃ v, document? (Bytes.ofString topics) = some v ∧ isTagged v = true
          ∧ ∃ m, ControlMessage.codec.ofValue v = .ok m := by
  have hholds : Holds (Bytes.ofString topics) topicsPhrase := by
    have htext : topicsPhrase.IsText topics := Phrase.isText_iff.mpr (by decide +kernel)
    have hlegible : ∀ t ∈ topicsPhrase.lexemes, t.Legible :=
      topicsPhrase.isSome_value?_iff.mp (by decide)
    exact ⟨⟨topics, Bytes.toString?_ofString _, htext⟩, hlegible, by decide⟩
  have his : Is topicsPhrase (.control (.subscriptions [("topics", .array [.string "a"])])) := by
    refine .subscriptions (by decide) (List.pairwise_singleton _ _) fun name => ?_
    have hmember : topicsPhrase.member? name = List.lookup name
        [("type", .string "subscriptions"), ("topics", .array [.string "a"]),
          ("type", .string "trade")] := rfl
    simp only [hmember, Document.lookup_cons_eq, List.lookup_nil]
    grind
  obtain ⟨-, hframes, hdecodes⟩ := classify_exact (Bytes.ofString topics)
  obtain ⟨v, hv⟩ : ∃ v, topicsPhrase.value? = some v := ⟨_, rfl⟩
  have hdocument : document? (Bytes.ofString topics) = some v :=
    document?_eq_some_iff.mpr ⟨_, hholds, hv⟩
  have htagged : isTagged v = true := by
    cases Option.some.inj hv
    decide
  exact ⟨hholds, his, (hframes _ _ hholds).mpr his, v, hdocument, htagged,
    hdecodes v hdocument htagged⟩

/-! ## Documents that are no frames -/

/-- Whether a payload is a JSON document, readable or not. -/
def IsDocument (payload : List UInt8) : Prop :=
  ∃ text p, Bytes.toString? payload = some text ∧ Phrase.IsText p text

/-- **A document that nests too deeply, or has a part that cannot be read, is no frame.** -/
theorem classify_eq_none_of_unreadable {text : String} (htext : Bytes.toString? payload = some text)
    (hp : p.IsText text) (h : 127 < p.depth ∨ ∃ t ∈ p.lexemes, ¬ t.Legible) :
    classify payload = none := by
  have hnone : (if p.depth ≤ Document.maxDepth then p.value? else none) = none := by
    rcases h with hdeep | ⟨t, ht, hillegible⟩
    · exact if_neg (Nat.not_le.mpr hdeep)
    · have hvalue : p.value? = none := by
        rw [← Option.not_isSome_iff_eq_none, p.isSome_value?_iff]
        exact fun hlegible => hillegible (hlegible t ht)
      rw [hvalue, ite_self]
  rw [classify, document?, htext, Option.bind_some, hp.parse?_eq, hnone, Option.bind_none]

/-- An empty array inside so many others. -/
def arrays : Nat → Phrase
  | 0 => .array []
  | n + 1 => .array [arrays n]

theorem depth_arrays : ∀ n : Nat, (arrays n).depth = n + 1
  | 0 => rfl
  | n + 1 => by
      rw [arrays, Phrase.depth, Phrase.itemsDepth, Phrase.itemsDepth, depth_arrays n, Nat.max_zero]

/-- Arrays inside each other are written with brackets alone. -/
theorem lexemesText_arrays : ∀ (n : Nat) {ts : List Token} {cs : List Char}, LexemesText ts cs →
    LexemesText ((arrays n).lexemes ++ ts)
      (List.replicate (n + 1) '[' ++ (List.replicate (n + 1) ']' ++ cs))
  | 0, _, _, h => .cons .openBracket (.cons .closeBracket h)
  | n + 1, ts, cs, h => by
      have hn := LexemesText.cons .openBracket (lexemesText_arrays n (.cons .closeBracket h))
      rw [List.replicate_succ, List.replicate_succ' (n := n + 1), List.append_assoc]
      simpa [arrays, Phrase.lexemes, Phrase.itemLexemes] using hn

theorem isText_arrays (n : Nat) :
    (arrays n).IsText (String.ofList (List.replicate (n + 1) '[' ++ List.replicate (n + 1) ']')) := by
  have h := lexemesText_arrays n .nil
  rw [List.append_nil, List.append_nil] at h
  rwa [Phrase.IsText, String.toList_ofList]

/-- 128 arrays inside each other. -/
def deep : String := String.ofList (List.replicate 128 '[' ++ List.replicate 128 ']')

/-- A number beyond every double. -/
def huge : String := "1e400"

/-- Half of a surrogate pair. -/
def half : String := "\"\\ud800\""

/-- **Not every JSON document is a frame:** one may nest too deeply, hold a number beyond every double,
or hold half of a surrogate pair. -/
theorem not_classify_eq_none_iff :
    ¬ (classify (Bytes.ofString deep) = none ↔ ¬ IsDocument (Bytes.ofString deep))
      ∧ ¬ (classify (Bytes.ofString huge) = none ↔ ¬ IsDocument (Bytes.ofString huge))
      ∧ ¬ (classify (Bytes.ofString half) = none ↔ ¬ IsDocument (Bytes.ofString half)) := by
  have unreadable : ∀ {text : String} {p : Phrase}, p.IsText text →
      127 < p.depth ∨ (∃ t ∈ p.lexemes, ¬ t.Legible) →
      ¬ (classify (Bytes.ofString text) = none ↔ ¬ IsDocument (Bytes.ofString text)) := by
    intro text p hp h hiff
    have htext := Bytes.toString?_ofString text
    exact hiff.mp (classify_eq_none_of_unreadable htext hp h) ⟨text, p, htext, hp⟩
  have hdeep : (arrays 127).IsText deep := isText_arrays 127
  have hhuge : (Phrase.number ⟨false, ['1'], none, some (false, ['4', '0', '0'])⟩).IsText huge :=
    Phrase.isText_iff.mpr (by decide +kernel)
  have hhalf : (Phrase.string none).IsText half := Phrase.isText_iff.mpr (by decide +kernel)
  refine ⟨unreadable hdeep (.inl ?_), unreadable hhuge (.inr ⟨_, List.mem_singleton_self _, ?_⟩),
    unreadable hhalf (.inr ⟨_, List.mem_singleton_self _, id⟩)⟩
  · rw [depth_arrays]
    decide
  · rw [Token.Legible]
    decide +kernel

end Frame

end OrderDesk
