import OrderDesk.Proofs.Json.Grammar
import OrderDesk.Proofs.Json.Lexemes

/-!
# Proofs/Json/Scanning — the lexemes of a text are found

    text ◂──LexemesText── lexemes
         ──────tokens────▸

`tokens` cuts a text into the lexemes that it is a text of, provided that a number is told from what
follows it (`LexemesText.tokens_eq`).  Conversely a text is one of the lexemes that are found in it,
unless a fault is among them (`lexemesText_tokens`).  In a phrase there is no fault, and numbers are
told from what follows them: so a text is one of a phrase just if the lexemes of the phrase are found
in it (`Phrase.isText_iff`).
-/

namespace OrderDesk.Json

variable {cs rest w : List Char}

/-! ## Numbers -/

theorem digits_spec (cs : List Char) :
    (∀ c ∈ (digits cs).1, Numeral.isDigit c = true) ∧ cs = (digits cs).1 ++ (digits cs).2 :=
  ⟨List.all_eq_true.mp List.all_takeWhile, List.takeWhile_append_dropWhile.symm⟩

theorem IsDigits.isEmpty_eq {ds : List Char} (h : IsDigits ds) : ds.isEmpty = false := by
  simpa using h.1

theorem fraction?_append {f : Option (List Char)} (h : FractionText f w) (hr : EndsDigits rest)
    (hpoint : '.' ∉ rest.head?) : fraction? (w ++ rest) = some (f, rest) := by
  cases h with
  | none =>
    rw [List.nil_append]
    unfold fraction?
    split
    · exact absurd rfl hpoint
    · rfl
  | @some ds h =>
    rw [List.cons_append, fraction?, digits_append h.2 hr]
    simp only [h.isEmpty_eq, Bool.false_eq_true, if_false]

theorem fraction?_spec {f : Option (List Char)} (h : fraction? cs = some (f, rest)) :
    ∃ w, FractionText f w ∧ cs = w ++ rest := by
  unfold fraction? at h
  split at h
  · next cs =>
    obtain ⟨hd, hcs⟩ := digits_spec cs
    cases hempty : (digits cs).1.isEmpty with
    | true => simp [hempty] at h
    | false =>
      simp only [hempty, Bool.false_eq_true, if_false, Option.some.injEq, Prod.mk.injEq] at h
      obtain ⟨rfl, rfl⟩ := h
      exact ⟨_, .some ⟨by simpa using hempty, hd⟩, congrArg _ hcs⟩
  · obtain ⟨rfl, rfl⟩ := Prod.mk.inj (Option.some.inj h)
    exact ⟨[], .none, rfl⟩

/-- A sign is taken from digits. -/
theorem exponentSign_append {down : Bool} {s ds : List Char} (hs : SignText down s)
    (hd : IsDigits ds) : exponentSign (s ++ ds ++ rest) = (down, ds ++ rest) := by
  cases hs with
  | plus => rfl
  | minus => rfl
  | none =>
    obtain ⟨d, ds, rfl⟩ := List.exists_cons_of_ne_nil hd.1
    have hdigit : Numeral.isDigit d = true := hd.2 d List.mem_cons_self
    rw [List.nil_append, List.cons_append]
    unfold exponentSign
    split
    · next heq =>
      obtain ⟨rfl, -⟩ := List.cons.inj heq
      contradiction
    · next heq =>
      obtain ⟨rfl, -⟩ := List.cons.inj heq
      contradiction
    · rfl

theorem exponentSign_spec (cs : List Char) :
    ∃ s, SignText (exponentSign cs).1 s ∧ cs = s ++ (exponentSign cs).2 := by
  unfold exponentSign
  split
  · exact ⟨_, .minus, rfl⟩
  · exact ⟨_, .plus, rfl⟩
  · exact ⟨_, .none, rfl⟩

theorem exponent?_append {e : Option (Bool × List Char)} (h : ExponentText e w)
    (hr : EndsNumber rest) : exponent? (w ++ rest) = some (e, rest) := by
  cases h with
  | none => exact exponent?_of_ends hr
  | @some c down s ds hc hs h =>
    rw [List.cons_append, exponent?, if_pos hc, exponentSign_append hs h]
    simp only [digits_append h.2 hr.endsDigits, h.isEmpty_eq, Bool.false_eq_true, if_false]

theorem exponent?_spec {e : Option (Bool × List Char)} (h : exponent? cs = some (e, rest)) :
    ∃ w, ExponentText e w ∧ cs = w ++ rest := by
  unfold exponent? at h
  split at h
  · obtain ⟨rfl, rfl⟩ := Prod.mk.inj (Option.some.inj h)
    exact ⟨[], .none, rfl⟩
  · next c cs =>
    split at h
    · next hc =>
      obtain ⟨s, hs, hcs⟩ := exponentSign_spec cs
      obtain ⟨hd, hrest⟩ := digits_spec (exponentSign cs).2
      cases hempty : (digits (exponentSign cs).2).1.isEmpty with
      | true => simp [hempty] at h
      | false =>
        simp only [hempty, Bool.false_eq_true, if_false, Option.some.injEq, Prod.mk.injEq] at h
        obtain ⟨rfl, rfl⟩ := h
        refine ⟨_, .some hc hs ⟨by simpa using hempty, hd⟩, ?_⟩
        rw [List.cons_append, List.append_assoc, ← hrest, ← hcs]
    · obtain ⟨rfl, rfl⟩ := Prod.mk.inj (Option.some.inj h)
      exact ⟨[], .none, rfl⟩

/-- The first character of an exponent, or of what follows a number, continues no digits and is no
point. -/
theorem ExponentText.ends {e : Option (Bool × List Char)} (h : ExponentText e w)
    (hr : EndsNumber rest) : EndsDigits (w ++ rest) ∧ '.' ∉ (w ++ rest).head? := by
  cases h with
  | none => exact ⟨hr.endsDigits, fun hpoint => (hr _ hpoint).2.1 rfl⟩
  | @some c _ s ds hc =>
    have hhead : (c :: (s ++ ds) ++ rest).head? = Option.some c := rfl
    rw [EndsDigits, hhead]
    rcases hc with rfl | rfl <;> exact ⟨by rintro _ ⟨⟩; decide, by simp⟩

/-- Neither does that of a fraction. -/
theorem FractionText.endsDigits {f : Option (List Char)} (h : FractionText f w)
    (hr : EndsDigits rest) : EndsDigits (w ++ rest) := by
  cases h with
  | none => exact hr
  | some => rintro _ ⟨⟩; decide

/-- The digits of an integer are not refused. -/
theorem IsInteger.not_refused {ds : List Char} (h : IsInteger ds) :
    ¬ (ds.isEmpty = true ∨ (1 < ds.length ∧ ds.head? = some '0')) := by
  rintro (hempty | ⟨hlength, hhead⟩)
  · exact absurd hempty (by simp [h.1.isEmpty_eq])
  · rw [h.2 hhead] at hlength
    exact absurd hlength (by decide)

/-- What is not refused is an integer. -/
theorem isInteger_of_not_refused {ds : List Char} (hd : ∀ c ∈ ds, Numeral.isDigit c = true)
    (h : ¬ (ds.isEmpty = true ∨ (1 < ds.length ∧ ds.head? = some '0'))) : IsInteger ds := by
  rw [not_or, not_and] at h
  refine ⟨⟨by simpa using h.1, hd⟩, fun hhead => ?_⟩
  have hlength : ds.length ≤ 1 := Nat.not_lt.mp fun hlt => h.2 hlt hhead
  cases ds with
  | nil => cases hhead
  | cons d ds =>
    cases Option.some.inj hhead
    rw [List.eq_nil_of_length_eq_zero (Nat.le_zero.mp (Nat.le_of_succ_le_succ hlength))]

theorem unsigned?_append {negative : Bool} {l : Literal} (h : UnsignedText negative l w)
    (hr : EndsNumber rest) : unsigned? negative (w ++ rest) = some (l, rest) := by
  obtain ⟨hw, hf, he⟩ := h
  obtain ⟨hdigits, hpoint⟩ := he.ends hr
  rw [List.append_assoc, List.append_assoc, unsigned?, digits_append hw.1.2 (hf.endsDigits hdigits)]
  simp only [if_neg hw.not_refused, fraction?_append hf hdigits hpoint, exponent?_append he hr]

theorem unsigned?_spec {negative : Bool} {l : Literal} (h : unsigned? negative cs = some (l, rest)) :
    ∃ w, UnsignedText negative l w ∧ cs = w ++ rest := by
  obtain ⟨hd, hcs⟩ := digits_spec cs
  simp only [unsigned?] at h
  split at h
  · cases h
  · next hw =>
    split at h
    · cases h
    · next f rest₁ hf =>
      split at h
      · cases h
      · next e rest₂ he =>
        obtain ⟨rfl, rfl⟩ := Prod.mk.inj (Option.some.inj h)
        obtain ⟨wf, hwf, hrest₁⟩ := fraction?_spec hf
        obtain ⟨we, hwe, hrest₂⟩ := exponent?_spec he
        refine ⟨_, .mk (isInteger_of_not_refused hd hw) hwf hwe, ?_⟩
        rw [List.append_assoc, List.append_assoc, ← hrest₂, ← hrest₁, ← hcs]

/-- A number begins with a digit. -/
theorem UnsignedText.exists_cons {negative : Bool} {l : Literal} (h : UnsignedText negative l w) :
    ∃ c cs, w = c :: cs ∧ Numeral.isDigit c = true := by
  obtain ⟨hw, -, -⟩ := h
  obtain ⟨c, cs, rfl⟩ := List.exists_cons_of_ne_nil hw.1.1
  exact ⟨c, _, rfl, hw.1.2 c List.mem_cons_self⟩

/-! ## Strings -/

theorem PieceText.pieces?_append {p : Piece} (h : PieceText p w) (rest : List Char) :
    pieces? (w ++ rest) = p.before (pieces? rest) := by
  cases h with
  | plain hq hb hc => exact pieces?_plain hq hb hc rest
  | @short e c h =>
    refine pieces?_short ?_ h rest
    rintro rfl
    cases h
  | unit h => exact pieces?_unit h rest

theorem pieces?_append {ps : List Piece} (h : PiecesText ps w) (rest : List Char) :
    pieces? (w ++ quote :: rest) = some (ps, rest) := by
  induction h with
  | nil => exact pieces?_quote rest
  | @cons p ps w cs hp _ ih =>
    rw [List.append_assoc, hp.pieces?_append, ih]
    rfl

/-- A piece stands in front of what the rest of a text gives. -/
theorem PieceText.before_spec {p : Piece} {ps : List Piece} (hp : PieceText p w)
    (ih : ∀ {ps : List Piece}, pieces? cs = some (ps, rest) →
      ∃ w, PiecesText ps w ∧ cs = w ++ quote :: rest)
    (h : p.before (pieces? cs) = some (ps, rest)) :
    ∃ w', PiecesText ps w' ∧ w ++ cs = w' ++ quote :: rest := by
  obtain ⟨qs, hqs, rfl⟩ := Piece.before_eq_some h
  obtain ⟨w', hw', rfl⟩ := ih hqs
  exact ⟨_, .cons hp hw', (List.append_assoc ..).symm⟩

theorem pieces?_spec {ps : List Piece} (h : pieces? cs = some (ps, rest)) :
    ∃ w, PiecesText ps w ∧ cs = w ++ quote :: rest := by
  fun_induction pieces? cs generalizing ps with
  | case1 => cases h
  | case2 a b c d cs n hn ih => exact (PieceText.unit hn).before_spec ih h
  | case3 => cases h
  | case4 e cs _ c hc ih => exact (PieceText.short hc).before_spec ih h
  | case5 => cases h
  | case6 cs =>
    obtain ⟨rfl, rfl⟩ := Prod.mk.inj (Option.some.inj h)
    exact ⟨[], .nil, rfl⟩
  | case7 => cases h
  | case8 c cs _ _ hq hc ih =>
    rw [not_or] at hc
    exact (PieceText.plain hq hc.2 hc.1).before_spec ih h

/-! ## Lexemes -/

variable {t : Token} {ts : List Token}

theorem tokens_blank {says? : List Piece → Option String} {c : Char} (hc : isBlank c = true)
    (cs : List Char) : tokens says? (c :: cs) = tokens says? cs := by
  rw [tokens, if_pos hc]

/-- **A lexeme is found,** a number if it ends where its text does. -/
theorem LexemeText.tokens_append (h : LexemeText t w)
    (hr : ∀ l, t = .number l → EndsNumber rest) :
    tokens textOf? (w ++ rest) = t :: tokens textOf? rest := by
  cases h with
  | openBrace | closeBrace | openBracket | closeBracket | colon | comma | null | true | false =>
    exact tokens_cons (by decide) rfl
  | @positive l w h =>
    have hunsigned := unsigned?_append h (hr l rfl)
    obtain ⟨c, cs, rfl, hc⟩ := h.exists_cons
    refine tokens_cons (not_isBlank_of_isDigit hc) ?_
    rw [next?_of_isDigit hc]
    change (unsigned? Bool.false ((c :: cs) ++ rest)).map _ = _
    rw [hunsigned]
    rfl
  | @negative l w h =>
    refine tokens_cons (by decide) ?_
    change (unsigned? Bool.true (w ++ rest)).map _ = _
    rw [unsigned?_append h (hr l rfl)]
    rfl
  | @string ps w h =>
    rw [List.cons_append, List.append_assoc]
    refine tokens_cons (by decide) ?_
    change (pieces? (w ++ quote :: rest)).map _ = _
    rw [pieces?_append h]
    rfl

theorem afterWord?_spec {word : List Char} (h : afterWord? word cs = some rest) :
    cs = word ++ rest := by
  unfold afterWord? at h
  split at h
  · next hpre =>
    obtain ⟨rest', rfl⟩ := List.isPrefixOf_iff_prefix.mp hpre
    cases Option.some.inj h
    rw [List.drop_left]
  · cases h

theorem LexemeText.word_spec {c : Char} {word : List Char} {u : Token}
    (hu : LexemeText u (c :: word)) (h : (afterWord? word cs).map (u, ·) = some (t, rest)) :
    ∃ w, LexemeText t w ∧ c :: cs = w ++ rest := by
  obtain ⟨r, hr, heq⟩ := Option.map_eq_some_iff.mp h
  obtain ⟨rfl, rfl⟩ := Prod.mk.inj heq
  exact ⟨_, hu, congrArg _ (afterWord?_spec hr)⟩

/-- What is found stands there. -/
theorem next?_spec {c : Char} (h : next? textOf? c cs = some (t, rest)) :
    ∃ w, LexemeText t w ∧ c :: cs = w ++ rest := by
  unfold next? at h
  split at h
  · obtain ⟨rfl, rfl⟩ := Prod.mk.inj (Option.some.inj h); exact ⟨_, .openBrace, rfl⟩
  · obtain ⟨rfl, rfl⟩ := Prod.mk.inj (Option.some.inj h); exact ⟨_, .closeBrace, rfl⟩
  · obtain ⟨rfl, rfl⟩ := Prod.mk.inj (Option.some.inj h); exact ⟨_, .openBracket, rfl⟩
  · obtain ⟨rfl, rfl⟩ := Prod.mk.inj (Option.some.inj h); exact ⟨_, .closeBracket, rfl⟩
  · obtain ⟨rfl, rfl⟩ := Prod.mk.inj (Option.some.inj h); exact ⟨_, .colon, rfl⟩
  · obtain ⟨rfl, rfl⟩ := Prod.mk.inj (Option.some.inj h); exact ⟨_, .comma, rfl⟩
  · exact LexemeText.null.word_spec h
  · exact LexemeText.true.word_spec h
  · exact LexemeText.false.word_spec h
  · obtain ⟨⟨l, r⟩, hr, heq⟩ := Option.map_eq_some_iff.mp h
    obtain ⟨rfl, rfl⟩ := Prod.mk.inj heq
    obtain ⟨w, hw, rfl⟩ := unsigned?_spec hr
    exact ⟨_, .negative hw, rfl⟩
  · split at h
    · next hq =>
      obtain ⟨⟨ps, r⟩, hr, heq⟩ := Option.map_eq_some_iff.mp h
      obtain ⟨rfl, rfl⟩ := Prod.mk.inj heq
      obtain ⟨w, hw, rfl⟩ := pieces?_spec hr
      exact ⟨_, .string hw, by rw [hq]; simp⟩
    split at h
    · obtain ⟨⟨l, r⟩, hr, heq⟩ := Option.map_eq_some_iff.mp h
      obtain ⟨rfl, rfl⟩ := Prod.mk.inj heq
      obtain ⟨w, hw, hcs⟩ := unsigned?_spec hr
      exact ⟨_, .positive hw, hcs⟩
    · cases h

/-! ## Texts -/

/-- **A text without a fault is one of the lexemes found in it.** -/
theorem lexemesText_tokens (cs : List Char) (h : .invalid ∉ tokens textOf? cs) :
    LexemesText (tokens textOf? cs) cs := by
  fun_induction tokens textOf? cs with
  | case1 => exact .nil
  | case2 c cs hc ih => exact .blank hc (ih h)
  | case3 c cs _ t rest hnext ih =>
    obtain ⟨w, hw, heq⟩ := next?_spec hnext
    rw [heq]
    exact .cons hw (ih fun hmem => h (List.mem_cons_of_mem _ hmem))
  | case4 => exact absurd List.mem_cons_self h

/-- Whether lexemes may follow a value: there are none, or they begin with a comma or with the end of
what is open. -/
def EndsValue : List Token → Prop
  | [] => True
  | t :: _ => t = .comma ∨ t = .closeBracket ∨ t = .closeBrace

/-- Whether numbers are told from what follows them. -/
def NumbersEnd : List Token → Prop
  | [] => True
  | .number _ :: ts => EndsValue ts ∧ NumbersEnd ts
  | _ :: ts => NumbersEnd ts

theorem NumbersEnd.tail (h : NumbersEnd (t :: ts)) : NumbersEnd ts := by
  cases t with
  | number l => exact h.2
  | _ => exact h

/-- No number goes on with what follows a value. -/
theorem LexemesText.endsNumber (h : LexemesText ts cs) (hts : EndsValue ts) : EndsNumber cs := by
  cases h with
  | nil => exact endsNumber_nil
  | @blank c _ _ hc =>
    rintro _ ⟨⟩
    simp only [isBlank, Bool.or_eq_true, decide_eq_true_eq, or_assoc] at hc
    rcases hc with rfl | rfl | rfl | rfl <;> decide
  | cons ht =>
    rcases hts with rfl | rfl | rfl <;> cases ht <;> rintro _ ⟨⟩ <;> decide

/-- **The lexemes of a text are found in it.** -/
theorem LexemesText.tokens_eq (h : LexemesText ts cs) (hts : NumbersEnd ts) :
    tokens textOf? cs = ts := by
  induction h with
  | nil => rw [tokens]
  | blank hc _ ih => rw [tokens_blank hc, ih hts]
  | @cons t ts w cs ht h ih =>
    rw [ht.tokens_append, ih hts.tail]
    rintro l rfl
    exact h.endsNumber hts.1

namespace Phrase

mutual

/-- In a phrase numbers are told from what follows them. -/
theorem numbersEnd_lexemes : ∀ (p : Phrase) (ts : List Token), EndsValue ts → NumbersEnd ts →
    NumbersEnd (p.lexemes ++ ts)
  | .null, ts, _, h | .bool b, ts, _, h | .string s, ts, _, h => h
  | .number l, ts, hts, h => ⟨hts, h⟩
  | .array [], ts, _, h | .object [], ts, _, h => h
  | .array (p :: ps), ts, _, h => by
      obtain ⟨hends, hps⟩ := numbersEnd_itemLexemes ps (.closeBracket :: ts) (.inr (.inl rfl)) h
      simp only [lexemes, List.cons_append, List.append_assoc, List.nil_append]
      exact numbersEnd_lexemes p _ hends hps
  | .object ((k, p) :: ms), ts, _, h => by
      obtain ⟨hends, hms⟩ := numbersEnd_memberLexemes ms (.closeBrace :: ts) (.inr (.inr rfl)) h
      simp only [lexemes, List.cons_append, List.append_assoc, List.nil_append]
      exact numbersEnd_lexemes p _ hends hms

theorem numbersEnd_itemLexemes : ∀ (ps : List Phrase) (ts : List Token), EndsValue ts →
    NumbersEnd ts → EndsValue (itemLexemes ps ++ ts) ∧ NumbersEnd (itemLexemes ps ++ ts)
  | [], ts, hts, h => ⟨hts, h⟩
  | p :: ps, ts, hts, h => by
      obtain ⟨hends, hps⟩ := numbersEnd_itemLexemes ps ts hts h
      have hp := numbersEnd_lexemes p _ hends hps
      rw [itemLexemes, List.cons_append, List.append_assoc]
      exact ⟨.inl rfl, hp⟩

theorem numbersEnd_memberLexemes : ∀ (ms : List (Option String × Phrase)) (ts : List Token),
    EndsValue ts → NumbersEnd ts →
    EndsValue (memberLexemes ms ++ ts) ∧ NumbersEnd (memberLexemes ms ++ ts)
  | [], ts, hts, h => ⟨hts, h⟩
  | (k, p) :: ms, ts, hts, h => by
      obtain ⟨hends, hms⟩ := numbersEnd_memberLexemes ms ts hts h
      have hp := numbersEnd_lexemes p _ hends hms
      simp only [memberLexemes, List.cons_append, List.append_assoc]
      exact ⟨.inl rfl, hp⟩

end

mutual

/-- No fault is among the lexemes of a phrase. -/
theorem invalid_notMem_lexemes : ∀ p : Phrase, .invalid ∉ p.lexemes
  | .null | .bool _ | .number _ | .string _ | .array [] | .object [] => by simp [lexemes]
  | .array (p :: ps) => by
      simp [lexemes, invalid_notMem_lexemes p, invalid_notMem_itemLexemes ps]
  | .object ((k, p) :: ms) => by
      simp [lexemes, invalid_notMem_lexemes p, invalid_notMem_memberLexemes ms]

theorem invalid_notMem_itemLexemes : ∀ ps : List Phrase, .invalid ∉ itemLexemes ps
  | [] => by simp [itemLexemes]
  | p :: ps => by simp [itemLexemes, invalid_notMem_lexemes p, invalid_notMem_itemLexemes ps]

theorem invalid_notMem_memberLexemes :
    ∀ ms : List (Option String × Phrase), .invalid ∉ memberLexemes ms
  | [] => by simp [memberLexemes]
  | (k, p) :: ms => by
      simp [memberLexemes, invalid_notMem_lexemes p, invalid_notMem_memberLexemes ms]

end

/-- **A text is one of a phrase if the lexemes of the phrase are found in it.** -/
theorem isText_iff {p : Phrase} {text : String} :
    p.IsText text ↔ tokens textOf? text.toList = p.lexemes := by
  constructor
  · intro h
    have hends := numbersEnd_lexemes p [] trivial trivial
    rw [List.append_nil] at hends
    exact LexemesText.tokens_eq h hends
  · intro h
    have hmem : .invalid ∉ tokens textOf? text.toList := by
      rw [h]
      exact invalid_notMem_lexemes p
    rw [IsText, ← h]
    exact lexemesText_tokens _ hmem

end Phrase

end OrderDesk.Json
