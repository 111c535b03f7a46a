import OrderDesk.Json.Token

/-!
# Proofs/Json/Lexemes — the lexemes of a compact text

    v ──chars──▸ text ──tokens──▸ v.lexemes

The compact text of a value is cut into the lexemes that the value is made of (`tokens_render`): the
pieces of a string say the string, and the digits of an integer end where the integer does, for what
follows a value is a comma, a closing bracket or nothing.  Doubles are left out; their digits need
not be an integer's.
-/

namespace OrderDesk

/-! ## Decimal numerals -/

namespace Numeral

theorem isDigit_eq (c : Char) : isDigit c = c.isDigit := by
  simp only [isDigit, Char.isDigit, Char.toNat, UInt32.le_iff_toNat_le, ge_iff_le]
  rfl

theorem isDigit_of_mem_toDigits {n : Nat} {c : Char} (h : c ∈ Nat.toDigits 10 n) :
    isDigit c = true := by
  rw [isDigit_eq]
  exact Nat.isDigit_of_mem_toDigits (by decide) (by decide) h

theorem ne_of_isDigit {c d : Char} (hc : isDigit c = true) (hd : isDigit d = false) : c ≠ d := by
  rintro rfl
  exact absurd (hc.symm.trans hd) (by decide)

/-- **Only zero begins with the digit zero.** -/
theorem eq_zero_of_head? {n : Nat} (h : (Nat.toDigits 10 n).head? = some '0') : n = 0 := by
  induction n using Nat.strongRecOn with
  | _ n ih =>
    by_cases hn : n < 10
    · rw [Nat.toDigits_of_lt_base hn] at h
      have hd : ∀ d < 10, Nat.digitChar d = '0' → d = 0 := by decide
      exact hd n hn (Option.some.inj h)
    · rw [Nat.toDigits_of_base_le (by decide) (by omega), List.head?_append,
        List.head?_eq_some_head Nat.toDigits_ne_nil, Option.some_or] at h
      have := ih (n / 10) (by omega) (by rw [List.head?_eq_some_head Nat.toDigits_ne_nil, h])
      omega

end Numeral

namespace Json

/-! ## Strings -/

/-- The piece that says a character in a string's text. -/
def Piece.ofChar (c : Char) : Piece :=
  if c.toNat < 32 ∧ c.toNat ∉ [8, 9, 10, 12, 13] then .unit c.toNat else .char c

theorem pieces?_unit {a b c d : Char} {n : Nat} (h : unit? a b c d = some n) (rest : List Char) :
    pieces? ('\\' :: 'u' :: a :: b :: c :: d :: rest) = (Piece.unit n).before (pieces? rest) := by
  rw [pieces?, h]

theorem pieces?_short {e c : Char} (he : e ≠ 'u') (h : shortEscape? e = some c)
    (rest : List Char) : pieces? ('\\' :: e :: rest) = (Piece.char c).before (pieces? rest) := by
  rw [pieces?, h]
  rintro a b c d rest' rfl
  exact absurd rfl he

theorem pieces?_plain {c : Char} (hq : c ≠ quote) (hb : c ≠ '\\') (hc : ¬ c.toNat < 32)
    (rest : List Char) : pieces? (c :: rest) = (Piece.char c).before (pieces? rest) := by
  rw [pieces?, if_neg hq, if_neg (by simp [hc, hb])]
  · rintro a b c d rest' rfl
    exact absurd rfl hb
  · rintro e rest' rfl
    exact absurd rfl hb

theorem pieces?_quote (rest : List Char) : pieces? (quote :: rest) = some ([], rest) := by
  rw [pieces?, if_pos rfl]
  · rintro a b c d rest' h
    cases h
  · rintro e rest' h
    cases h

/-- The escape of a control character gives its number. -/
theorem unit?_controlEscape {c : Char} (hc : c.toNat < 32) :
    ∃ a b, controlEscape c = ['\\', 'u', '0', '0', a, b] ∧ unit? '0' '0' a b = some c.toNat := by
  have h : ∀ n < 32, controlEscape (Char.ofNat n)
        = ['\\', 'u', '0', '0', Hex.digit (n / 16), Hex.digit (n % 16)]
      ∧ unit? '0' '0' (Hex.digit (n / 16)) (Hex.digit (n % 16)) = some n := by decide
  have := h c.toNat hc
  rw [Char.ofNat_toNat] at this
  exact ⟨_, _, this⟩

/-- **What stands for a character in a string's text is one piece.** -/
theorem pieces?_escape (c : Char) (rest : List Char) :
    pieces? (escape c ++ rest) = (Piece.ofChar c).before (pieces? rest) := by
  have short : ∀ {e : Char}, e ≠ 'u' → shortEscape? e = some c → ¬ (c.toNat < 32 ∧
      c.toNat ∉ [8, 9, 10, 12, 13]) →
      pieces? ('\\' :: e :: rest) = (Piece.ofChar c).before (pieces? rest) := by
    intro e he hs hc
    rw [Piece.ofChar, if_neg hc, pieces?_short he hs]
  have ofNat : ∀ {n : Nat}, c.toNat = n → c = Char.ofNat n := by
    intro n hn
    rw [← hn, Char.ofNat_toNat]
  unfold escape
  split
  next h => exact short (by decide) (by subst h; rfl) (by subst h; decide)
  split
  next h => exact short (by decide) (by subst h; rfl) (by subst h; decide)
  split
  next hc =>
    split
    next h => exact short (by decide) (by rw [ofNat h]; rfl) (by rw [h]; decide)
    split
    next h => exact short (by decide) (by rw [ofNat h]; rfl) (by rw [h]; decide)
    split
    next h => exact short (by decide) (by rw [ofNat h]; rfl) (by rw [h]; decide)
    split
    next h => exact short (by decide) (by rw [ofNat h]; rfl) (by rw [h]; decide)
    split
    next h => exact short (by decide) (by rw [ofNat h]; rfl) (by rw [h]; decide)
    next h8 h9 h10 h12 h13 =>
      obtain ⟨a, b, hcut, hunit⟩ := unit?_controlEscape hc
      have hpiece : Piece.ofChar c = .unit c.toNat := by
        rw [Piece.ofChar, if_pos]
        simp [hc, h8, h9, h10, h12, h13]
      rw [hcut, hpiece]
      exact pieces?_unit hunit rest
  next hq hb hc =>
    have hpiece : Piece.ofChar c = .char c := by
      rw [Piece.ofChar, if_neg]
      exact fun h => hc h.1
    rw [hpiece]
    exact pieces?_plain hq hb hc rest

theorem pieces?_escapes : ∀ (cs rest : List Char),
    pieces? (cs.flatMap escape ++ quote :: rest) = some (cs.map Piece.ofChar, rest)
  | [], rest => pieces?_quote rest
  | c :: cs, rest => by
      rw [List.flatMap_cons, List.append_assoc, pieces?_escape, pieces?_escapes cs rest]
      rfl

/-- **The pieces of a string's text say the string.** -/
theorem textOf?_ofChar (s : String) : textOf? (s.toList.map Piece.ofChar) = some s := by
  have joined : ∀ cs : List Char,
      joined? (fun c => [c]) (fun c => [c]) (cs.map Piece.ofChar) = some cs := by
    intro cs
    induction cs with
    | nil => rfl
    | cons c cs ih =>
      rw [List.map_cons, Piece.ofChar]
      split
      next h =>
        -- a control character is no surrogate
        have hlow : ¬ (0xD800 ≤ c.toNat ∧ c.toNat < 0xDC00) := by omega
        have hhigh : ¬ (0xDC00 ≤ c.toNat ∧ c.toNat < 0xE000) := by omega
        rw [joined?.eq_def]
        simp only [if_neg hlow, if_neg hhigh, ih, Char.ofNat_toNat, Option.map_some,
          List.singleton_append]
      next => rw [joined?, ih]; rfl
  rw [textOf?, joined, Option.map_some, String.ofList_toList]

/-! ## Integers -/

/-- Whether no number goes on with a text: it begins with nothing that a number is made of. -/
def EndsNumber (rest : List Char) : Prop :=
  ∀ c ∈ rest.head?, Numeral.isDigit c = false ∧ c ≠ '.' ∧ c ≠ 'e' ∧ c ≠ 'E'

theorem endsNumber_nil : EndsNumber [] := by
  intro c hc
  cases hc

theorem endsNumber_comma (rest : List Char) : EndsNumber (',' :: rest) := by
  intro c hc
  cases hc
  decide

theorem endsNumber_closeBracket (rest : List Char) : EndsNumber (']' :: rest) := by
  intro c hc
  cases hc
  decide

theorem endsNumber_closeBrace (rest : List Char) : EndsNumber (closeBrace :: rest) := by
  intro c hc
  cases hc
  decide

variable {rest : List Char}

/-- Whether a text does not begin with a digit. -/
def EndsDigits (rest : List Char) : Prop := ∀ c ∈ rest.head?, Numeral.isDigit c = false

theorem EndsNumber.endsDigits (h : EndsNumber rest) : EndsDigits rest := fun c hc => (h c hc).1

/-- Digits are found up to what does not begin with one. -/
theorem digits_append {ds : List Char} (hd : ∀ c ∈ ds, Numeral.isDigit c = true)
    (hr : EndsDigits rest) : digits (ds ++ rest) = (ds, rest) := by
  have htake : rest.takeWhile Numeral.isDigit = [] := by
    cases rest with
    | nil => rfl
    | cons c cs => rw [List.takeWhile_cons, if_neg (by simp [hr c rfl])]
  have hdrop : rest.dropWhile Numeral.isDigit = rest := by
    cases rest with
    | nil => rfl
    | cons c cs => rw [List.dropWhile_cons, if_neg (by simp [hr c rfl])]
  rw [digits, List.takeWhile_append_of_pos hd, List.dropWhile_append_of_pos hd, htake, hdrop,
    List.append_nil]

theorem digits_toDigits (n : Nat) (h : EndsNumber rest) :
    digits (Nat.toDigits 10 n ++ rest) = (Nat.toDigits 10 n, rest) :=
  digits_append (fun _ hc => Numeral.isDigit_of_mem_toDigits hc) h.endsDigits

theorem fraction?_of_ends (h : EndsNumber rest) : fraction? rest = some (none, rest) := by
  cases rest with
  | nil => rfl
  | cons c cs =>
    rw [fraction?]
    rintro cs' heq
    cases heq
    exact (h '.' rfl).2.1 rfl

theorem exponent?_of_ends (h : EndsNumber rest) : exponent? rest = some (none, rest) := by
  cases rest with
  | nil => rfl
  | cons c cs => rw [exponent?, if_neg (by simp [(h c rfl).2.2])]

theorem unsigned?_toDigits (negative : Bool) (n : Nat) (h : EndsNumber rest) :
    unsigned? negative (Nat.toDigits 10 n ++ rest)
      = some (⟨negative, Nat.toDigits 10 n, none, none⟩, rest) := by
  -- a zero in front of other digits would make the number zero, which has one digit
  have hzero : ¬ ((Nat.toDigits 10 n).isEmpty = true ∨
      (1 < (Nat.toDigits 10 n).length ∧ (Nat.toDigits 10 n).head? = some '0')) := by
    rintro (hnil | ⟨hlen, hhead⟩)
    · exact Nat.toDigits_ne_nil (List.isEmpty_iff.mp hnil)
    · rw [Numeral.eq_zero_of_head? hhead, Nat.toDigits_zero] at hlen
      exact absurd hlen (by decide)
  simp only [unsigned?, digits_toDigits n h, if_neg hzero, fraction?_of_ends h, exponent?_of_ends h]

theorem not_isBlank_of_isDigit {c : Char} (hc : Numeral.isDigit c = true) : isBlank c = false := by
  have hne : ∀ b, Numeral.isDigit b = false → c ≠ b := fun b => Numeral.ne_of_isDigit hc
  simp [isBlank, hne ' ' rfl, hne '\t' rfl, hne '\n' rfl, hne '\r' rfl]

/-- A digit begins a number without a sign. -/
theorem next?_of_isDigit {says? : List Piece → Option String} {c : Char}
    (hc : Numeral.isDigit c = true) (cs : List Char) :
    next? says? c cs = (unsigned? false (c :: cs)).map fun (l, rest) => (.number l, rest) := by
  unfold next?
  split
  iterate 10 · exact absurd hc (by decide)
  next =>
    have hq : c ≠ quote := Numeral.ne_of_isDigit hc rfl
    rw [if_neg hq, if_pos hc]

/-! ## Values -/

/-- The lexeme of a number; a double has none here. -/
def Number.lexeme : Number → Token
  | .int z => .number (.ofInt z)
  | .float _ => .invalid

mutual

/-- **The lexemes of a value.** -/
def Value.lexemes : Value → List Token
  | .null => [.null]
  | .bool b => [.bool b]
  | .number n => [n.lexeme]
  | .string s => [.string (some s)]
  | .array [] => [.openBracket, .closeBracket]
  | .array (v :: vs) => .openBracket :: v.lexemes ++ itemLexemes vs ++ [.closeBracket]
  | .object [] => [.openBrace, .closeBrace]
  | .object ((k, v) :: ms) =>
    .openBrace :: .string (some k) :: .colon :: v.lexemes ++ memberLexemes ms ++ [.closeBrace]

/-- The lexemes of the items after the first. -/
def itemLexemes : List Value → List Token
  | [] => []
  | v :: vs => .comma :: v.lexemes ++ itemLexemes vs

/-- The lexemes of the members after the first. -/
def memberLexemes : List (String × Value) → List Token
  | [] => []
  | (k, v) :: ms => .comma :: .string (some k) :: .colon :: v.lexemes ++ memberLexemes ms

end

mutual

/-- Whether a value holds a double. -/
def Value.hasDouble : Value → Bool
  | .number (.float _) => true
  | .array items => anyDouble items
  | .object members => anyDoubleMember members
  | _ => false

/-- Whether one of some items holds a double. -/
def anyDouble : List Value → Bool
  | [] => false
  | v :: vs => v.hasDouble || anyDouble vs

/-- Whether one of some members holds a double. -/
def anyDoubleMember : List (String × Value) → Bool
  | [] => false
  | (_, v) :: ms => v.hasDouble || anyDoubleMember ms

end

/-- A lexeme in front of a text. -/
theorem tokens_cons {says? : List Piece → Option String} {c : Char} {cs rest : List Char}
    {t : Token} (hb : isBlank c = false) (h : next? says? c cs = some (t, rest)) :
    tokens says? (c :: cs) = t :: tokens says? rest := by
  rw [tokens, if_neg (by simp [hb])]
  split
  next t' rest' h' =>
    rw [h, Option.some.injEq, Prod.mk.injEq] at h'
    rw [h'.1, h'.2]
  next h' => rw [h] at h'; cases h'

theorem tokens_quoted (s : String) (rest : List Char) :
    tokens textOf? (quoted s ++ rest) = .string (some s) :: tokens textOf? rest := by
  have h : next? textOf? quote (s.toList.flatMap escape ++ quote :: rest)
      = some (.string (some s), rest) := by
    rw [← textOf?_ofChar s]
    change (pieces? _).map _ = _
    rw [pieces?_escapes]
    rfl
  rw [quoted, List.cons_append, List.cons_append, List.append_assoc, List.singleton_append]
  exact tokens_cons (by decide) h

theorem tokens_intText (z : Int) (h : EndsNumber rest) :
    tokens textOf? (intText z ++ rest) = .number (.ofInt z) :: tokens textOf? rest := by
  by_cases hz : z < 0
  · rw [intText, if_pos hz, List.singleton_append, List.cons_append]
    refine tokens_cons (by decide) ?_
    change (unsigned? true _).map _ = _
    rw [unsigned?_toDigits true _ h, Literal.ofInt, decide_eq_true hz]
    rfl
  · rw [intText, if_neg hz, List.nil_append]
    obtain ⟨c, cs, hcs⟩ := List.exists_cons_of_ne_nil (Nat.toDigits_ne_nil (n := z.natAbs) (b := 10))
    have hc : Numeral.isDigit c = true := Numeral.isDigit_of_mem_toDigits (by rw [hcs]; simp)
    have hblank : isBlank c = false := not_isBlank_of_isDigit hc
    rw [hcs, List.cons_append]
    refine tokens_cons hblank ?_
    rw [next?_of_isDigit hc, ← List.cons_append, ← hcs, unsigned?_toDigits false _ h,
      Literal.ofInt, decide_eq_false hz]
    rfl

theorem endsNumber_itemsText (vs : List Value) (h : EndsNumber rest) :
    EndsNumber (itemsText vs ++ rest) := by
  cases vs with
  | nil => exact h
  | cons v vs => rw [itemsText]; exact endsNumber_comma _

theorem endsNumber_membersText (ms : List (String × Value)) (h : EndsNumber rest) :
    EndsNumber (membersText ms ++ rest) := by
  cases ms with
  | nil => exact h
  | cons m ms => rw [membersText]; exact endsNumber_comma _

mutual

/-- **The text of a value is cut into the lexemes of the value.** -/
theorem tokens_chars : ∀ (v : Value) (rest : List Char), v.hasDouble = false → EndsNumber rest →
    tokens textOf? (v.chars ++ rest) = v.lexemes ++ tokens textOf? rest
  | .null, rest, _, _ => tokens_cons (by decide) rfl
  | .bool true, rest, _, _ => tokens_cons (by decide) rfl
  | .bool false, rest, _, _ => tokens_cons (by decide) rfl
  | .number (.int z), rest, _, hrest => by
      rw [Value.chars, Number.text]
      exact tokens_intText z hrest
  | .number (.float x), rest, h, _ => by simp [Value.hasDouble] at h
  | .string s, rest, _, _ => by
      rw [Value.chars]
      exact tokens_quoted s rest
  | .array [], rest, _, _ => by
      rw [Value.chars]
      exact (tokens_cons (by decide) rfl).trans (congrArg _ (tokens_cons (by decide) rfl))
  | .array (v :: vs), rest, h, _ => by
      simp only [Value.hasDouble, anyDouble, Bool.or_eq_false_iff] at h
      have hv := tokens_chars v _ h.1 (endsNumber_itemsText vs (endsNumber_closeBracket rest))
      have hvs := tokens_itemsText vs _ h.2 (endsNumber_closeBracket rest)
      have hend : tokens textOf? (']' :: rest) = .closeBracket :: tokens textOf? rest :=
        tokens_cons (by decide) rfl
      simp only [Value.chars, Value.lexemes, List.cons_append, List.append_assoc, List.nil_append]
      rw [tokens_cons (by decide) rfl, hv, hvs, hend]
  | .object [], rest, _, _ => by
      rw [Value.chars]
      exact (tokens_cons (by decide) rfl).trans (congrArg _ (tokens_cons (by decide) rfl))
  | .object ((k, v) :: ms), rest, h, _ => by
      simp only [Value.hasDouble, anyDoubleMember, Bool.or_eq_false_iff] at h
      have hv := tokens_chars v _ h.1 (endsNumber_membersText ms (endsNumber_closeBrace rest))
      have hms := tokens_membersText ms _ h.2 (endsNumber_closeBrace rest)
      have hend : tokens textOf? (closeBrace :: rest) = .closeBrace :: tokens textOf? rest :=
        tokens_cons (by decide) rfl
      simp only [Value.chars, Value.lexemes, List.cons_append, List.append_assoc, List.nil_append]
      rw [tokens_cons (by decide) rfl, tokens_quoted, tokens_cons (by decide) rfl, hv, hms, hend]

theorem tokens_itemsText : ∀ (vs : List Value) (rest : List Char), anyDouble vs = false →
    EndsNumber rest → tokens textOf? (itemsText vs ++ rest) = itemLexemes vs ++ tokens textOf? rest
  | [], rest, _, _ => rfl
  | v :: vs, rest, h, hrest => by
      simp only [anyDouble, Bool.or_eq_false_iff] at h
      have hv := tokens_chars v _ h.1 (endsNumber_itemsText vs hrest)
      have hvs := tokens_itemsText vs rest h.2 hrest
      simp only [itemsText, itemLexemes, List.cons_append, List.append_assoc]
      rw [tokens_cons (by decide) rfl, hv, hvs]

theorem tokens_membersText : ∀ (ms : List (String × Value)) (rest : List Char),
    anyDoubleMember ms = false → EndsNumber rest →
    tokens textOf? (membersText ms ++ rest) = memberLexemes ms ++ tokens textOf? rest
  | [], rest, _, _ => rfl
  | (k, v) :: ms, rest, h, hrest => by
      simp only [anyDoubleMember, Bool.or_eq_false_iff] at h
      have hv := tokens_chars v _ h.1 (endsNumber_membersText ms hrest)
      have hms := tokens_membersText ms rest h.2 hrest
      simp only [membersText, memberLexemes, List.cons_append, List.append_assoc]
      rw [tokens_cons (by decide) rfl, tokens_quoted, tokens_cons (by decide) rfl, hv, hms]

end

theorem tokens_render {v : Value} (h : v.hasDouble = false) :
    tokens textOf? v.render.toList = v.lexemes := by
  have hchars := tokens_chars v [] h endsNumber_nil
  rw [List.append_nil] at hchars
  rw [Value.render, String.toList_ofList, hchars, tokens, List.append_nil]

end Json

end OrderDesk
