import OrderDesk.Bytes
import OrderDesk.Json.Value
import OrderDesk.Number.Literal
import OrderDesk.Text.Hex

/-!
# Json/Token — the lexemes of a JSON text

Blanks separate lexemes and belong to none.  A string is cut into pieces first, and what the pieces
say depends on what the text is made of: characters (`textOf?`) or bytes, one character standing for
each (`textOfBytes?`).  A string's lexeme holds what it says, or nothing when an escape leaves a
surrogate without its partner or its bytes are no UTF-8: such a string can be passed over but not
read.  Where no lexeme begins, the list of lexemes ends with `invalid`.  Every lexeme takes at least
one character (`next?_length`), which is what makes `tokens` end.
-/

namespace OrderDesk.Json

/-- A lexeme. -/
inductive Token where
  | openBrace
  | closeBrace
  | openBracket
  | closeBracket
  | colon
  | comma
  | null
  | bool (b : Bool)
  | number (l : Literal)
  | string (text : Option String)
  | invalid
deriving DecidableEq, Repr

/-- Space, tab, line feed and carriage return. -/
def isBlank (c : Char) : Bool := c = ' ' || c = '\t' || c = '\n' || c = '\r'

/-! ## Strings -/

/-- A piece of a string: a character, or a 16-bit unit that was written by its number. -/
inductive Piece where
  | char (c : Char)
  | unit (n : Nat)
deriving DecidableEq, Repr

/-- The characters that two-character escapes stand for. -/
def shortEscape? (c : Char) : Option Char :=
  if c = quote ∨ c = '\\' ∨ c = '/' then some c
  else if c = 'b' then some (Char.ofNat 8)
  else if c = 'f' then some (Char.ofNat 12)
  else if c = 'n' then some '\n'
  else if c = 'r' then some '\r'
  else if c = 't' then some '\t'
  else none

/-- The number that four hexadecimal digits denote. -/
def unit? (a b c d : Char) : Option Nat :=
  match Hex.value? a, Hex.value? b, Hex.value? c, Hex.value? d with
  | some a, some b, some c, some d => some (((a * 16 + b) * 16 + c) * 16 + d)
  | _, _, _, _ => none

/-- A piece in front of the pieces that follow. -/
def Piece.before (p : Piece) : Option (List Piece × List Char) → Option (List Piece × List Char)
  | some (ps, rest) => some (p :: ps, rest)
  | none => none

/-- The pieces of a string up to the closing quote, with the text behind it; nothing if the string
has a control character or a bad escape, or does not end. -/
def pieces? : List Char → Option (List Piece × List Char)
  | [] => none
  | '\\' :: 'u' :: a :: b :: c :: d :: rest =>
    match unit? a b c d with
    | some n => Piece.before (.unit n) (pieces? rest)
    | none => none
  | '\\' :: e :: rest =>
    match shortEscape? e with
    | some c => Piece.before (.char c) (pieces? rest)
    | none => none
  | c :: rest =>
    if c = quote then some ([], rest)
    else if c.toNat < 32 ∨ c = '\\' then none
    else Piece.before (.char c) (pieces? rest)

/-- What pieces denote, joined from what a character and what the character of an escape come to: a
high surrogate joins with the low one that follows it, and no surrogate stands alone. -/
def joined? {α : Type} (plain escaped : Char → List α) : List Piece → Option (List α)
  | [] => some []
  | .char c :: ps => (joined? plain escaped ps).map (plain c ++ ·)
  | .unit n :: ps =>
    if 0xD800 ≤ n ∧ n < 0xDC00 then
      match ps with
      | .unit m :: ps =>
        if 0xDC00 ≤ m ∧ m < 0xE000 then
          (joined? plain escaped ps).map
            (escaped (Char.ofNat (0x10000 + (n - 0xD800) * 1024 + (m - 0xDC00))) ++ ·)
        else none
      | _ => none
    else if 0xDC00 ≤ n ∧ n < 0xE000 then none
    else (joined? plain escaped ps).map (escaped (Char.ofNat n) ++ ·)

/-- What the pieces of a string say in a text of characters. -/
def textOf? (ps : List Piece) : Option String :=
  (joined? (fun c => [c]) (fun c => [c]) ps).map String.ofList

/-- What the pieces of a string say in a text of bytes: the bytes that stand there, with those of
the escapes among them, have to be UTF-8 together. -/
def textOfBytes? (ps : List Piece) : Option String :=
  (joined? (fun c => [UInt8.ofNat c.toNat]) String.utf8EncodeChar ps).bind Bytes.toString?

/-! ## Numbers -/

/-- The digits in front of a text, with what follows them. -/
def digits (cs : List Char) : List Char × List Char :=
  (cs.takeWhile Numeral.isDigit, cs.dropWhile Numeral.isDigit)

/-- The fraction in front of a text: a point and at least one digit. -/
def fraction? : List Char → Option (Option (List Char) × List Char)
  | '.' :: cs =>
    let (ds, rest) := digits cs
    if ds.isEmpty then none else some (some ds, rest)
  | cs => some (none, cs)

/-- The sign of an exponent: whether it is a minus, with what follows. -/
def exponentSign : List Char → Bool × List Char
  | '-' :: cs => (true, cs)
  | '+' :: cs => (false, cs)
  | cs => (false, cs)

/-- The exponent in front of a text: its mark, at most one sign and at least one digit. -/
def exponent? : List Char → Option (Option (Bool × List Char) × List Char)
  | [] => some (none, [])
  | c :: cs =>
    if c = 'e' ∨ c = 'E' then
      let (down, cs) := exponentSign cs
      let (ds, rest) := digits cs
      if ds.isEmpty then none else some (some (down, ds), rest)
    else some (none, c :: cs)

/-- A number without its sign: no zero stands in front of another digit. -/
def unsigned? (negative : Bool) (cs : List Char) : Option (Literal × List Char) :=
  let (ds, rest) := digits cs
  if ds.isEmpty ∨ (1 < ds.length ∧ ds.head? = some '0') then none
  else
    match fraction? rest with
    | none => none
    | some (fraction, rest) =>
      match exponent? rest with
      | none => none
      | some (exponent, rest) => some (⟨negative, ds, fraction, exponent⟩, rest)

/-! ## Lexemes -/

/-- What follows a word, if a text begins with it. -/
def afterWord? (word cs : List Char) : Option (List Char) :=
  if word.isPrefixOf cs then some (cs.drop word.length) else none

/-- The lexeme that begins with a character, with the text behind it.  `says?` is what the pieces of
a string say. -/
def next? (says? : List Piece → Option String) (c : Char) (cs : List Char) : Option (Token × List Char) :=
  match c with
  | '\x7b' => some (.openBrace, cs)
  | '\x7d' => some (.closeBrace, cs)
  | '[' => some (.openBracket, cs)
  | ']' => some (.closeBracket, cs)
  | ':' => some (.colon, cs)
  | ',' => some (.comma, cs)
  | 'n' => (afterWord? ['u', 'l', 'l'] cs).map (.null, ·)
  | 't' => (afterWord? ['r', 'u', 'e'] cs).map (.bool true, ·)
  | 'f' => (afterWord? ['a', 'l', 's', 'e'] cs).map (.bool false, ·)
  | '-' => (unsigned? true cs).map fun (l, rest) => (.number l, rest)
  | _ =>
    if c = quote then
      (pieces? cs).map fun (ps, rest) => (.string (says? ps), rest)
    else if Numeral.isDigit c then
      (unsigned? false (c :: cs)).map fun (l, rest) => (.number l, rest)
    else none

/-! ## Every lexeme takes a character -/

theorem digits_length (cs : List Char) : (digits cs).2.length ≤ cs.length :=
  (List.dropWhile_suffix _).length_le

theorem fraction?_length {cs rest : List Char} {f : Option (List Char)}
    (h : fraction? cs = some (f, rest)) : rest.length ≤ cs.length := by
  unfold fraction? at h
  split at h
  · rename_i cs'
    have := digits_length cs'
    grind
  · grind

theorem exponent?_length {cs rest : List Char} {e : Option (Bool × List Char)}
    (h : exponent? cs = some (e, rest)) : rest.length ≤ cs.length := by
  unfold exponent? at h
  split at h
  · grind
  · rename_i c cs'
    have h1 : (exponentSign cs').2.length ≤ cs'.length := by
      unfold exponentSign; split <;> simp
    have h2 := digits_length (exponentSign cs').2
    grind

theorem unsigned?_length {negative : Bool} {cs rest : List Char} {l : Literal}
    (h : unsigned? negative cs = some (l, rest)) : rest.length < cs.length := by
  unfold unsigned? at h
  simp only at h
  split at h
  · simp at h
  · rename_i hd
    have h1 : (digits cs).1.length + (digits cs).2.length = cs.length := by
      rw [digits, ← List.length_append, List.takeWhile_append_dropWhile]
    have h0 : (digits cs).1 ≠ [] := fun e => hd (.inl (by simp [e]))
    have h0 := List.length_pos_iff.mpr h0
    split at h
    · simp at h
    · rename_i f r hf
      have h2 := fraction?_length hf
      split at h
      · simp at h
      · rename_i e r' he
        have h3 := exponent?_length he
        simp only [Option.some.injEq, Prod.mk.injEq] at h
        obtain ⟨-, rfl⟩ := h
        omega

theorem Piece.before_eq_some {p : Piece} {o : Option (List Piece × List Char)} {ps : List Piece}
    {rest : List Char} (h : p.before o = some (ps, rest)) :
    ∃ qs, o = some (qs, rest) ∧ ps = p :: qs := by
  unfold Piece.before at h
  split at h
  · simp only [Option.some.injEq, Prod.mk.injEq] at h
    exact ⟨_, by rw [h.2], h.1.symm⟩
  · simp at h

theorem pieces?_length {cs rest : List Char} {ps : List Piece}
    (h : pieces? cs = some (ps, rest)) : rest.length ≤ cs.length := by
  fun_induction pieces? cs generalizing ps with
  | case1 => simp at h
  | case2 a b c d cs n hn ih =>
    obtain ⟨qs, hq, -⟩ := Piece.before_eq_some h
    have := ih hq
    simp only [List.length_cons]; omega
  | case3 => simp at h
  | case4 e cs _ c hc ih =>
    obtain ⟨qs, hq, -⟩ := Piece.before_eq_some h
    have := ih hq
    simp only [List.length_cons]; omega
  | case5 => simp at h
  | case6 => simp only [Option.some.injEq, Prod.mk.injEq] at h; simp [h.2]
  | case7 => simp at h
  | case8 c cs _ _ _ _ ih =>
    obtain ⟨qs, hq, -⟩ := Piece.before_eq_some h
    have := ih hq
    simp only [List.length_cons]; omega

theorem afterWord?_length {word cs rest : List Char} (h : afterWord? word cs = some rest) :
    rest.length ≤ cs.length := by
  unfold afterWord? at h
  split at h
  · simp only [Option.some.injEq] at h
    simp [← h]
  · simp at h

theorem next?_length {says? : List Piece → Option String} {c : Char} {cs rest : List Char}
    {t : Token} (h : next? says? c cs = some (t, rest)) : rest.length ≤ cs.length := by
  unfold next? at h
  split at h
  iterate 6 · simp only [Option.some.injEq, Prod.mk.injEq] at h; exact h.2 ▸ Nat.le_refl _
  iterate 3
    · simp only [Option.map_eq_some_iff, Prod.mk.injEq] at h
      obtain ⟨r, hr, -, rfl⟩ := h
      exact afterWord?_length hr
  · simp only [Option.map_eq_some_iff, Prod.mk.injEq, Prod.exists] at h
    obtain ⟨l, r, hr, -, rfl⟩ := h
    exact Nat.le_of_lt (unsigned?_length hr)
  · split at h
    · simp only [Option.map_eq_some_iff, Prod.mk.injEq, Prod.exists] at h
      obtain ⟨ps, r, hr, -, rfl⟩ := h
      exact pieces?_length hr
    · split at h
      · simp only [Option.map_eq_some_iff, Prod.mk.injEq, Prod.exists] at h
        obtain ⟨l, r, hr, -, rfl⟩ := h
        exact Nat.le_of_lt_succ (unsigned?_length hr)
      · simp at h

/-- **The lexemes of a text.**  `says?` is what the pieces of a string say. -/
def tokens (says? : List Piece → Option String) : List Char → List Token
  | [] => []
  | c :: cs =>
    if isBlank c then tokens says? cs
    else
      match _h : next? says? c cs with
      | some (t, rest) => t :: tokens says? rest
      | none => [.invalid]
termination_by cs => cs.length
decreasing_by
  · simp
  · have := next?_length _h
    simp only [List.length_cons]; omega

end OrderDesk.Json
