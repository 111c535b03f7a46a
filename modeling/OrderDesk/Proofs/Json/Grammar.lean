import OrderDesk.Json.Token

/-!
# Proofs/Json/Grammar — what a JSON text is

    phrase ──lexemes──▸ lexemes ◂──LexemesText── text

The grammar of JSON, apart from any reader of it.  A phrase is what a text says as it was written:
members in their order and with their repetitions, strings and numbers of every form.  A text of a
phrase is one of its lexemes, with blanks around them (`Phrase.IsText`).
-/

namespace OrderDesk.Json

/-! ## Numbers -/

/-- One digit or more. -/
def IsDigits (ds : List Char) : Prop := ds ≠ [] ∧ ∀ c ∈ ds, Numeral.isDigit c = true

/-- The digits of an integer: no zero stands in front of another digit. -/
def IsInteger (ds : List Char) : Prop := IsDigits ds ∧ (ds.head? = some '0' → ds = ['0'])

/-- A fraction in a text, if there is one. -/
inductive FractionText : Option (List Char) → List Char → Prop
  | none : FractionText none []
  | some {ds : List Char} (h : IsDigits ds) : FractionText (some ds) ('.' :: ds)

/-- The sign of an exponent in a text: a plus may be left out. -/
inductive SignText : Bool → List Char → Prop
  | none : SignText false []
  | plus : SignText false ['+']
  | minus : SignText true ['-']

/-- An exponent in a text, if there is one. -/
inductive ExponentText : Option (Bool × List Char) → List Char → Prop
  | none : ExponentText none []
  | some {c : Char} {down : Bool} {s ds : List Char} (hc : c = 'e' ∨ c = 'E') (hs : SignText down s)
      (h : IsDigits ds) : ExponentText (some (down, ds)) (c :: (s ++ ds))

/-- A number in a text, its own sign apart. -/
inductive UnsignedText (negative : Bool) : Literal → List Char → Prop
  | mk {whole : List Char} {fraction : Option (List Char)} {exponent : Option (Bool × List Char)}
      {f e : List Char} (hw : IsInteger whole) (hf : FractionText fraction f)
      (he : ExponentText exponent e) :
      UnsignedText negative ⟨negative, whole, fraction, exponent⟩ (whole ++ (f ++ e))

/-! ## Strings -/

/-- A piece of a string in a text. -/
inductive PieceText : Piece → List Char → Prop
  | plain {c : Char} (hq : c ≠ quote) (hb : c ≠ '\\') (hc : ¬ c.toNat < 32) :
      PieceText (.char c) [c]
  | short {e c : Char} (h : shortEscape? e = some c) : PieceText (.char c) ['\\', e]
  | unit {a b c d : Char} {n : Nat} (h : unit? a b c d = some n) :
      PieceText (.unit n) ['\\', 'u', a, b, c, d]

/-- The pieces of a string in a text. -/
inductive PiecesText : List Piece → List Char → Prop
  | nil : PiecesText [] []
  | cons {p : Piece} {ps : List Piece} {w cs : List Char} (hp : PieceText p w)
      (hps : PiecesText ps cs) : PiecesText (p :: ps) (w ++ cs)

/-! ## Lexemes -/

/-- **A lexeme in a text.**  A string says what its pieces say, or nothing if a surrogate stands
alone. -/
inductive LexemeText : Token → List Char → Prop
  | openBrace : LexemeText .openBrace ['\x7b']
  | closeBrace : LexemeText .closeBrace ['\x7d']
  | openBracket : LexemeText .openBracket ['[']
  | closeBracket : LexemeText .closeBracket [']']
  | colon : LexemeText .colon [':']
  | comma : LexemeText .comma [',']
  | null : LexemeText .null ['n', 'u', 'l', 'l']
  | true : LexemeText (.bool true) ['t', 'r', 'u', 'e']
  | false : LexemeText (.bool false) ['f', 'a', 'l', 's', 'e']
  | positive {l : Literal} {w : List Char} (h : UnsignedText false l w) : LexemeText (.number l) w
  | negative {l : Literal} {w : List Char} (h : UnsignedText true l w) :
      LexemeText (.number l) ('-' :: w)
  | string {ps : List Piece} {w : List Char} (h : PiecesText ps w) :
      LexemeText (.string (textOf? ps)) (quote :: (w ++ [quote]))

/-- **Lexemes in a text,** with blanks around them. -/
inductive LexemesText : List Token → List Char → Prop
  | nil : LexemesText [] []
  | blank {c : Char} {ts : List Token} {cs : List Char} (hc : isBlank c = true)
      (h : LexemesText ts cs) : LexemesText ts (c :: cs)
  | cons {t : Token} {ts : List Token} {w cs : List Char} (ht : LexemeText t w)
      (h : LexemesText ts cs) : LexemesText (t :: ts) (w ++ cs)

/-! ## Phrases -/

/-- **What a text says,** as it was written.  A string or a name that says nothing is kept as such. -/
inductive Phrase where
  | null
  | bool (b : Bool)
  | number (l : Literal)
  | string (text : Option String)
  | array (items : List Phrase)
  | object (members : List (Option String × Phrase))

namespace Phrase

mutual

/-- **The lexemes of a phrase.** -/
def lexemes : Phrase → List Token
  | .null => [.null]
  | .bool b => [.bool b]
  | .number l => [.number l]
  | .string s => [.string s]
  | .array [] => [.openBracket, .closeBracket]
  | .array (p :: ps) => .openBracket :: (p.lexemes ++ (itemLexemes ps ++ [.closeBracket]))
  | .object [] => [.openBrace, .closeBrace]
  | .object ((k, p) :: ms) =>
    .openBrace :: .string k :: .colon :: (p.lexemes ++ (memberLexemes ms ++ [.closeBrace]))

/-- The lexemes of the items after the first. -/
def itemLexemes : List Phrase → List Token
  | [] => []
  | p :: ps => .comma :: (p.lexemes ++ itemLexemes ps)

/-- The lexemes of the members after the first. -/
def memberLexemes : List (Option String × Phrase) → List Token
  | [] => []
  | (k, p) :: ms => .comma :: .string k :: .colon :: (p.lexemes ++ memberLexemes ms)

end

/-- **A text of a phrase.** -/
def IsText (p : Phrase) (text : String) : Prop := LexemesText p.lexemes text.toList

end Phrase

end OrderDesk.Json
