import OrderDesk.Signer
import OrderDesk.Proofs.Json.Lexemes

/-!
# Proofs/Signing/Squeezed — what is signed of a compact text

A signer leaves out the spaces, carriage returns and line feeds of a text.  A compact text has none
between its lexemes, and inside its strings the line ends are escaped, so that only the spaces of
strings are left out: what is signed is the compact text of the value with these squeezed out
(`signedBytes_render`).
-/

namespace OrderDesk

/-- A text without its spaces. -/
def squeeze (s : String) : String := String.ofList (s.toList.filter fun c => c ≠ ' ')

theorem squeeze_eq_self_iff {s : String} : squeeze s = s ↔ ' ' ∉ s.toList := by
  have hlist : squeeze s = s ↔ (s.toList.filter fun c => c ≠ ' ') = s.toList := by
    constructor
    · intro h
      have htoList := congrArg String.toList h
      rwa [squeeze, String.toList_ofList] at htoList
    · intro h
      rw [squeeze, h, String.ofList_toList]
  rw [hlist, List.filter_eq_self]
  constructor
  · intro hall hmem
    exact absurd (hall ' ' hmem) (by decide)
  · intro hmem c hc
    rw [decide_eq_true_eq]
    rintro rfl
    exact hmem hc

namespace Json

/-- Whether a character of a text is signed. -/
def isSigned (c : Char) : Bool := !Signer.isSkipped c

theorem isSigned_of_isDigit {c : Char} (h : Numeral.isDigit c = true) : isSigned c = true := by
  have hne : ∀ d, Numeral.isDigit d = false → c ≠ d := fun d => Numeral.ne_of_isDigit h
  simp [isSigned, Signer.isSkipped, hne ' ' rfl, hne '\r' rfl, hne '\n' rfl]

/-! ## Strings -/

/-- **Only a space is not signed:** line ends are escaped. -/
theorem isSigned_escape {c : Char} (hc : c ≠ ' ') : (escape c).all isSigned = true := by
  have hcontrol : ∀ n < 32, (controlEscape (Char.ofNat n)).all isSigned = true := by decide
  unfold escape
  split
  next => decide
  split
  next => decide
  split
  next hlt =>
    -- the short escapes are the same for every control character
    split
    next => decide
    split
    next => decide
    split
    next => decide
    split
    next => decide
    split
    next => decide
    next =>
      have hescape := hcontrol c.toNat hlt
      rwa [Char.ofNat_toNat] at hescape
  next hlt =>
    have hne : ∀ e : Char, e.toNat < 32 → c ≠ e := by
      rintro e he rfl
      exact hlt he
    simp [isSigned, Signer.isSkipped, hc, hne '\r' (by decide), hne '\n' (by decide)]

theorem filter_escape (c : Char) :
    (escape c).filter isSigned = if c = ' ' then [] else escape c := by
  split
  next h =>
    subst h
    decide
  next h => exact List.filter_eq_self.mpr (List.all_eq_true.mp (isSigned_escape h))

theorem filter_escapes (cs : List Char) :
    (cs.flatMap escape).filter isSigned = (cs.filter fun c => c ≠ ' ').flatMap escape := by
  induction cs with
  | nil => rfl
  | cons c cs ih =>
    rw [List.flatMap_cons, List.filter_append, filter_escape, ih]
    by_cases hc : c = ' '
    · simp [hc]
    · simp [hc]

theorem filter_quoted (s : String) : (quoted s).filter isSigned = quoted (squeeze s) := by
  have hquote : isSigned quote = true := by decide
  rw [quoted, List.cons_append, List.filter_cons_of_pos hquote, List.filter_append, filter_escapes,
    List.filter_cons_of_pos hquote, List.filter_nil, quoted, squeeze, String.toList_ofList]
  rfl

/-! ## Values -/

mutual

/-- A value with the spaces of its strings squeezed out. -/
def Value.squeezed : Value → Value
  | .string s => .string (squeeze s)
  | .array items => .array (itemsSqueezed items)
  | .object members => .object (membersSqueezed members)
  | v => v

/-- Items with their spaces squeezed out. -/
def itemsSqueezed : List Value → List Value
  | [] => []
  | v :: vs => v.squeezed :: itemsSqueezed vs

/-- Members with their spaces squeezed out, also from the names. -/
def membersSqueezed : List (String × Value) → List (String × Value)
  | [] => []
  | (k, v) :: ms => (squeeze k, v.squeezed) :: membersSqueezed ms

end

theorem filter_intText (z : Int) : (intText z).filter isSigned = intText z := by
  refine List.filter_eq_self.mpr fun c hc => ?_
  rcases List.mem_append.mp hc with hc | hc
  · split at hc
    · rw [List.mem_singleton.mp hc]
      decide
    · cases hc
  · exact isSigned_of_isDigit (Numeral.isDigit_of_mem_toDigits hc)

mutual

/-- **What is signed of a value's text is the text of the squeezed value.** -/
theorem filter_chars : ∀ v : Value, v.hasDouble = false →
    v.chars.filter isSigned = v.squeezed.chars
  | .null, _ => by decide
  | .bool true, _ => by decide
  | .bool false, _ => by decide
  | .number (.int z), _ => filter_intText z
  | .number (.float x), h => by simp [Value.hasDouble] at h
  | .string s, _ => filter_quoted s
  | .array [], _ => by decide
  | .array (v :: vs), h => by
      simp only [Value.hasDouble, anyDouble, Bool.or_eq_false_iff] at h
      have hv := filter_chars v h.1
      have hvs := filter_itemsText vs h.2
      have hopen : isSigned '[' = true := by decide
      have hclose : [']'].filter isSigned = [']'] := by decide
      simp only [Value.chars, Value.squeezed, itemsSqueezed, List.cons_append, List.filter_append,
        List.filter_cons_of_pos hopen, hv, hvs, hclose]
  | .object [], _ => by decide
  | .object ((k, v) :: ms), h => by
      simp only [Value.hasDouble, anyDoubleMember, Bool.or_eq_false_iff] at h
      have hv := filter_chars v h.1
      have hms := filter_membersText ms h.2
      have hopen : isSigned openBrace = true := by decide
      have hcolon : isSigned ':' = true := by decide
      have hclose : [closeBrace].filter isSigned = [closeBrace] := by decide
      simp only [Value.chars, Value.squeezed, membersSqueezed, List.cons_append,
        List.filter_append, List.filter_cons_of_pos hopen, List.filter_cons_of_pos hcolon,
        filter_quoted, hv, hms, hclose]

theorem filter_itemsText : ∀ vs : List Value, anyDouble vs = false →
    (itemsText vs).filter isSigned = itemsText (itemsSqueezed vs)
  | [], _ => rfl
  | v :: vs, h => by
      simp only [anyDouble, Bool.or_eq_false_iff] at h
      have hv := filter_chars v h.1
      have hvs := filter_itemsText vs h.2
      have hcomma : isSigned ',' = true := by decide
      simp only [itemsText, itemsSqueezed, List.cons_append, List.filter_append,
        List.filter_cons_of_pos hcomma, hv, hvs]

theorem filter_membersText : ∀ ms : List (String × Value), anyDoubleMember ms = false →
    (membersText ms).filter isSigned = membersText (membersSqueezed ms)
  | [], _ => rfl
  | (k, v) :: ms, h => by
      simp only [anyDoubleMember, Bool.or_eq_false_iff] at h
      have hv := filter_chars v h.1
      have hms := filter_membersText ms h.2
      have hcomma : isSigned ',' = true := by decide
      have hcolon : isSigned ':' = true := by decide
      simp only [membersText, membersSqueezed, List.cons_append, List.filter_append,
        List.filter_cons_of_pos hcomma, List.filter_cons_of_pos hcolon, filter_quoted, hv, hms]

end

/-- **The bytes that are signed are those of the squeezed value's text.** -/
theorem signedBytes_render {v : Value} (h : v.hasDouble = false) :
    Signer.signedBytes v.render = Bytes.ofString v.squeezed.render := by
  have hfilter := filter_chars v h
  rw [Signer.signedBytes, Bytes.ofString, Value.render, Value.render, String.toList_ofList,
    String.toList_ofList, ← hfilter]
  rfl

end Json

end OrderDesk
