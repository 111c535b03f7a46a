/-!
# Text/Hex — bytes as hexadecimal digits

Two digits per byte, high half first.  Writing uses lower case.  Reading takes either case and skips
one leading `0x` or `0X`; it refuses an odd length before it looks at the digits, and names the first
byte of the text that is no digit.  `decode_encode` says that what is written reads back.
-/

namespace OrderDesk.Hex

/-- What is wrong with a text that should be hexadecimal. -/
inductive Fault where
  /-- The digits do not pair up. -/
  | oddLength
  /-- The byte at this offset of the digits is no digit. -/
  | badDigit (byte : UInt8) (offset : Nat)
deriving DecidableEq, Repr

/-- The digit of a value below sixteen, in lower case. -/
def digit (n : Nat) : Char :=
  if n < 10 then Char.ofNat (48 + n) else Char.ofNat (87 + n)

/-- The value of a digit of either case. -/
def value? (c : Char) : Option Nat :=
  let n := c.toNat
  if 48 ≤ n ∧ n ≤ 57 then some (n - 48)
  else if 97 ≤ n ∧ n ≤ 102 then some (n - 87)
  else if 65 ≤ n ∧ n ≤ 70 then some (n - 55)
  else none

/-- Whether a character is a hexadecimal digit. -/
def isDigit (c : Char) : Bool := (value? c).isSome

/-- The two digits of a byte. -/
def ofByte (b : UInt8) : List Char := [digit (b.toNat / 16), digit (b.toNat % 16)]

/-- The digits of a byte string. -/
def encode (bytes : List UInt8) : List Char := bytes.flatMap ofByte

/-- The digits of a byte string, as text. -/
def text (bytes : List UInt8) : String := String.ofList (encode bytes)

/-- The bytes that pairs of digits stand for; nothing for a lone digit or a character that is none. -/
def bytes? : List Char → Option (List UInt8)
  | [] => some []
  | [_] => none
  | high :: low :: rest =>
    match value? high, value? low, bytes? rest with
    | some h, some l, some bs => some (UInt8.ofNat (16 * h + l) :: bs)
    | _, _, _ => none

/-- A text without one leading `0x`. -/
def dropMarker : List Char → List Char
  | '0' :: 'x' :: rest => rest
  | cs => cs

/-- A text without one leading `0x` or `0X`. -/
def dropAnyMarker : List Char → List Char
  | '0' :: 'x' :: rest => rest
  | '0' :: 'X' :: rest => rest
  | cs => cs

/-- The number of bytes that a text takes in UTF-8. -/
def byteLength (cs : List Char) : Nat := (cs.flatMap String.utf8EncodeChar).length

/-- The first byte of a character's UTF-8 form. -/
def leadByte (c : Char) : UInt8 := (String.utf8EncodeChar c).headD 0

/-- The first character that is no digit, with the byte offset at which it stands: everything before
it is a digit and takes one byte. -/
def firstBad? (cs : List Char) : Option (UInt8 × Nat) :=
  match cs.dropWhile isDigit with
  | [] => none
  | c :: _ => some (leadByte c, (cs.takeWhile isDigit).length)

/-- **Reading.**  One marker of either case is skipped, the length is checked first, then the
digits. -/
def decode (cs : List Char) : Except Fault (List UInt8) :=
  let digits := dropAnyMarker cs
  if byteLength digits % 2 = 1 then .error .oddLength
  else match firstBad? digits with
    | some (byte, offset) => .error (.badDigit byte offset)
    | none => .ok ((bytes? digits).getD [])

/-! ## What is written reads back -/

theorem value?_digit : ∀ n < 16, value? (digit n) = some n := by decide

theorem bytes?_encode (bytes : List UInt8) : bytes? (encode bytes) = some bytes := by
  induction bytes with
  | nil => rfl
  | cons b bs ih =>
    have hb : b.toNat < 256 := b.toNat_lt
    have e : encode (b :: bs) = digit (b.toNat / 16) :: digit (b.toNat % 16) :: encode bs := rfl
    simp only [e, bytes?, value?_digit (b.toNat / 16) (by omega),
      value?_digit (b.toNat % 16) (by omega), ih,
      show 16 * (b.toNat / 16) + b.toNat % 16 = b.toNat by omega, UInt8.ofNat_toNat]

/-- A digit is an ASCII character, and no marker. -/
theorem le_of_isDigit {c : Char} (h : isDigit c = true) : c.toNat ≤ 102 ∧ c ≠ 'x' ∧ c ≠ 'X' := by
  have hle : c.toNat ≤ 102 := by
    simp only [isDigit, value?] at h
    split at h
    · omega
    · split at h
      · omega
      · split at h
        · omega
        · cases h
  refine ⟨hle, ?_, ?_⟩
  · rintro rfl
    exact absurd hle (by decide)
  · rintro rfl
    exact absurd h (by decide)

/-- What is written for bytes are digits in lower case. -/
theorem exists_digit_of_mem_encode {bytes : List UInt8} {c : Char} (h : c ∈ encode bytes) :
    ∃ n < 16, c = digit n := by
  obtain ⟨b, -, hc⟩ := List.mem_flatMap.mp h
  have hb : b.toNat < 256 := b.toNat_lt
  rcases List.mem_cons.mp hc with rfl | hc
  · exact ⟨b.toNat / 16, by omega, rfl⟩
  · exact ⟨b.toNat % 16, by omega, List.mem_singleton.mp hc⟩

theorem isDigit_of_mem_encode {bytes : List UInt8} {c : Char} (h : c ∈ encode bytes) :
    isDigit c = true := by
  obtain ⟨n, hn, rfl⟩ := exists_digit_of_mem_encode h
  rw [isDigit, value?_digit n hn]
  rfl

theorem length_encode (bytes : List UInt8) : (encode bytes).length = 2 * bytes.length := by
  induction bytes with
  | nil => rfl
  | cons b bs ih =>
    have e : encode (b :: bs) = ofByte b ++ encode bs := rfl
    rw [e, List.length_append, ih, List.length_cons, ofByte]
    simp only [List.length_cons, List.length_nil]
    omega

section Digits

variable {cs : List Char} (h : ∀ c ∈ cs, isDigit c = true)

include h

/-- Digits begin with no marker. -/
theorem dropAnyMarker_of_isDigit : dropAnyMarker cs = cs := by
  unfold dropAnyMarker
  split
  next rest => exact absurd rfl (le_of_isDigit (h 'x' (by simp))).2.1
  next rest => exact absurd rfl (le_of_isDigit (h 'X' (by simp))).2.2
  next => rfl

theorem dropMarker_of_isDigit : dropMarker cs = cs := by
  unfold dropMarker
  split
  next rest => exact absurd rfl (le_of_isDigit (h 'x' (by simp))).2.1
  next => rfl

/-- A digit takes one byte. -/
theorem byteLength_of_isDigit : byteLength cs = cs.length := by
  induction cs with
  | nil => rfl
  | cons c cs ih =>
    rw [List.forall_mem_cons] at h
    have hc : (String.utf8EncodeChar c).length = 1 := by
      have hle : c.toNat ≤ 127 := Nat.le_trans (le_of_isDigit h.1).1 (by decide)
      rw [String.length_utf8EncodeChar]
      exact Char.utf8Size_eq_one_iff.mpr hle
    have ih := ih h.2
    rw [byteLength] at ih ⊢
    rw [List.flatMap_cons, List.length_append, hc, ih, List.length_cons, Nat.add_comm]

theorem firstBad?_of_isDigit : firstBad? cs = none := by
  have hdrop : (cs ++ []).dropWhile isDigit = [] := List.dropWhile_append_of_pos h
  rw [List.append_nil] at hdrop
  rw [firstBad?, hdrop]

end Digits

/-- **What is written reads back,** also behind a marker. -/
theorem decode_encode_of_dropAnyMarker {cs : List Char} {bytes : List UInt8}
    (h : dropAnyMarker cs = encode bytes) : decode cs = .ok bytes := by
  have hall : ∀ c ∈ encode bytes, isDigit c = true := fun c hc => isDigit_of_mem_encode hc
  have heven : ¬ byteLength (encode bytes) % 2 = 1 := by
    rw [byteLength_of_isDigit hall, length_encode]
    omega
  simp only [decode, h, if_neg heven, firstBad?_of_isDigit hall, bytes?_encode, Option.getD_some]

theorem decode_encode (bytes : List UInt8) : decode (encode bytes) = .ok bytes :=
  decode_encode_of_dropAnyMarker (dropAnyMarker_of_isDigit fun _ hc => isDigit_of_mem_encode hc)

end OrderDesk.Hex
