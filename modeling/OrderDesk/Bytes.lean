/-!
# Bytes — byte strings of fixed width, and numbers as bytes

`FixedBytes n` holds exactly `n` bytes.  A shorter byte string is brought to the width by zeros on
the left (numbers) or on the right (addresses); a longer one has no such form.
-/

namespace OrderDesk

/-- Exactly `n` bytes. -/
structure FixedBytes (n : Nat) where
  /-- The bytes, first to last. -/
  toList : List UInt8
  /-- There are `n` of them. -/
  length_eq : toList.length = n
deriving DecidableEq

namespace FixedBytes

variable {n : Nat}

/-- A byte string of the right length. -/
def ofList? (bytes : List UInt8) : Option (FixedBytes n) :=
  if h : bytes.length = n then some ⟨bytes, h⟩ else none

/-- All bytes zero. -/
def zero : FixedBytes n := ⟨List.replicate n 0, List.length_replicate⟩

/-- Zeros before the bytes, up to the width; nothing if there are too many bytes. -/
def padLeft? (bytes : List UInt8) : Option (FixedBytes n) :=
  ofList? (List.replicate (n - bytes.length) 0 ++ bytes)

/-- Zeros after the bytes, up to the width; nothing if there are too many bytes. -/
def padRight? (bytes : List UInt8) : Option (FixedBytes n) :=
  ofList? (bytes ++ List.replicate (n - bytes.length) 0)

/-- The first bytes. -/
def take (bytes : FixedBytes n) (k : Nat) (h : k ≤ n) : FixedBytes k :=
  ⟨bytes.toList.take k, by simp [bytes.length_eq, h]⟩

end FixedBytes

namespace Bytes

/-- The number that bytes denote, the most significant first. -/
def toNat (bytes : List UInt8) : Nat := bytes.foldl (fun n b => 256 * n + b.toNat) 0

/-- The number that bytes denote, the least significant first. -/
def toNatLittle (bytes : List UInt8) : Nat := bytes.foldr (fun b n => b.toNat + 256 * n) 0

/-- The last `width` bytes of a number, the least significant first. -/
def ofNatLittle : (width : Nat) → Nat → List UInt8
  | 0, _ => []
  | width + 1, n => UInt8.ofNat n :: ofNatLittle width (n / 256)

/-- The last `width` bytes of a number, the most significant first. -/
def ofNat (width n : Nat) : List UInt8 := (ofNatLittle width n).reverse

theorem length_ofNatLittle : ∀ width n : Nat, (ofNatLittle width n).length = width
  | 0, _ => rfl
  | width + 1, n => by rw [ofNatLittle, List.length_cons, length_ofNatLittle width]

@[simp] theorem length_ofNat (width n : Nat) : (ofNat width n).length = width := by
  simp [ofNat, length_ofNatLittle]

/-- The bytes of a text in UTF-8. -/
def ofString (s : String) : List UInt8 := s.toList.flatMap String.utf8EncodeChar

/-- The text that bytes hold, if they are UTF-8. -/
def toString? (bytes : List UInt8) : Option String :=
  String.fromUTF8? ⟨bytes.toArray⟩

/-- The bytes of a text hold the text. -/
@[simp] theorem toString?_ofString (s : String) : toString? (ofString s) = some s := by
  have hbytes : (⟨(s.toList.flatMap String.utf8EncodeChar).toArray⟩ : ByteArray) = s.toByteArray := by
    rw [← String.utf8Encode_toList, List.utf8Encode]
    apply ByteArray.ext
    simp
  rw [toString?, ofString, hbytes, String.fromUTF8?, dif_pos s.isValidUTF8]
  rfl

/-- **A text is told from its bytes.** -/
theorem ofString_inj {s t : String} : ofString s = ofString t ↔ s = t := by
  refine ⟨fun h => ?_, congrArg ofString⟩
  have hback := toString?_ofString s
  rw [h, toString?_ofString] at hback
  exact (Option.some.inj hback).symm

end Bytes

end OrderDesk
