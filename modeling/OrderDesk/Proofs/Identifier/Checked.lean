import OrderDesk.Proofs.Identifier.Cuts
import OrderDesk.Proofs.Identifier.Spellings

/-!
# Proofs/Identifier/Checked — readings whose every step is checked

    text ──cut──▸ digits ──look up──▸ bytes ──copy──▸ chain

A cut inside a character, a difference below zero and a copy into room of another size have no
outcome.  Here every such step is checked, and a reading with a step that fails gives nothing.  A
checked reading decides as the reading itself does (`Checked.Decides`): none of its steps fails, and
what it refuses is a malformed identifier.  Bytes that do not fit a chain are an overflow to begin
with, which becomes a flaw of the chain on the way out (`RoutedChain.ofByteList_eq`).
-/

namespace OrderDesk

variable {α β : Type}

/-- A reading whose steps are checked: nothing, if one of them has no outcome. -/
abbrev Checked (α : Type) : Type := ExceptT Error Option α

namespace Checked

/-- A reading without such a step. -/
def ofReading (r : Except Error α) : Checked α := ExceptT.mk (some r)

/-- A step with an outcome. -/
theorem liftM_eq {o : Option α} {a : α} (ho : o = some a) : (liftM o : Checked α) = pure a := by
  subst ho
  rfl

/-- **A checked reading decides as a reading does:** every step has an outcome, and what is refused
is a malformed identifier. -/
structure Decides (x : Checked α) (r : Except Error α) : Prop where
  run_eq : x.run = some r
  isMalformed : ∀ e, r = .error e → ∃ flaw, e = .invalidIdentifier flaw

namespace Decides

variable {x : Checked α} {r : Except Error α}

theorem accept (a : α) : Decides (pure a) (.ok a) where
  run_eq := rfl
  isMalformed _ h := by cases h

theorem refuse (flaw : Flaw) : Decides (throw (.invalidIdentifier flaw))
    (.error (.invalidIdentifier flaw) : Except Error α) where
  run_eq := rfl
  isMalformed _ h := ⟨flaw, (Except.error.inj h).symm⟩

theorem bind {f : α → Checked β} {g : α → Except Error β} (hx : Decides x r)
    (hf : ∀ a, Decides (f a) (g a)) : Decides (x >>= f) (r >>= g) where
  run_eq := by
    rw [ExceptT.run_bind, hx.run_eq]
    cases r with
    | ok a => exact (hf a).run_eq
    | error e => rfl
  isMalformed e he := by
    cases r with
    | ok a => exact (hf a).isMalformed e he
    | error e' =>
      have heq : e' = e := Except.error.inj he
      exact hx.isMalformed e (congrArg Except.error heq)

theorem map (f : α → β) (hx : Decides x r) : Decides (f <$> x) (r.map f) := by
  have h := hx.bind fun a => accept (f a)
  cases r <;> exact h

end Decides

end Checked

open Checked (Decides liftM_eq)

/-! ## Bytes at a width -/

namespace Bytes

/-- How many bytes are missing to a width, if it is not exceeded. -/
def missing? (n : Nat) (bytes : List UInt8) : Option Nat :=
  if bytes.length ≤ n then some (n - bytes.length) else none

/-- Bytes copied over others, from one offset to another, if that is room for exactly them. -/
def copy? (start stop : Nat) (source target : List UInt8) : Option (List UInt8) :=
  if start ≤ stop ∧ stop ≤ target.length ∧ source.length = stop - start then
    some (target.take start ++ source ++ target.drop stop)
  else none

end Bytes

/-- Zeros in front up to a width: the bytes are copied behind as many zeros as are missing. -/
def padLeftChecked (n : Nat) (what : String) (bytes : List UInt8) : Checked (FixedBytes n) :=
  if n < bytes.length then throw (.overflow (.width what bytes.length n))
  else do
    let start ← Bytes.missing? n bytes
    let padded ← Bytes.copy? start n bytes (List.replicate n 0)
    return ← FixedBytes.ofList? padded

theorem run_padLeftChecked (n : Nat) (what : String) (bytes : List UInt8) :
    (padLeftChecked n what bytes).run = some (padLeft n what bytes) := by
  by_cases h : n < bytes.length
  · rw [padLeftChecked, if_pos h, padLeft_of_lt h]
    rfl
  · have hle := Nat.le_of_not_lt h
    obtain ⟨p, hpad, hp⟩ := padLeft_of_le what hle
    have hcopy : Bytes.copy? (n - bytes.length) n bytes (List.replicate n 0) = some p.toList := by
      rw [Bytes.copy?, if_pos (by rw [List.length_replicate]; omega), List.take_replicate,
        List.drop_replicate, Nat.sub_self, List.replicate_zero, List.append_nil, hp,
        Nat.min_eq_left (Nat.sub_le _ _)]
    have hmissing : Bytes.missing? n bytes = some (n - bytes.length) := if_pos hle
    have hwidth : FixedBytes.ofList? p.toList = some p := FixedBytes.ofList?_eq_some_iff.mpr rfl
    rw [padLeftChecked, if_neg h, hpad, liftM_eq hmissing, pure_bind, liftM_eq hcopy, pure_bind,
      liftM_eq hwidth]
    rfl

/-! ## Chains -/

namespace RoutedChain

/-- The routed chain of nine bytes: the first of them, and the others copied to eight. -/
def ofBytesChecked (bytes : FixedBytes 9) : Option RoutedChain :=
  match bytes.toList with
  | [] => none
  | routing :: rest => do
    let number ← Bytes.copy? 0 8 rest (List.replicate 8 0)
    let number ← FixedBytes.ofList? number
    some ⟨routing, .ofBytes number⟩

theorem ofBytesChecked_eq (bytes : FixedBytes 9) : ofBytesChecked bytes = some (ofBytes bytes) := by
  obtain ⟨_ | ⟨routing, rest⟩, hlength⟩ := bytes
  · contradiction
  · have hrest : rest.length = 8 := Nat.succ.inj hlength
    have hcopy : Bytes.copy? 0 8 rest (List.replicate 8 0) = some rest := by
      rw [Bytes.copy?, if_pos ⟨by decide, by decide, hrest⟩]
      simp
    have hnumber : FixedBytes.ofList? rest = some ⟨rest, hrest⟩ :=
      FixedBytes.ofList?_eq_some_iff.mpr rfl
    simp only [ofBytesChecked, hcopy, hnumber, Option.bind_eq_bind, Option.bind_some]
    rfl

/-- Bytes that do not fit are a chain of the wrong length. -/
def asFlaw : Error → Error
  | .overflow (.width _ bytes _) => .invalidIdentifier (.chainLength bytes)
  | e => e

/-- **An overflow on the way to a chain is a flaw of it.** -/
theorem ofByteList_eq (bytes : List UInt8) : ofByteList bytes
    = ((padLeft 9 "chain" bytes).mapError asFlaw >>= fun padded => .ok (ofBytes padded)) := by
  rw [ofByteList, padLeft]
  cases FixedBytes.padLeft? (n := 9) bytes <;> rfl

/-- At most nine bytes as a chain. -/
def ofByteListChecked (bytes : List UInt8) : Checked RoutedChain := do
  let padded ← (padLeftChecked 9 "chain" bytes).adapt asFlaw
  return ← ofBytesChecked padded

theorem decides_ofByteList (bytes : List UInt8) :
    Decides (ofByteListChecked bytes) (ofByteList bytes) := by
  have hpad : Decides ((padLeftChecked 9 "chain" bytes).adapt asFlaw)
      ((padLeft 9 "chain" bytes).mapError asFlaw) := by
    refine ⟨congrArg (Option.map (Except.mapError asFlaw)) (run_padLeftChecked 9 "chain" bytes),
      fun e he => ?_⟩
    by_cases h : 9 < bytes.length
    · rw [padLeft_of_lt h] at he
      exact ⟨_, (Except.error.inj he).symm⟩
    · obtain ⟨p, hp, -⟩ := padLeft_of_le "chain" (Nat.le_of_not_lt h)
      rw [hp] at he
      cases he
  rw [ofByteListChecked, ofByteList_eq]
  refine hpad.bind fun padded => ?_
  rw [liftM_eq (ofBytesChecked_eq padded)]
  exact .accept _

end RoutedChain

/-! ## Texts -/

/-- Digits in pairs, each of them looked up. -/
def Hex.decodeChecked (cs : List Char) : Option (Except Fault (List UInt8)) :=
  let digits := dropAnyMarker cs
  if byteLength digits % 2 = 1 then some (.error .oddLength)
  else match firstBad? digits with
    | some (byte, offset) => some (.error (.badDigit byte offset))
    | none => (bytes? digits).map .ok

theorem Hex.decodeChecked_eq (cs : List Char) : decodeChecked cs = some (decode cs) := by
  simp only [decodeChecked, decode]
  split
  · rfl
  · next heven =>
    cases hbad : firstBad? (dropAnyMarker cs) with
    | some bad => rfl
    | none =>
      have hall := firstBad?_eq_none_iff.mp hbad
      rw [byteLength_of_isDigit hall] at heven
      obtain ⟨bytes, hspells⟩ := exists_spells (by omega) hall
      simp only [bytes?_eq_some_iff.mpr hspells, Option.map_some, Option.getD_some]

/-- Bytes from a hexadecimal text, the marker cut off. -/
def decodeHexChecked (s : String) : Checked (List UInt8) := do
  let digits ← Text.unmarked? s
  match ← Hex.decodeChecked digits.toList with
  | .ok bytes => return bytes
  | .error fault => throw (.invalidIdentifier (.notHex digits fault))

theorem decides_decodeHex (cs : List Char) :
    Decides (decodeHexChecked (String.ofList cs)) (decodeHex cs) := by
  rw [decodeHexChecked, liftM_eq (Text.unmarked?_eq _), pure_bind,
    liftM_eq (Hex.decodeChecked_eq _), pure_bind, String.toList_ofList, String.toList_ofList,
    decodeHex]
  cases Hex.decode (Hex.dropMarker cs) with
  | ok bytes => exact .accept bytes
  | error fault => exact .refuse _

/-- A text as a chain. -/
def RoutedChain.parseChecked (text : String) : Checked RoutedChain := do
  let digits ← Text.unmarked? text
  if (Bytes.ofString digits).length = 2 * width then decodeHexChecked digits >>= ofByteListChecked
  else throw (.invalidIdentifier (.chainDigits text))

theorem RoutedChain.decides_parse (text : String) : Decides (parseChecked text) (parse text) := by
  have hlength : (Bytes.ofString (String.ofList (Hex.dropMarker text.toList))).length
      = Hex.byteLength (Hex.dropMarker text.toList) := by
    rw [Bytes.ofString, String.toList_ofList, Hex.byteLength]
  rw [parseChecked, liftM_eq (Text.unmarked?_eq text), pure_bind, hlength, parse]
  split
  · exact (decides_decodeHex _).bind decides_ofByteList
  · exact .refuse _

end OrderDesk
