import Mathlib.Data.List.Induction
import OrderDesk.Proofs.Wire.Texts

/-!
# Proofs/Identifier/Width — which bytes are read as which value

    bytes ──▸ 0 … 0 ⌢ bytes ──▸ chain            bytes ──▸ bytes ⌢ 0 … 0 ──▸ address

Fewer bytes than a value takes are brought to its width by zeros, in front for numbers and chains and
behind for addresses.  Each reading of bytes is told by the bytes of what it gives.
-/

namespace OrderDesk

variable {bytes : List UInt8} {n : Nat}

/-! ## Numbers as bytes -/

namespace Bytes

theorem toNat_lt : ∀ bytes : List UInt8, toNat bytes < Nat.pow 256 bytes.length := by
  intro bytes
  induction bytes using List.reverseRecOn with
  | nil => exact Nat.one_pos
  | append_singleton bytes b ih =>
    have hb := b.toNat_lt
    have hpow : Nat.pow 256 (bytes.length + 1) = Nat.pow 256 bytes.length * 256 := rfl
    rw [toNat_append, List.length_append, List.length_singleton, hpow]
    omega

/-- **Bytes are read back from their number.** -/
theorem ofNat_toNat (bytes : List UInt8) : ofNat bytes.length (toNat bytes) = bytes := by
  induction bytes using List.reverseRecOn with
  | nil => rfl
  | append_singleton bytes b ih =>
    have hb := b.toNat_lt
    have hdiv : (256 * toNat bytes + b.toNat) / 256 = toNat bytes := by omega
    have hlast : UInt8.ofNat (256 * toNat bytes + b.toNat) = b := by
      rw [← UInt8.toNat_inj, UInt8.toNat_ofNat']
      omega
    rw [ofNat] at ih
    rw [toNat_append, List.length_append, List.length_singleton, ofNat, ofNatLittle,
      List.reverse_cons, hdiv, hlast, ih]

/-- Zeros in front do not count. -/
theorem toNat_replicate_append (k : Nat) (bytes : List UInt8) :
    toNat (List.replicate k 0 ++ bytes) = toNat bytes := by
  induction k with
  | zero => rfl
  | succ k ih => exact ih

end Bytes

/-! ## Bytes at a width -/

namespace FixedBytes

variable {p : FixedBytes n}

theorem ext_toList {p q : FixedBytes n} (h : p.toList = q.toList) : p = q := by
  cases p
  cases q
  cases h
  rfl

theorem ofList?_eq_some_iff : ofList? bytes = some p ↔ p.toList = bytes := by
  refine ⟨fun h => ?_, fun h => p.ofList?_eq h.symm⟩
  rw [ofList?] at h
  split at h
  · rw [← Option.some.inj h]
  · contradiction

theorem padLeft?_eq_some_iff :
    padLeft? bytes = some p ↔ p.toList = List.replicate (n - bytes.length) 0 ++ bytes :=
  ofList?_eq_some_iff

theorem length_replicate_append (h : bytes.length ≤ n) :
    (List.replicate (n - bytes.length) 0 ++ bytes).length = n := by
  rw [List.length_append, List.length_replicate]
  omega

/-- Bytes up to a width are brought to it by zeros in front. -/
theorem exists_toList_eq (h : bytes.length ≤ n) :
    ∃ p : FixedBytes n, p.toList = List.replicate (n - bytes.length) 0 ++ bytes :=
  ⟨⟨_, length_replicate_append h⟩, rfl⟩

theorem padRight?_eq_some_iff :
    padRight? bytes = some p ↔ p.toList = bytes ++ List.replicate (n - bytes.length) 0 :=
  ofList?_eq_some_iff

end FixedBytes

/-! ## Chains and addresses -/

theorem ChainId.toNat_ofBytes (bytes : FixedBytes 8) :
    (ofBytes bytes).value.toNat = Bytes.toNat bytes.toList := by
  refine UInt64.toNat_ofNat_of_lt ?_
  have hlt := Bytes.toNat_lt bytes.toList
  rwa [bytes.length_eq] at hlt

theorem ChainId.toBytes_ofBytes (bytes : FixedBytes 8) : toBytes (ofBytes bytes) = bytes := by
  refine FixedBytes.ext_toList ?_
  have hback := Bytes.ofNat_toNat bytes.toList
  rwa [bytes.length_eq, ← toNat_ofBytes] at hback

namespace RoutedChain

variable {c : RoutedChain}

theorem toBytes_ofBytes (bytes : FixedBytes 9) : toBytes (ofBytes bytes) = bytes := by
  refine FixedBytes.ext_toList ?_
  obtain ⟨_ | ⟨b, rest⟩, hlength⟩ := bytes
  · contradiction
  · exact congrArg (b :: ·.toList) (ChainId.toBytes_ofBytes ⟨rest, Nat.succ.inj hlength⟩)

/-- **At most nine bytes are read as a chain** whose own bytes they are, but for zeros in front. -/
theorem ofByteList_eq_ok_iff : ofByteList bytes = .ok c
    ↔ c.toBytes.toList = List.replicate (9 - bytes.length) 0 ++ bytes := by
  rw [← FixedBytes.padLeft?_eq_some_iff, ofByteList]
  cases hpad : FixedBytes.padLeft? (n := 9) bytes with
  | none => simp
  | some padded =>
    simp only [Except.ok.injEq, Option.some.injEq]
    constructor
    · rintro rfl
      exact (toBytes_ofBytes padded).symm
    · rintro rfl
      exact c.ofBytes_toBytes

/-- Up to nine bytes are a chain. -/
theorem exists_toBytes_eq (bytes : List UInt8) (h : bytes.length ≤ 9) :
    ∃ c : RoutedChain, c.toBytes.toList = List.replicate (9 - bytes.length) 0 ++ bytes := by
  obtain ⟨p, hp⟩ := FixedBytes.exists_toList_eq h
  exact ⟨ofBytes p, (congrArg FixedBytes.toList (toBytes_ofBytes p)).trans hp⟩

end RoutedChain

/-- **At most 32 bytes are read as an address** whose bytes they are, but for zeros behind. -/
theorem ChainAddress.padAddress_eq_ok_iff {address : FixedBytes 32} :
    padAddress bytes = .ok address
      ↔ address.toList = bytes ++ List.replicate (32 - bytes.length) 0 := by
  rw [← FixedBytes.padRight?_eq_some_iff, padAddress]
  cases FixedBytes.padRight? (n := 32) bytes <;> simp

/-- Up to 32 bytes are an address. -/
theorem ChainAddress.exists_address_eq (bytes : List UInt8) (h : bytes.length ≤ 32) :
    ∃ address : FixedBytes 32, address.toList = bytes ++ List.replicate (32 - bytes.length) 0 := by
  have hlength : (bytes ++ List.replicate (32 - bytes.length) 0).length = 32 := by
    rw [List.length_append, List.length_replicate]
    omega
  exact ⟨⟨_, hlength⟩, rfl⟩

end OrderDesk
