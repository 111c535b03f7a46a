import OrderDesk.Proofs.Crypto.Montgomery
import OrderDesk.Proofs.Crypto.Prime

/-!
# Proofs/Crypto/Exchange — both sides come to one secret

    b ──▸ b • G ──coordinate──▸ a • (b • G) ◂──coordinate── a • G ◂── a

A ladder holds two points that differ by the one it climbs from (`Holds`); a rung doubles one of them
and adds both, so for a scalar it ends at that multiple of the point (`climb_holds`).  A shared secret
is therefore the coordinate of a multiple of a multiple, in whatever order the two are taken
(`sharedSecret_comm`).  A point whose coordinate is zero has order two at most; the ladder does not
climb from it, and even scalars make nothing of it either.
-/

namespace OrderDesk

/-- A number is read back from its bytes, the least significant first. -/
theorem Bytes.toNatLittle_ofNatLittle : ∀ {width n : Nat}, n < 256 ^ width →
    toNatLittle (ofNatLittle width n) = n
  | 0, n, h => (Nat.lt_one_iff.mp h).symm
  | width + 1, n, h => by
      have hrest : n / 256 < 256 ^ width := by
        rw [pow_succ] at h
        exact Nat.div_lt_of_lt_mul (by rwa [Nat.mul_comm] at h)
      have hbyte : (UInt8.ofNat n).toNat = n % 256 := UInt8.toNat_ofNat'
      have hread := toNatLittle_ofNatLittle hrest
      rw [toNatLittle] at hread
      rw [ofNatLittle, toNatLittle, List.foldr_cons, hread, hbyte, Nat.mod_add_div]

namespace Curve25519

open Montgomery WeierstrassCurve.Affine

/-! ## The group -/

/-- The points of the Montgomery form. -/
abbrev Group : Type := (curve (121665 : ZMod p)).Point

theorem cast_ne_zero {n : Nat} (h : n % p ≠ 0) : (n : ZMod p) ≠ 0 := by
  rw [Ne, ZMod.natCast_eq_zero_iff]
  exact fun hdvd => h (Nat.mod_eq_zero_of_dvd hdvd)

theorem two_ne_zero_p : (2 : ZMod p) ≠ 0 := by
  have h : ((2 : Nat) : ZMod p) ≠ 0 := cast_ne_zero (by decide)
  rwa [Nat.cast_ofNat] at h

/-- The second coordinate of the base point. -/
def baseY : Nat := 14781619447589544791020593568409986887264606134616475288964881837755586237401

theorem base_nonsingular : (curve (121665 : ZMod p)).Nonsingular (9 : Nat) baseY := by
  have heq : ((baseY ^ 2 : Nat) : ZMod p)
      = ((9 ^ 3 + (4 * 121665 + 2) * 9 ^ 2 + 9 : Nat) : ZMod p) := by
    rw [ZMod.natCast_eq_natCast_iff']
    decide
  have hne : (baseY : ZMod p) ≠ 0 := cast_ne_zero (by decide)
  refine (nonsingular_iff ..).mpr ⟨equation_iff.mpr ?_, .inr ?_⟩
  · simpa only [Nat.cast_pow, Nat.cast_add, Nat.cast_mul, Nat.cast_ofNat] using heq
  · exact ne_neg two_ne_zero_p hne

/-- The base point of the exchange. -/
noncomputable def exchangeBase : Group := .some _ _ base_nonsingular

/-- **The coordinate of a point;** zero for the neutral one. -/
def coordinate : Group → ZMod p
  | .zero => 0
  | .some x _ _ => x

/-- A coordinate as bytes. -/
def coordinateBytes (u : ZMod p) : List UInt8 := Bytes.ofNatLittle 32 u.val

theorem coordinate_eq_of_shows {P : Group} {X Z : ZMod p} (h : Shows P X Z) :
    X * Z⁻¹ = coordinate P := by
  match P with
  | 0 =>
    obtain ⟨-, rfl⟩ := shows_zero.mp h
    rw [inv_zero, mul_zero]
    rfl
  | .some x y hP =>
    obtain ⟨hZ, rfl⟩ := shows_some.mp h
    exact mul_inv_cancel_right₀ hZ x

/-! ## The ladder -/

variable {l : Ladder} {u n : Nat} {P : Group}

section Rung

variable (u : Nat) (l : Ladder)

theorem cast_rung_x2 : ((l.rung u).x2 : ZMod p) = (l.x2 + l.z2) ^ 2 * (l.x2 - l.z2) ^ 2 := by
  simp only [Ladder.rung, cast_sub, ZMod.natCast_mod, Nat.cast_mul, Nat.cast_add]
  ring

theorem cast_rung_z2 : ((l.rung u).z2 : ZMod p) = ((l.x2 + l.z2) ^ 2 - (l.x2 - l.z2) ^ 2)
    * ((l.x2 + l.z2) ^ 2 + 121665 * ((l.x2 + l.z2) ^ 2 - (l.x2 - l.z2) ^ 2)) := by
  simp only [Ladder.rung, cast_sub, ZMod.natCast_mod, Nat.cast_mul, Nat.cast_add, Nat.cast_ofNat]
  ring

theorem cast_rung_x3 : ((l.rung u).x3 : ZMod p)
    = ((l.x3 - l.z3) * (l.x2 + l.z2) + (l.x3 + l.z3) * (l.x2 - l.z2)) ^ 2 := by
  simp only [Ladder.rung, cast_sub, ZMod.natCast_mod, Nat.cast_mul, Nat.cast_add]
  ring

theorem cast_rung_z3 : ((l.rung u).z3 : ZMod p)
    = u * ((l.x3 - l.z3) * (l.x2 + l.z2) - (l.x3 + l.z3) * (l.x2 - l.z2)) ^ 2 := by
  simp only [Ladder.rung, cast_sub, ZMod.natCast_mod, Nat.cast_mul, Nat.cast_add]
  ring

end Rung

/-- **What a ladder holds:** two points. -/
def Holds (l : Ladder) (R S : Group) : Prop :=
  Shows R (l.x2 : ZMod p) l.z2 ∧ Shows S (l.x3 : ZMod p) l.z3

/-- **A rung doubles one of the two points and adds both.** -/
theorem Holds.rung {R S : Group} (h : Holds l R S) (hD : Shows (S - R) (u : ZMod p) 1)
    (hu : (u : ZMod p) ≠ 0) : Holds (l.rung u) (R + R) (R + S) := by
  constructor
  · rw [cast_rung_x2, cast_rung_z2]
    exact h.1.double two_ne_zero_p
  · rw [cast_rung_x3, cast_rung_z3]
    exact h.1.add two_ne_zero_p h.2 hD hu

theorem Holds.swap {R S : Group} (h : Holds l R S) : Holds l.swap S R := ⟨h.2, h.1⟩

/-- **The ladder climbs to the multiple of a point** by the bits of the scalar. -/
theorem climb_holds (hP : Shows P (u : ZMod p) 1) (hu : (u : ZMod p) ≠ 0) (n : Nat) :
    ∀ (bits : Nat) (l : Ladder), Holds l ((n / 2 ^ bits) • P) ((n / 2 ^ bits + 1) • P) →
      Holds (climb u n bits l) (n • P) ((n + 1) • P)
  | 0, l, h => by
      rw [pow_zero, Nat.div_one] at h
      rwa [climb]
  | bits + 1, l, h => by
      have hhalf : n / 2 ^ (bits + 1) = n / 2 ^ bits / 2 := by rw [pow_succ, Nat.div_div_eq_div_mul]
      rw [hhalf] at h
      rw [climb]
      refine climb_holds hP hu n bits _ ?_
      generalize hq : n / 2 ^ bits = q at h ⊢
      have hbit : n.testBit bits = decide (q % 2 = 1) := by
        rw [Nat.testBit_eq_decide_div_mod_eq, hq]
      by_cases hodd : q % 2 = 1
      · have hD : Shows ((q / 2) • P - (q / 2 + 1) • P) (u : ZMod p) 1 := by
          rw [succ_nsmul, sub_add_cancel_left, shows_neg]
          exact hP
        have hrung := (h.swap.rung hD hu).swap
        rw [← add_nsmul, ← add_nsmul, show q / 2 + 1 + q / 2 = q by omega,
          show q / 2 + 1 + (q / 2 + 1) = q + 1 by omega] at hrung
        simpa only [hbit, hodd, decide_true, if_true] using hrung
      · have hD : Shows ((q / 2 + 1) • P - (q / 2) • P) (u : ZMod p) 1 := by
          rw [succ_nsmul, add_sub_cancel_left]
          exact hP
        have hrung := h.rung hD hu
        rw [← add_nsmul, ← add_nsmul, show q / 2 + q / 2 = q by omega,
          show q / 2 + (q / 2 + 1) = q + 1 by omega] at hrung
        simpa only [hbit, hodd, decide_false, Bool.false_eq_true, if_false] using hrung

/-! ## A ladder from zero -/

/-- A ladder is flat if each of its pairs has a zero in it. -/
def Flat (l : Ladder) : Prop :=
  (l.x2 : ZMod p) * l.z2 = 0 ∧ (l.x3 : ZMod p) * l.z3 = 0

/-- A ladder is level if both of its denominators are zero. -/
def Level (l : Ladder) : Prop := (l.z2 : ZMod p) = 0 ∧ (l.z3 : ZMod p) = 0

theorem Level.flat (h : Level l) : Flat l := by
  rw [Flat, h.1, h.2, mul_zero, mul_zero]
  exact ⟨rfl, rfl⟩

/-- A rung from zero makes a flat ladder level… -/
theorem Flat.rung (h : Flat l) (hu : (u : ZMod p) = 0) : Level (l.rung u) := by
  rw [Level, cast_rung_z2, cast_rung_z3, hu, zero_mul]
  refine ⟨?_, rfl⟩
  linear_combination (4 * (((l.x2 : ZMod p) + l.z2) ^ 2
    + 121665 * ((l.x2 + l.z2) ^ 2 - (l.x2 - l.z2) ^ 2))) * h.1

/-- …and so it is after every step. -/
theorem climb_level (hu : (u : ZMod p) = 0) (n : Nat) :
    ∀ (bits : Nat) (l : Ladder), Flat l → Level (climb u n (bits + 1) l)
  | bits, l, h => by
      have hstep : Level (if n.testBit bits then (l.swap.rung u).swap else l.rung u) := by
        split
        · exact (Flat.rung (l := l.swap) ⟨h.2, h.1⟩ hu).symm
        · exact h.rung hu
      rw [climb]
      cases bits with
      | zero => exact hstep
      | succ bits => exact climb_level hu n bits _ hstep.flat

/-! ## The secret -/

/-- Even multiples of a point whose coordinate is zero are the neutral point, or one like it. -/
theorem coordinate_nsmul_of_zero (heven : 2 ∣ n) (h : coordinate P = 0) :
    coordinate (n • P) = 0 := by
  have htwo : 2 • P = 0 := by
    match P with
    | 0 => exact nsmul_zero 2
    | .some x y hP =>
      obtain rfl : x = 0 := h
      have hy : y = 0 := by
        have heq := equation_iff.mp hP.1
        exact pow_eq_zero_iff (two_ne_zero) |>.mp (by linear_combination heq)
      rw [two_nsmul, Point.add_self_of_Y_eq (by rw [negY_eq, hy, neg_zero])]
  obtain ⟨j, rfl⟩ := heven
  rw [mul_nsmul, htwo, nsmul_zero]
  rfl

theorem sharedSecret_eq (n : Nat) (v : ZMod p) : sharedSecret n (coordinateBytes v)
    = coordinateBytes ((climb v.val n 255 ⟨1, 0, v.val, 1⟩).x2
      * ((climb v.val n 255 ⟨1, 0, v.val, 1⟩).z2 : ZMod p)⁻¹) := by
  have hlt : v.val < p := v.val_lt
  have hread : Bytes.toNatLittle (coordinateBytes v) % Nat.pow 2 255 % p = v.val := by
    rw [coordinateBytes, Bytes.toNatLittle_ofNatLittle (Nat.lt_of_lt_of_le hlt (by decide)),
      Nat.mod_eq_of_lt (Nat.lt_of_lt_of_le hlt (by decide)), Nat.mod_eq_of_lt hlt]
  rw [sharedSecret, hread, coordinateBytes, ← cast_inverse, ← Nat.cast_mul, ZMod.val_natCast]

/-- **A shared secret is the coordinate of a multiple,** for even scalars below `2²⁵⁵`. -/
theorem sharedSecret_coordinateBytes (heven : 2 ∣ n) (hn : n < 2 ^ 255) (P : Group) :
    sharedSecret n (coordinateBytes (coordinate P)) = coordinateBytes (coordinate (n • P)) := by
  have hcast : ((coordinate P).val : ZMod p) = coordinate P := ZMod.natCast_zmod_val _
  rw [sharedSecret_eq]
  congr 1
  by_cases hzero : coordinate P = 0
  · have hflat : Flat ⟨1, 0, (coordinate P).val, 1⟩ := by
      rw [Flat, hcast, hzero, Nat.cast_zero, mul_zero, zero_mul]
      exact ⟨rfl, rfl⟩
    have hlevel := climb_level (hcast.trans hzero) n 254 _ hflat
    rw [hlevel.1, inv_zero, mul_zero, coordinate_nsmul_of_zero heven hzero]
  · have hshows : Shows P ((coordinate P).val : ZMod p) 1 := by
      rw [hcast]
      match P with
      | 0 => exact absurd rfl hzero
      | .some x y hP => exact shows_some.mpr ⟨one_ne_zero, (mul_one x).symm⟩
    have hstart : Holds ⟨1, 0, (coordinate P).val, 1⟩ ((n / 2 ^ 255) • P)
        ((n / 2 ^ 255 + 1) • P) := by
      rw [Nat.div_eq_of_lt hn, zero_nsmul, zero_add, one_nsmul]
      exact ⟨shows_zero.mpr (by simp), by simpa using hshows⟩
    exact coordinate_eq_of_shows
      (climb_holds hshows (by rwa [hcast]) n 255 _ hstart).1

theorem exchangeKey_eq (heven : 2 ∣ n) (hn : n < 2 ^ 255) :
    exchangeKey n = coordinateBytes (coordinate (n • exchangeBase)) := by
  have hbase : Bytes.ofNatLittle 32 9 = coordinateBytes (coordinate exchangeBase) := by
    have hval : (coordinate exchangeBase).val = 9 := by
      rw [exchangeBase, coordinate, ZMod.val_natCast]
      decide
    rw [coordinateBytes, hval]
  rw [exchangeKey, hbase, sharedSecret_coordinateBytes heven hn]

/-- **Both sides come to one secret,** each with its own scalar and the other's key. -/
theorem sharedSecret_comm {m : Nat} (hm : 2 ∣ m) (hmlt : m < 2 ^ 255) (hn : 2 ∣ n)
    (hnlt : n < 2 ^ 255) : sharedSecret m (exchangeKey n) = sharedSecret n (exchangeKey m) := by
  rw [exchangeKey_eq hn hnlt, exchangeKey_eq hm hmlt, sharedSecret_coordinateBytes hm hmlt,
    sharedSecret_coordinateBytes hn hnlt, smul_comm]

/-- A clamped scalar is even and below `2²⁵⁵`. -/
theorem clamp_spec (bytes : List UInt8) : 2 ∣ clamp bytes ∧ clamp bytes < 2 ^ 255 := by
  have htop : 2 ^ 255 = 2 * 2 ^ 254 := Nat.pow_succ'
  have heven : 2 ^ 254 = 2 * 2 ^ 253 := Nat.pow_succ'
  have hlt : Bytes.toNatLittle bytes % 2 ^ 254 < 2 ^ 254 := Nat.mod_lt _ (Nat.two_pow_pos 254)
  rw [clamp, Nat.pow_eq]
  omega

/-- **Two clamped scalars come to one secret,** whatever bytes they are of. -/
theorem sharedSecret_clamp_comm (xs ys : List UInt8) :
    sharedSecret (clamp xs) (exchangeKey (clamp ys))
      = sharedSecret (clamp ys) (exchangeKey (clamp xs)) :=
  sharedSecret_comm (clamp_spec xs).1 (clamp_spec xs).2 (clamp_spec ys).1 (clamp_spec ys).2

end Curve25519

end OrderDesk
