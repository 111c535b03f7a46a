import Mathlib.Algebra.Order.Floor.Semifield
import Mathlib.Data.Rat.Floor
import Mathlib.Tactic.FieldSimp
import OrderDesk.Amount.Rescale

/-!
# Proofs/Amount/Exact — what rescaling computes

    amount at d ──▸ amount / 10 ^ d ──▸ amount / 10 ^ d · 10 ^ e ──▸ floor or ceiling

What an amount stands for is a rational, and rescaling rounds it once, in units of the other
decimals (`rescale_exact`).  A number of more than 128 bits is an overflow.  So is zero times a
power of ten of more than 128 bits, since the power is taken first (`not_rescale_exact`).
-/

namespace OrderDesk

/-! ## Rounding -/

namespace Rounding

variable {r : Rounding} {q : ℚ} {a n : ℕ}

/-- The whole number that a rational is rounded to. -/
def round : Rounding → ℚ → ℕ
  | .down, q => ⌊q⌋₊
  | .up, q => ⌈q⌉₊

@[simp] theorem round_natCast (r : Rounding) (n : ℕ) : r.round n = n := by
  cases r with
  | down => exact Nat.floor_natCast n
  | up => exact Nat.ceil_natCast n

theorem round_mono (r : Rounding) : Monotone r.round := by
  cases r with
  | down => exact Nat.floor_mono
  | up => exact Nat.ceil_mono

/-- **Rounding twice is rounding once,** if all that comes between is a division. -/
theorem round_div_natCast (hn : 0 < n) : r.round (r.round q / n) = r.round (q / n) := by
  have hpos : (0 : ℚ) < n := Nat.cast_pos.mpr hn
  cases r with
  | down =>
    simp only [round]
    rw [Nat.floor_div_eq_div, Nat.floor_div_natCast]
  | up =>
    refine eq_of_forall_ge_iff fun m => ?_
    simp only [round]
    rw [Nat.ceil_le, div_le_iff₀ hpos, ← Nat.cast_mul, Nat.cast_le, Nat.ceil_le, Nat.cast_mul,
      ← div_le_iff₀ hpos, Nat.ceil_le]

theorem divide_up_le_iff {m : ℕ} (hn : 0 < n) : divide .up a n ≤ m ↔ a ≤ m * n := by
  have hsplit : n * (a / n) + a % n = a := Nat.div_add_mod a n
  have hrest : a % n < n := Nat.mod_lt a hn
  rw [Nat.mul_comm m n, divide]
  split
  · next hzero =>
    rw [Nat.add_zero, ← Nat.mul_le_mul_left_iff hn]
    omega
  · next hzero =>
    constructor
    · intro h
      have hmul : n * (a / n + 1) ≤ n * m := Nat.mul_le_mul_left n h
      rw [Nat.mul_add] at hmul
      omega
    · intro h
      exact Nat.lt_of_mul_lt_mul_left (a := n) (by omega)

/-- The rounded quotient of whole numbers is the rational rounded. -/
theorem divide_eq_round (hn : 0 < n) : r.divide a n = r.round (a / n) := by
  cases r with
  | down => exact (Nat.floor_div_eq_div a n).symm
  | up =>
    refine eq_of_forall_ge_iff fun m => ?_
    rw [divide_up_le_iff hn, round, Nat.ceil_le, div_le_iff₀ (Nat.cast_pos.mpr hn), ← Nat.cast_mul,
      Nat.cast_le]

end Rounding

/-! ## The value of an amount -/

namespace Amount

variable {a b : Amount} {r : Rounding} {d e : UInt8} {fault : Error}

/-- What an amount at a number of decimals stands for. -/
def worth (a : Amount) (d : UInt8) : ℚ := a.val / 10 ^ d.toNat

theorem worth_mul_of_le (h : d ≤ e) :
    a.worth d * 10 ^ e.toNat = (a.val * 10 ^ (e.toNat - d.toNat) : ℕ) := by
  rw [worth, ← pow_sub_mul_pow (10 : ℚ) (UInt8.le_iff_toNat_le.mp h)]
  push_cast
  field_simp

theorem worth_mul_of_ge (h : e ≤ d) :
    a.worth d * 10 ^ e.toNat = a.val / (10 ^ (d.toNat - e.toNat) : ℕ) := by
  rw [worth, ← pow_sub_mul_pow (10 : ℚ) (UInt8.le_iff_toNat_le.mp h)]
  push_cast
  field_simp

/-! ## Rescaling -/

theorem tenPow_lt_iff {k : ℕ} : Nat.pow 10 k < Nat.pow 2 128 ↔ k < 39 := by
  constructor
  · intro h
    by_contra hk
    have hpow : Nat.pow 10 39 ≤ Nat.pow 10 k := Nat.pow_le_pow_right (by decide) (by omega)
    exact absurd (Nat.lt_of_le_of_lt hpow h) (by decide)
  · intro h
    have hpow : Nat.pow 10 k ≤ Nat.pow 10 38 := Nat.pow_le_pow_right (by decide) (by omega)
    exact Nat.lt_of_le_of_lt hpow (by decide)

theorem rescale_of_le (h : d ≤ e) : a.rescale d e r = a.raise d e (e.toNat - d.toNat) := by
  by_cases hlt : d < e
  · exact rescale_eq (rescale?_of_lt hlt)
  · obtain rfl : d = e := UInt8.le_antisymm h (UInt8.not_lt.mp hlt)
    rw [rescale_eq rescale?_self, Nat.sub_self, eq_comm, raise_eq_ok_iff]
    exact ⟨by decide, (Nat.mul_one a.val).symm⟩

theorem rescale_of_ge (h : e ≤ d) :
    a.rescale d e r = .ok (a.divided (Nat.pow 10 (d.toNat - e.toNat)) r) := by
  by_cases hlt : e < d
  · exact rescale_eq (rescale?_of_gt hlt)
  · obtain rfl : d = e := UInt8.le_antisymm (UInt8.not_lt.mp hlt) h
    rw [rescale_eq rescale?_self, Nat.sub_self]
    cases r <;> simp [divided, Rounding.divide, Nat.mod_one]

/-- An amount at fewer decimals is its value rounded. -/
theorem val_divided (h : e ≤ d) : (a.divided (Nat.pow 10 (d.toNat - e.toNat)) r).val
    = r.round (a.worth d * 10 ^ e.toNat) := by
  rw [worth_mul_of_ge h]
  exact Rounding.divide_eq_round (Nat.pow_pos (by decide))

/-- **What is a rescaled amount:** the value rounded, unless zero is scaled up too far… -/
theorem rescale_eq_ok_iff : a.rescale d e r = .ok b
    ↔ b.val = r.round (a.worth d * 10 ^ e.toNat) ∧ (a.val = 0 → e.toNat < d.toNat + 39) := by
  by_cases hle : d ≤ e
  · have horder := UInt8.le_iff_toNat_le.mp hle
    rw [rescale_of_le hle, raise_eq_ok_iff, worth_mul_of_le hle, Rounding.round_natCast, and_comm,
      tenPow_lt_iff]
    refine and_congr_right fun hval => ?_
    rcases Nat.eq_zero_or_pos a.val with hzero | hpos
    · simp only [hzero, true_imp_iff]
      omega
    · -- The power is at most the product, which fits.
      have hpow : Nat.pow 10 (e.toNat - d.toNat) ≤ b.val := hval ▸ Nat.le_mul_of_pos_left _ hpos
      have hsmall := tenPow_lt_iff.mp (Nat.lt_of_le_of_lt hpow b.lt)
      exact iff_of_true hsmall fun hzero => absurd hzero hpos.ne'
  · have hge : e ≤ d := UInt8.le_of_lt (UInt8.not_le.mp hle)
    have hsmall : e.toNat < d.toNat + 39 := by
      have := UInt8.le_iff_toNat_le.mp hge
      omega
    rw [rescale_of_ge hge, ← val_divided hge, Except.ok.injEq, and_iff_left fun _ => hsmall,
      Amount.ext_iff, eq_comm]

theorem rescale_cases (a : Amount) (d e : UInt8) (r : Rounding) :
    (∃ b, a.rescale d e r = .ok b)
      ∨ a.rescale d e r = .error (.overflow (.rescaled a.val d.toNat e.toNat)) := by
  by_cases hle : d ≤ e
  · rw [rescale_of_le hle]
    exact a.raise_cases d e _
  · rw [rescale_of_ge (UInt8.le_of_lt (UInt8.not_le.mp hle))]
    exact .inl ⟨_, rfl⟩

/-- …and when there is none. -/
theorem rescale_eq_error_iff : a.rescale d e r = .error fault
    ↔ fault = .overflow (.rescaled a.val d.toNat e.toNat)
      ∧ (2 ^ 128 ≤ r.round (a.worth d * 10 ^ e.toNat) ∨ a.val = 0 ∧ d.toNat + 39 ≤ e.toNat) := by
  rcases a.rescale_cases d e r with ⟨b, hb⟩ | herror
  · rw [hb]
    refine iff_of_false (fun h => by cases h) ?_
    obtain ⟨hval, hsmall⟩ := rescale_eq_ok_iff.mp hb
    rintro ⟨-, hlarge | ⟨hzero, hfar⟩⟩
    · exact absurd b.lt (Nat.not_lt.mpr (hval ▸ hlarge))
    · exact absurd (hsmall hzero) (Nat.not_lt.mpr hfar)
  · rw [herror]
    constructor
    · intro h
      refine ⟨(Except.error.inj h).symm, ?_⟩
      by_contra hfits
      rw [not_or, not_and, Nat.not_le, Nat.not_le] at hfits
      have hok : a.rescale d e r = .ok ⟨_, hfits.1⟩ := rescale_eq_ok_iff.mpr ⟨rfl, hfits.2⟩
      rw [herror] at hok
      cases hok
    · rintro ⟨rfl, -⟩
      rfl

/-- **Rescaling is exact.**  Every step comes out; the amount is the floor or the ceiling of the
rational, and an overflow if that has more than 128 bits.  Zero is an overflow as well from 39
decimals more on. -/
theorem rescale_exact (a : Amount) (d e : UInt8) (r : Rounding) :
    (a.rescale? d e r).isSome
      ∧ (∀ b, a.rescale d e r = .ok b
        ↔ b.val = r.round (a.worth d * 10 ^ e.toNat) ∧ (a.val = 0 → e.toNat < d.toNat + 39))
      ∧ ∀ fault, a.rescale d e r = .error fault
        ↔ fault = .overflow (.rescaled a.val d.toNat e.toNat)
          ∧ (2 ^ 128 ≤ r.round (a.worth d * 10 ^ e.toNat) ∨ a.val = 0 ∧ d.toNat + 39 ≤ e.toNat) :=
  ⟨a.isSome_rescale? d e r, fun _ => rescale_eq_ok_iff, fun _ => rescale_eq_error_iff⟩

/-- **Not all that fits is given:** zero stays zero at any number of decimals, and yet is an
overflow when it is scaled up by 39. -/
theorem not_rescale_exact : ¬ ∀ (a b : Amount) (d e : UInt8) (r : Rounding),
    b.val = r.round (a.worth d * 10 ^ e.toNat) → a.rescale d e r = .ok b := by
  intro h
  let zero : Amount := ofBool false
  have hval : zero.val = Rounding.down.round (zero.worth 0 * 10 ^ (39 : UInt8).toNat) := by
    rw [worth_mul_of_le (by decide), Rounding.round_natCast]
    exact (Nat.zero_mul _).symm
  have hsmall := (rescale_eq_ok_iff.mp (h zero zero 0 39 .down hval)).2 rfl
  exact absurd hsmall (by decide)

end Amount

end OrderDesk
