import OrderDesk.Amount.Decimal
import OrderDesk.Proofs.Amount.Exact

/-!
# Proofs/Amount/Decimal — amounts of decimals, and decimals of amounts

    ± mantissa / 10 ^ scale ──▸ ± mantissa / 10 ^ scale · 10 ^ d ──▸ floor or ceiling

One number has many decimals, with more zeros or fewer behind the point.  The amount of a decimal is
its number rounded, so that they all have one (`toAmount_of_value`); only for zero does the scale
show.

The decimal of an amount is the one without zeros at its end.  It has the amount's number, which the
way back rounds to what it was (`ofAmount_round_trips`).
-/

namespace OrderDesk.Decimal

variable {v w : Decimal} {d : UInt8} {r : Rounding} {b : Amount} {fault : Error}

/-! ## The number of a decimal -/

/-- The number that a decimal denotes. -/
def value (v : Decimal) : ℚ := (if v.negative then -1 else 1) * (v.mantissa / 10 ^ v.scale)

theorem value_eq_zero_iff : v.value = 0 ↔ v.mantissa = 0 := by
  rw [value]
  split <;> simp

theorem value_neg_iff : v.value < 0 ↔ v.negative = true ∧ v.mantissa ≠ 0 := by
  have hpow : (0 : ℚ) < 10 ^ v.scale := by positivity
  rw [value]
  split
  · next h => simp [h, hpow, div_pos_iff_of_pos_right, Nat.pos_iff_ne_zero]
  · next h =>
    have hnonneg : (0 : ℚ) ≤ v.mantissa / 10 ^ v.scale := by positivity
    simp [h, hnonneg]

/-! ## The scale -/

theorem toNat_scale (v : Decimal) : (UInt8.ofNat v.scale).toNat = v.scale := by
  have hscale := v.scale_le
  rw [UInt8.toNat_ofNat']
  omega

/-- **Every scale has eight bits.** -/
theorem places?_eq (v : Decimal) : v.places? = some (.ofNat v.scale) := by
  have hscale := v.scale_le
  exact if_pos (Nat.lt_of_le_of_lt hscale (by decide))

/-! ## The amount of a decimal -/

theorem toAmount_of_neg (h : v.value < 0) :
    v.toAmount d r = .error (.overflow (.negative v.text)) :=
  if_pos (value_neg_iff.mp h)

theorem toAmount_of_nonneg (h : 0 ≤ v.value) :
    v.toAmount d r = v.digits.rescale (.ofNat v.scale) d r := by
  rw [toAmount, if_neg fun hneg => not_lt_of_ge h (value_neg_iff.mpr hneg), places?_eq]

/-- What the digits are worth at their scale is the number, but for its sign. -/
theorem worth_digits (h : 0 ≤ v.value) : v.digits.worth (.ofNat v.scale) = v.value := by
  have hworth : v.digits.worth (.ofNat v.scale) = v.mantissa / 10 ^ v.scale := by
    rw [Amount.worth, toNat_scale]
    rfl
  by_cases hzero : v.mantissa = 0
  · rw [hworth, value_eq_zero_iff.mpr hzero, hzero, Nat.cast_zero, zero_div]
  · have hsign : ¬ v.negative = true := fun hsign =>
      not_lt_of_ge h (value_neg_iff.mpr ⟨hsign, hzero⟩)
    rw [hworth, value, if_neg hsign, one_mul]

theorem digits_ne_zero (h : v.value ≠ 0) : v.digits.val ≠ 0 :=
  fun hzero => h (value_eq_zero_iff.mpr hzero)

theorem toAmount_eq_ok_iff (h : 0 < v.value) :
    v.toAmount d r = .ok b ↔ b.val = r.round (v.value * 10 ^ d.toNat) := by
  rw [toAmount_of_nonneg h.le, Amount.rescale_eq_ok_iff, worth_digits h.le,
    and_iff_left fun hzero => absurd hzero (digits_ne_zero h.ne')]

theorem toAmount_eq_error_iff (h : 0 < v.value) : v.toAmount d r = .error fault
    ↔ fault = .overflow (.rescaled v.mantissa v.scale d.toNat)
      ∧ 2 ^ 128 ≤ r.round (v.value * 10 ^ d.toNat) := by
  rw [toAmount_of_nonneg h.le, Amount.rescale_eq_error_iff, worth_digits h.le, toNat_scale,
    or_iff_left fun hfar => digits_ne_zero h.ne' hfar.1]
  rfl

/-- Whatever there is no amount for is too large or too small for one. -/
theorem toAmount_cases (v : Decimal) (d : UInt8) (r : Rounding) :
    (∃ b, v.toAmount d r = .ok b)
      ∨ v.toAmount d r = .error (.overflow (.negative v.text))
      ∨ v.toAmount d r = .error (.overflow (.rescaled v.mantissa v.scale d.toNat)) := by
  rcases lt_or_ge v.value 0 with hneg | hnonneg
  · exact .inr (.inl (toAmount_of_neg hneg))
  · have hcases := v.digits.rescale_cases (.ofNat v.scale) d r
    rw [toNat_scale] at hcases
    rw [toAmount_of_nonneg hnonneg]
    exact hcases.imp_right .inr

/-- Two results alike: one amount, or two overflows. -/
inductive Alike : Except Error Amount → Except Error Amount → Prop where
  | amount (b : Amount) : Alike (.ok b) (.ok b)
  | overflow (x y : Excess) : Alike (.error (.overflow x)) (.error (.overflow y))

theorem alike_of_value_eq (h : v.value ≠ 0) (hw : w.value = v.value) :
    Alike (v.toAmount d r) (w.toAmount d r) := by
  rcases h.lt_or_gt with hneg | hpos
  · rw [toAmount_of_neg hneg, toAmount_of_neg (hw ▸ hneg)]
    exact .overflow _ _
  · have hwpos : 0 < w.value := hw ▸ hpos
    cases hv : v.toAmount d r with
    | ok b =>
      rw [toAmount_eq_ok_iff hpos, ← hw, ← toAmount_eq_ok_iff hwpos] at hv
      rw [hv]
      exact .amount b
    | error fault =>
      obtain ⟨rfl, hlarge⟩ := (toAmount_eq_error_iff hpos).mp hv
      rw [← hw] at hlarge
      rw [(toAmount_eq_error_iff hwpos).mpr ⟨rfl, hlarge⟩]
      exact .overflow _ _

/-- **The amount of a decimal depends on its number only,** unless that is zero: below zero it is an
overflow, above zero the floor or the ceiling, and an overflow beyond 128 bits.  The scale always
has eight bits, and the sign of a zero does not show. -/
theorem toAmount_of_value (v : Decimal) (d : UInt8) (r : Rounding) :
    (v.value < 0 → v.toAmount d r = .error (.overflow (.negative v.text)))
      ∧ (0 < v.value →
        (∀ b, v.toAmount d r = .ok b ↔ b.val = r.round (v.value * 10 ^ d.toNat))
          ∧ ∀ fault, v.toAmount d r = .error fault
            ↔ fault = .overflow (.rescaled v.mantissa v.scale d.toNat)
              ∧ 2 ^ 128 ≤ r.round (v.value * 10 ^ d.toNat))
      ∧ (v.value ≠ 0 → ∀ w : Decimal, w.value = v.value →
        Alike (v.toAmount d r) (w.toAmount d r))
      ∧ (∀ text, v.toAmount d r ≠ .error (.overflow (.scale text)))
      ∧ (v.value = 0 → { v with negative := true }.toAmount d r
        = { v with negative := false }.toAmount d r) := by
  refine ⟨toAmount_of_neg, fun h => ?above, fun h w hw => alike_of_value_eq h hw, ?scale, ?zero⟩
  case above => exact ⟨fun b => toAmount_eq_ok_iff h, fun fault => toAmount_eq_error_iff h⟩
  case scale =>
    intro text h
    rcases v.toAmount_cases d r with ⟨b, hcase⟩ | hcase | hcase <;> rw [h] at hcase <;> cases hcase
  case zero =>
    intro h
    have hzero : v.mantissa = 0 := value_eq_zero_iff.mp h
    have hvalue : ∀ sign, { v with negative := sign }.value = 0 := fun _ =>
      value_eq_zero_iff.mpr hzero
    rw [toAmount_of_nonneg (hvalue true).ge, toAmount_of_nonneg (hvalue false).ge]
    rfl

/-- 1.5 and 1.500. -/
example : toAmount ⟨false, 15, 1, by decide, by decide⟩ 0 .up
    = toAmount ⟨false, 1500, 3, by decide, by decide⟩ 0 .up := rfl

/-! ## Zeros at the end -/

theorem trim_fst_le : ∀ m s : ℕ, (trim m s).1 ≤ m
  | m, 0 => Nat.le_refl m
  | m, s + 1 => by
      rw [trim]
      split
      · exact (trim_fst_le (m / 10) s).trans (Nat.div_le_self m 10)
      · exact Nat.le_refl m

theorem trim_snd_le : ∀ m s : ℕ, (trim m s).2 ≤ s
  | _, 0 => Nat.le_refl 0
  | m, s + 1 => by
      rw [trim]
      split
      · exact (trim_snd_le (m / 10) s).trans (Nat.le_succ s)
      · exact Nat.le_refl (s + 1)

/-- **No zero is left behind the point.** -/
theorem trim_fst_mod_ne_zero : ∀ m s : ℕ, 0 < (trim m s).2 → (trim m s).1 % 10 ≠ 0
  | _, 0, h => absurd h (Nat.lt_irrefl 0)
  | m, s + 1, h => by
      rw [trim] at h ⊢
      split
      · next hm =>
        rw [if_pos hm] at h
        exact trim_fst_mod_ne_zero (m / 10) s h
      · next hm => exact hm

/-- **The number stays the same.** -/
theorem trim_fst_div : ∀ m s : ℕ, ((trim m s).1 : ℚ) / 10 ^ (trim m s).2 = m / 10 ^ s
  | _, 0 => rfl
  | m, s + 1 => by
      rw [trim]
      split
      · next hm =>
        have hcast : (m : ℚ) = (m / 10 : ℕ) * 10 := by
          exact_mod_cast (Nat.div_mul_cancel (Nat.dvd_of_mod_eq_zero hm)).symm
        rw [trim_fst_div (m / 10) s, hcast, pow_succ, mul_div_mul_right _ _ (by norm_num)]
      · rfl

/-! ## The decimal of an amount -/

variable {a : Amount}

/-- Whether an amount has a decimal: its digits have 96 bits, and at most 28 stand behind the
point. -/
def Fits (a : Amount) (d : UInt8) : Prop := a.val < 2 ^ 96 ∧ d.toNat ≤ 28

theorem ofAmount_of_fits (h : Fits a d) :
    ofAmount a d = .ok ⟨false, (trim a.val d.toNat).1, (trim a.val d.toNat).2,
      (trim_fst_le _ _).trans_lt h.1, (trim_snd_le _ _).trans h.2⟩ := by
  have hparts : (trim a.val d.toNat).1 < Nat.pow 2 96 ∧ (trim a.val d.toNat).2 ≤ 28 :=
    ⟨(trim_fst_le _ _).trans_lt h.1, (trim_snd_le _ _).trans h.2⟩
  simp only [ofAmount, if_pos (show a.val < Nat.pow 2 96 ∧ d.toNat ≤ 28 from h), ofParts?,
    dif_pos hparts]

theorem ofAmount_of_not_fits (h : ¬ Fits a d) :
    ofAmount a d = .error (.overflow (.decimal a.val d.toNat)) :=
  if_neg h

/-- **The decimal of an amount is what trimming leaves of its digits.** -/
theorem ofAmount_eq_ok_iff : ofAmount a d = .ok v
    ↔ Fits a d ∧ v.negative = false ∧ (v.mantissa, v.scale) = trim a.val d.toNat := by
  by_cases h : Fits a d
  · rw [ofAmount_of_fits h, and_iff_right h, Except.ok.injEq]
    constructor
    · rintro rfl
      exact ⟨rfl, rfl⟩
    · rintro ⟨hsign, hparts⟩
      obtain ⟨negative, mantissa, scale, _, _⟩ := v
      obtain rfl : negative = false := hsign
      simp only [← hparts]
  · rw [ofAmount_of_not_fits h]
    exact iff_of_false nofun fun hok => h hok.1

theorem ofAmount_eq_error_iff : ofAmount a d = .error fault
    ↔ fault = .overflow (.decimal a.val d.toNat) ∧ ¬ Fits a d := by
  by_cases h : Fits a d
  · rw [ofAmount_of_fits h]
    exact iff_of_false nofun fun herror => herror.2 h
  · rw [ofAmount_of_not_fits h, and_iff_left h, Except.error.injEq, eq_comm]

theorem value_of_ofAmount (h : ofAmount a d = .ok v) : v.value = a.val / 10 ^ d.toNat := by
  obtain ⟨-, hsign, hparts⟩ := ofAmount_eq_ok_iff.mp h
  have htrim := trim_fst_div a.val d.toNat
  rw [← hparts] at htrim
  rw [value, hsign, if_neg Bool.false_ne_true, one_mul, htrim]

/-- **The way back,** whichever way is rounded: the scale of an amount's decimal is never so small
that the way up does not fit. -/
theorem toAmount_of_ofAmount (h : ofAmount a d = .ok v) (r : Rounding) : v.toAmount d r = .ok a := by
  have hvalue := value_of_ofAmount h
  have hnonneg : 0 ≤ v.value := by
    rw [hvalue]
    positivity
  have hscale : d.toNat < (UInt8.ofNat v.scale).toNat + 39 := by
    have := (ofAmount_eq_ok_iff.mp h).1.2
    omega
  rw [toAmount_of_nonneg hnonneg, Amount.rescale_eq_ok_iff, worth_digits hnonneg, hvalue,
    div_mul_cancel₀ _ (by positivity), Rounding.round_natCast]
  exact ⟨rfl, fun _ => hscale⟩

/-- **Amounts come back from their decimals.**  An amount below 2⁹⁶ at 28 places or fewer has a
decimal, every other one is an overflow; the decimal has the amount's number, is not below zero and
has no zero at the end of its fraction, and either rounding takes it back to the amount. -/
theorem ofAmount_round_trips (a : Amount) (d : UInt8) :
    ((∃ v, ofAmount a d = .ok v) ↔ a.val < 2 ^ 96 ∧ d.toNat ≤ 28)
      ∧ (∀ fault, ofAmount a d = .error fault
        ↔ fault = .overflow (.decimal a.val d.toNat) ∧ ¬ (a.val < 2 ^ 96 ∧ d.toNat ≤ 28))
      ∧ ∀ v, ofAmount a d = .ok v →
        v.value = a.val / 10 ^ d.toNat ∧ v.negative = false
          ∧ (0 < v.scale → v.mantissa % 10 ≠ 0)
          ∧ ∀ r, v.toAmount d r = .ok a := by
  refine ⟨⟨?fits, fun h => ⟨_, ofAmount_of_fits h⟩⟩, fun fault => ofAmount_eq_error_iff,
    fun v h => ⟨value_of_ofAmount h, ?sign, ?trimmed, toAmount_of_ofAmount h⟩⟩
  case fits =>
    rintro ⟨v, h⟩
    exact (ofAmount_eq_ok_iff.mp h).1
  case sign => exact (ofAmount_eq_ok_iff.mp h).2.1
  case trimmed =>
    have hparts := (ofAmount_eq_ok_iff.mp h).2.2
    have htrim := trim_fst_mod_ne_zero a.val d.toNat
    rwa [← hparts] at htrim

/-- 1 500 000 at six places is 1.5. -/
example : ofAmount ⟨1500000, by decide⟩ 6 = .ok ⟨false, 15, 1, by decide, by decide⟩ := rfl

end OrderDesk.Decimal
