import Mathlib.AlgebraicGeometry.EllipticCurve.Affine.Point
import Mathlib.Tactic.LinearCombination

/-!
# Proofs/Crypto/Montgomery — points by one coordinate

    y² = x³ + (4k + 2) x² + x

The double of a point, and the sum of two points whose difference is known, can be told by the first
coordinates alone.  A pair `X : Z` shows a point if `X / Z` is that coordinate, or if `Z` is zero and
the point is the neutral one (`Shows`).  `Shows.double` and `Shows.add` are the two formulas of the
ladder; they hold of all points, the neutral one and those of order two included, as long as the
difference has a coordinate other than zero.
-/

open WeierstrassCurve WeierstrassCurve.Affine

namespace OrderDesk.Montgomery

variable {F : Type*} [Field F]

/-- The curve. -/
def curve (k : F) : Affine F := ⟨0, 4 * k + 2, 0, 1, 0⟩

variable {k : F} {x y x₁ y₁ x₂ y₂ X Z X' Z' : F} {P Q : (curve k).Point}

theorem equation_iff :
    (curve k).Equation x y ↔ y ^ 2 = x ^ 3 + (4 * k + 2) * x ^ 2 + x := by
  rw [Affine.equation_iff]
  simp [curve]

theorem negY_eq (x y : F) : (curve k).negY x y = -y := by
  simp [curve, Affine.negY]

/-- A point of order two is not at `±1`, where the curve would not be smooth. -/
theorem sq_ne_one (h : (curve k).Nonsingular x 0) : x ^ 2 ≠ 1 := by
  intro hx
  obtain ⟨heq, hsmooth | hsmooth⟩ := (nonsingular_iff ..).mp h
  · rw [equation_iff] at heq
    refine hsmooth ?_
    simp only [curve]
    linear_combination (2 * x) * heq + (2 * x ^ 2 + 2 * (4 * k + 2) * x + 1) * hx
  · simp [curve] at hsmooth

/-! ## What shows a point -/

/-- **A pair shows a point** if it stands in the ratio of the point's first coordinate to one, or of
one to zero for the neutral point. -/
def Shows (P : (curve k).Point) (X Z : F) : Prop :=
  ∃ c, c ≠ 0 ∧ X = c * P.xRep 0 ∧ Z = c * P.xRep 1

theorem shows_zero : Shows (0 : (curve k).Point) X Z ↔ X ≠ 0 ∧ Z = 0 := by
  constructor
  · rintro ⟨c, hc, rfl, rfl⟩
    simpa using hc
  · rintro ⟨hX, rfl⟩
    exact ⟨X, hX, by simp, by simp⟩

theorem shows_some {h : (curve k).Nonsingular x y} :
    Shows (.some x y h) X Z ↔ Z ≠ 0 ∧ X = x * Z := by
  constructor
  · rintro ⟨c, hc, rfl, rfl⟩
    simpa [mul_comm] using hc
  · rintro ⟨hZ, rfl⟩
    exact ⟨Z, hZ, by simp [mul_comm], by simp⟩

/-- Opposite points are shown alike. -/
theorem shows_neg : Shows (-P) X Z ↔ Shows P X Z := by
  rw [Shows, Shows, Point.xRep_neg]

/-- Only the ratio matters. -/
theorem Shows.smul {c : F} (hc : c ≠ 0) (h : Shows P X Z) : Shows P (c * X) (c * Z) := by
  obtain ⟨d, hd, rfl, rfl⟩ := h
  exact ⟨c * d, mul_ne_zero hc hd, (mul_assoc ..).symm, (mul_assoc ..).symm⟩

/-- No point is shown by nothing. -/
theorem not_shows (P : (curve k).Point) : ¬ Shows P 0 0 := by
  match P with
  | 0 => exact fun h => (shows_zero.mp h).1 rfl
  | .some x y hP => exact fun h => (shows_some.mp h).1 rfl

/-- Two pairs that show one point are in one ratio. -/
theorem Shows.cross (h : Shows P X Z) (h' : Shows P X' Z') : X * Z' = X' * Z := by
  obtain ⟨c, -, rfl, rfl⟩ := h
  obtain ⟨c', -, rfl, rfl⟩ := h'
  ring

theorem Shows.eq_mul {u : F} (h : Shows P X Z) (hD : Shows P u 1) : X = u * Z := by
  simpa only [mul_one] using h.cross hD

/-- A pair that shows a point with a coordinate other than zero has no zero above. -/
theorem Shows.ne_zero {u : F} (h : Shows P X Z) (hD : Shows P u 1) (hu : u ≠ 0) : X ≠ 0 := by
  intro hzero
  have hZ : Z = 0 := (mul_eq_zero.mp ((h.eq_mul hD).symm.trans hzero)).resolve_left hu
  exact not_shows P (by rwa [hzero, hZ] at h)

/-- A point that is not at zero is shown by the squares of a pair, its coordinate put below. -/
theorem Shows.squares {u c : F} (h : Shows P X Z) (hD : Shows P u 1) (hu : u ≠ 0) (hc : c ≠ 0) :
    Shows P (c * X ^ 2) (u * (c * Z ^ 2)) := by
  have hscaled := h.smul (mul_ne_zero hc (h.ne_zero hD hu))
  rwa [show c * X * X = c * X ^ 2 by ring,
    show c * X * Z = u * (c * Z ^ 2) by rw [h.eq_mul hD]; ring] at hscaled

/-! ## Doubling -/

theorem ne_neg (h2 : (2 : F) ≠ 0) (hy : y ≠ 0) : y ≠ (curve k).negY x y := by
  rw [negY_eq]
  intro heq
  have hzero : 2 * y = 0 := by linear_combination heq
  exact hy ((mul_eq_zero.mp hzero).resolve_left h2)

theorem four_ne_zero (h2 : (2 : F) ≠ 0) : (4 : F) ≠ 0 := by
  rw [show (4 : F) = 2 * 2 by norm_num]
  exact mul_ne_zero h2 h2

variable [DecidableEq F]

/-- The first coordinate of a double. -/
theorem addX_self (h2 : (2 : F) ≠ 0) (hy : y ≠ 0) (h : (curve k).Equation x y) :
    (curve k).addX x x ((curve k).slope x x y y) * (4 * y ^ 2) = (x ^ 2 - 1) ^ 2 := by
  have h2y : y - -y ≠ 0 := by
    rw [sub_neg_eq_add, ← two_mul]
    exact mul_ne_zero h2 hy
  have hslope : (curve k).slope x x y y * (y - -y) = 3 * x ^ 2 + 2 * (4 * k + 2) * x + 1 := by
    rw [slope_of_Y_ne rfl (ne_neg h2 hy), negY_eq, div_mul_cancel₀ _ h2y]
    simp [curve]
  rw [equation_iff] at h
  rw [addX]
  generalize (curve k).slope x x y y = m at hslope ⊢
  simp only [curve]
  linear_combination (m * (2 * y) + (3 * x ^ 2 + 2 * (4 * k + 2) * x + 1)) * hslope
    - 4 * (4 * k + 2 + 2 * x) * h

/-- **Doubling by one coordinate.** -/
theorem Shows.double (h2 : (2 : F) ≠ 0) (h : Shows P X Z) :
    Shows (P + P) ((X + Z) ^ 2 * (X - Z) ^ 2)
      (((X + Z) ^ 2 - (X - Z) ^ 2) * ((X + Z) ^ 2 + k * ((X + Z) ^ 2 - (X - Z) ^ 2))) := by
  match P with
  | 0 =>
    obtain ⟨hX, rfl⟩ := shows_zero.mp h
    rw [add_zero]
    exact shows_zero.mpr ⟨by simpa using hX, by ring⟩
  | .some x y hP =>
    obtain ⟨hZ, rfl⟩ := shows_some.mp h
    have heq := equation_iff.mp hP.1
    have hdenominator : ((x * Z + Z) ^ 2 - (x * Z - Z) ^ 2)
        * ((x * Z + Z) ^ 2 + k * ((x * Z + Z) ^ 2 - (x * Z - Z) ^ 2)) = 4 * y ^ 2 * Z ^ 4 := by
      linear_combination (-4 * Z ^ 4) * heq
    rw [hdenominator]
    by_cases hy : y = 0
    · -- a point of order two
      subst hy
      have hopposite : (0 : F) = (curve k).negY x 0 := by rw [negY_eq, neg_zero]
      have hne : (x ^ 2 - 1) ^ 2 * Z ^ 4 ≠ 0 :=
        mul_ne_zero (pow_ne_zero 2 (sub_ne_zero.mpr (sq_ne_one hP))) (pow_ne_zero 4 hZ)
      rw [Point.add_self_of_Y_eq hopposite, shows_zero]
      exact ⟨fun h => hne (by linear_combination h), by ring⟩
    · have hX := addX_self h2 hy hP.1
      rw [Point.add_self_of_Y_ne (ne_neg h2 hy), shows_some]
      refine ⟨mul_ne_zero (mul_ne_zero (four_ne_zero h2) (pow_ne_zero 2 hy)) (pow_ne_zero 4 hZ), ?_⟩
      linear_combination (-Z ^ 4) * hX

/-! ## Adding with a known difference -/

/-- The first coordinates of a sum and of a difference. -/
theorem addX_mul_addX (hx : x₁ ≠ x₂) (h₁ : (curve k).Equation x₁ y₁)
    (h₂ : (curve k).Equation x₂ y₂) : (curve k).addX x₁ x₂ ((curve k).slope x₁ x₂ y₁ y₂)
      * (curve k).addX x₁ x₂ ((curve k).slope x₁ x₂ y₁ (-y₂)) * (x₁ - x₂) ^ 2
      = (x₁ * x₂ - 1) ^ 2 := by
  have hsub : x₁ - x₂ ≠ 0 := sub_ne_zero.mpr hx
  have hm : (curve k).slope x₁ x₂ y₁ y₂ * (x₁ - x₂) = y₁ - y₂ := by
    rw [slope_of_X_ne hx, div_mul_cancel₀ _ hsub]
  have hn : (curve k).slope x₁ x₂ y₁ (-y₂) * (x₁ - x₂) = y₁ + y₂ := by
    rw [slope_of_X_ne hx, div_mul_cancel₀ _ hsub, sub_neg_eq_add]
  rw [equation_iff] at h₁ h₂
  rw [addX, addX]
  generalize (curve k).slope x₁ x₂ y₁ y₂ = m at hm ⊢
  generalize (curve k).slope x₁ x₂ y₁ (-y₂) = n at hn ⊢
  have hm2 : (m * (x₁ - x₂)) ^ 2 = (y₁ - y₂) ^ 2 := by rw [hm]
  have hn2 : (n * (x₁ - x₂)) ^ 2 = (y₁ + y₂) ^ 2 := by rw [hn]
  -- both sides times the square of the distance, where the slopes are gone
  have hcleared : ((m * (x₁ - x₂)) ^ 2 - (4 * k + 2 + x₁ + x₂) * (x₁ - x₂) ^ 2)
      * ((n * (x₁ - x₂)) ^ 2 - (4 * k + 2 + x₁ + x₂) * (x₁ - x₂) ^ 2)
      = (x₁ * x₂ - 1) ^ 2 * (x₁ - x₂) ^ 2 := by
    rw [hm2, hn2]
    linear_combination (y₁ ^ 2 + (x₁ ^ 3 + (4 * k + 2) * x₁ ^ 2 + x₁) - 2 * y₂ ^ 2
        - 2 * (4 * k + 2 + x₁ + x₂) * (x₁ - x₂) ^ 2) * h₁
      + (y₂ ^ 2 + (x₂ ^ 3 + (4 * k + 2) * x₂ ^ 2 + x₂)
        - 2 * (x₁ ^ 3 + (4 * k + 2) * x₁ ^ 2 + x₁)
        - 2 * (4 * k + 2 + x₁ + x₂) * (x₁ - x₂) ^ 2) * h₂
  refine mul_right_cancel₀ (pow_ne_zero 2 hsub) ?_
  simp only [curve]
  linear_combination hcleared

/-- A point whose double has a coordinate other than zero is not at `±1`. -/
theorem sq_ne_one_of_double (h2 : (2 : F) ≠ 0) {h : (curve k).Nonsingular x y} {u : F} (hu : u ≠ 0)
    (hD : Shows (Point.some x y h + Point.some x y h) u 1) : x ^ 2 - 1 ≠ 0 := by
  intro hzero
  have hP : Shows (Point.some x y h) x 1 := shows_some.mpr ⟨one_ne_zero, (mul_one x).symm⟩
  refine (hP.double h2).ne_zero hD hu ?_
  linear_combination (x ^ 2 - 1) * hzero

/-- **Adding by one coordinate,** if that of the difference is known and not zero. -/
theorem Shows.add (h2 : (2 : F) ≠ 0) {u : F} (hP : Shows P X Z) (hQ : Shows Q X' Z')
    (hD : Shows (Q - P) u 1) (hu : u ≠ 0) :
    Shows (P + Q) (((X' - Z') * (X + Z) + (X' + Z') * (X - Z)) ^ 2)
      (u * ((X' - Z') * (X + Z) - (X' + Z') * (X - Z)) ^ 2) := by
  match P, Q with
  | 0, Q =>
    obtain ⟨hX, rfl⟩ := shows_zero.mp hP
    rw [sub_zero] at hD
    rw [zero_add]
    convert hQ.squares hD hu (mul_ne_zero (four_ne_zero h2) (pow_ne_zero 2 hX)) using 1 <;> ring
  | P, 0 =>
    obtain ⟨hX, rfl⟩ := shows_zero.mp hQ
    rw [zero_sub, shows_neg] at hD
    rw [add_zero]
    convert hP.squares hD hu (mul_ne_zero (four_ne_zero h2) (pow_ne_zero 2 hX)) using 1 <;> ring
  | .some x₁ y₁ h₁, .some x₂ y₂ h₂ =>
    obtain ⟨hZ, rfl⟩ := shows_some.mp hP
    obtain ⟨hZ', rfl⟩ := shows_some.mp hQ
    have hscale : 4 * (Z * Z') ^ 2 ≠ 0 :=
      mul_ne_zero (four_ne_zero h2) (pow_ne_zero 2 (mul_ne_zero hZ hZ'))
    by_cases hx : x₁ = x₂
    · -- one point twice has no difference, and opposite points have no sum
      rcases Point.X_eq_iff.mp hx with heq | heq
      · rw [heq, sub_self, shows_zero] at hD
        exact absurd hD.2 one_ne_zero
      · rw [heq, sub_neg_eq_add] at hD
        have hne := mul_ne_zero hscale (pow_ne_zero 2 (sq_ne_one_of_double h2 hu hD))
        rw [heq, neg_add_cancel, shows_zero, hx]
        exact ⟨fun h => hne (by linear_combination h), by ring⟩
    · have hx' : x₂ ≠ x₁ := Ne.symm hx
      rw [sub_eq_add_neg, Point.neg_some, Point.add_of_X_ne hx', shows_some, negY_eq, mul_one] at hD
      have hproduct := addX_mul_addX hx' h₂.1 h₁.1
      rw [← hD.2] at hproduct
      have hne := mul_ne_zero hu (mul_ne_zero hscale (pow_ne_zero 2 (sub_ne_zero.mpr hx')))
      rw [add_comm, Point.add_of_X_ne hx', shows_some]
      exact ⟨fun h => hne (by linear_combination h),
        by linear_combination (-4 * Z ^ 2 * Z' ^ 2) * hproduct⟩

end OrderDesk.Montgomery
