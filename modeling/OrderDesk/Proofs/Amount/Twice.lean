import OrderDesk.Proofs.Amount.Exact

/-!
# Proofs/Amount/Twice — one rescaling behind another

    d ──▸ e ──▸ f   is   d ──▸ f,    if e is not below both ends
    d ──▸ e ──▸ d   is   nothing,    if e is not below d
                    or rounding to units of 10 ^ (d - e)

Two roundings of one kind are one (`Rounding.round_div_natCast`), and going up rounds nothing.  So a
detour over no fewer decimals than one of the ends has cannot be seen (`rescale_rescale`), and the
way to the inventory and back loses or gains less than a unit of the coarser side, as its first step
rounds (`inventory_brackets`).
-/

namespace OrderDesk

/-! ## A detour -/

namespace Amount

variable {a b c : Amount} {r : Rounding} {d e f : UInt8}

/-- Nothing is rounded on the way up. -/
theorem worth_eq_of_le (h : d ≤ e) (hb : b.val = r.round (a.worth d * 10 ^ e.toNat)) :
    b.worth e = a.worth d := by
  rw [worth_mul_of_le h, Rounding.round_natCast] at hb
  rw [worth, hb, ← worth_mul_of_le h]
  field_simp

/-- A rounded value is rounded further on as the value itself. -/
theorem round_worth_of_round (h : d ≤ e ∨ f ≤ e)
    (hb : b.val = r.round (a.worth d * 10 ^ e.toNat)) :
    r.round (b.worth e * 10 ^ f.toNat) = r.round (a.worth d * 10 ^ f.toNat) := by
  rcases h with hup | hdown
  · rw [worth_eq_of_le hup hb]
  · have hpos : 0 < 10 ^ (e.toNat - f.toNat) := Nat.pow_pos (by decide)
    rw [worth_mul_of_ge hdown, hb, Rounding.round_div_natCast hpos,
      ← pow_sub_mul_pow (10 : ℚ) (UInt8.le_iff_toNat_le.mp hdown)]
    congr 1
    push_cast
    field_simp

/-- More decimals make no smaller amount. -/
theorem round_worth_mono (h : e ≤ f) :
    r.round (a.worth d * 10 ^ e.toNat) ≤ r.round (a.worth d * 10 ^ f.toNat) := by
  refine r.round_mono (mul_le_mul_of_nonneg_left ?_ ?_)
  · exact pow_le_pow_right₀ (by norm_num) (UInt8.le_iff_toNat_le.mp h)
  · exact div_nonneg (Nat.cast_nonneg _) (by positivity)

/-- Nothing becomes zero at more decimals. -/
theorem pos_of_rescale (h : d ≤ e) (ha : 0 < a.val) (hb : a.rescale d e r = .ok b) : 0 < b.val := by
  obtain ⟨hval, -⟩ := rescale_eq_ok_iff.mp hb
  rw [hval, worth_mul_of_le h, Rounding.round_natCast]
  positivity

/-- **A detour cannot be seen.** -/
theorem rescale_rescale (a : Amount) (r : Rounding) (d e f : UInt8) (ha : 0 < a.val)
    (h : min d.toNat f.toNat ≤ e.toNat) :
    (∀ b c, a.rescale d e r = .ok b → b.rescale e f r = .ok c → a.rescale d f r = .ok c)
      ∧ (d ≤ e ∧ e ≤ f ∨ f ≤ e ∧ e ≤ d → ∀ c, a.rescale d f r = .ok c →
        ∃ b, a.rescale d e r = .ok b ∧ b.rescale e f r = .ok c) := by
  have hends : d ≤ e ∨ f ≤ e := by
    rwa [UInt8.le_iff_toNat_le, UInt8.le_iff_toNat_le, ← min_le_iff]
  refine ⟨?direct, ?detour⟩
  case direct =>
    intro b c hb hc
    obtain ⟨hb, -⟩ := rescale_eq_ok_iff.mp hb
    obtain ⟨hc, -⟩ := rescale_eq_ok_iff.mp hc
    rw [rescale_eq_ok_iff, hc, round_worth_of_round hends hb]
    exact ⟨rfl, fun hzero => absurd hzero ha.ne'⟩
  case detour =>
    intro hbetween c hc
    obtain ⟨hc, -⟩ := rescale_eq_ok_iff.mp hc
    have hback : ∀ b, a.rescale d e r = .ok b → (b.val = 0 → f.toNat < e.toNat + 39) →
        b.rescale e f r = .ok c := by
      intro b hb hzero
      obtain ⟨hb, -⟩ := rescale_eq_ok_iff.mp hb
      exact rescale_eq_ok_iff.mpr ⟨hc.trans (round_worth_of_round hends hb).symm, hzero⟩
    rcases hbetween with ⟨hde, hef⟩ | ⟨hfe, hed⟩
    · have hlt : r.round (a.worth d * 10 ^ e.toNat) < Nat.pow 2 128 :=
        Nat.lt_of_le_of_lt (round_worth_mono hef) (hc ▸ c.lt)
      have hb : a.rescale d e r = .ok ⟨_, hlt⟩ :=
        rescale_eq_ok_iff.mpr ⟨rfl, fun hzero => absurd hzero ha.ne'⟩
      exact ⟨_, hb, hback _ hb fun hzero => absurd hzero (pos_of_rescale hde ha hb).ne'⟩
    · have hb : a.rescale d e r = .ok _ := rescale_of_ge hed
      refine ⟨_, hb, hback _ hb fun _ => ?_⟩
      have := UInt8.le_iff_toNat_le.mp hfe
      omega

/-- The largest amount. -/
def largest : Amount := ⟨Nat.pow 2 128 - 1, by decide⟩

/-- A detour of two divisors that fit, where the direct one does not. -/
theorem rescale_rescale_ceilings :
    (0 < largest.val ∧ min (80 : UInt8).toNat (20 : UInt8).toNat ≤ (50 : UInt8).toNat)
      ∧ largest.rescale 80 50 .up = .ok ⟨340282367, by decide⟩
      ∧ rescale ⟨340282367, by decide⟩ 50 20 .up = .ok ⟨1, by decide⟩
      ∧ largest.rescale 80 20 .up = .ok ⟨1, by decide⟩ := by
  have hpos : 0 < largest.val := by decide
  have hmin : min (80 : UInt8).toNat (20 : UInt8).toNat ≤ (50 : UInt8).toNat := by decide
  have hfirst : largest.rescale 80 50 .up = .ok ⟨340282367, by decide⟩ := rfl
  have hsecond : rescale ⟨340282367, by decide⟩ 50 20 .up = .ok ⟨1, by decide⟩ := rfl
  obtain ⟨hdirect, -⟩ := rescale_rescale largest .up 80 50 20 hpos hmin
  exact ⟨⟨hpos, hmin⟩, hfirst, hsecond, hdirect _ _ hfirst hsecond⟩

end Amount

/-! ## There and back -/

/-- What rounding to a unit makes of an amount: less than a unit is lost by rounding down, and less
than a unit is gained by rounding up. -/
def Rounding.Brackets : Rounding → ℕ → ℕ → ℕ → Prop
  | .down, unit, a, b => a < b + unit ∧ b ≤ a
  | .up, unit, a, b => a ≤ b ∧ b < a + unit

theorem Rounding.brackets_round (r : Rounding) (a : ℕ) {n : ℕ} (hn : 0 < n) :
    r.Brackets n a (r.round (a / n) * n) := by
  have hpos : (0 : ℚ) < n := Nat.cast_pos.mpr hn
  have hnonneg : (0 : ℚ) ≤ a / n := by positivity
  cases r with
  | down =>
    simp only [round, Brackets]
    rw [Nat.floor_div_eq_div]
    exact ⟨Nat.lt_div_mul_add hn, Nat.div_mul_le_self a n⟩
  | up =>
    simp only [round, Brackets]
    constructor
    · have hle := (div_le_iff₀ hpos).mp (Nat.le_ceil ((a : ℚ) / n))
      exact_mod_cast hle
    · have hlt := (lt_div_iff₀ hpos).mp (sub_lt_iff_lt_add.mpr (Nat.ceil_lt_add_one hnonneg))
      rw [sub_mul, one_mul, sub_lt_iff_lt_add] at hlt
      exact_mod_cast hlt

namespace Amount

variable {a b c : Amount} {r r' : Rounding} {d e : UInt8}

/-- **More decimals and back is nothing,** whatever the roundings… -/
theorem rescale_back_of_le (h : d ≤ e) (hb : a.rescale d e r = .ok b) :
    b.rescale e d r' = .ok a := by
  obtain ⟨hval, -⟩ := rescale_eq_ok_iff.mp hb
  have horder := UInt8.le_iff_toNat_le.mp h
  rw [rescale_eq_ok_iff, worth_eq_of_le h hval, worth_mul_of_le (UInt8.le_refl d),
    Rounding.round_natCast, Nat.sub_self, pow_zero, Nat.mul_one]
  exact ⟨rfl, fun _ => by omega⟩

/-- …and fewer decimals and back rounds once. -/
theorem brackets_of_rescale_back (h : e ≤ d) (hb : a.rescale d e r = .ok b)
    (hc : b.rescale e d r' = .ok c) :
    r.Brackets (10 ^ (d.toNat - e.toNat)) a.val c.val := by
  obtain ⟨hval, -⟩ := rescale_eq_ok_iff.mp hb
  obtain ⟨hback, -⟩ := rescale_eq_ok_iff.mp hc
  rw [worth_mul_of_ge h] at hval
  rw [worth_mul_of_le h, Rounding.round_natCast, hval] at hback
  rw [hback]
  exact r.brackets_round a.val (Nat.pow_pos (by decide))

/-- **Rounding up never undershoots.** -/
theorem le_of_rescale_up (hb : a.rescale d e .up = .ok b) (hc : b.rescale e d r' = .ok c) :
    a.val ≤ c.val := by
  by_cases hle : d ≤ e
  · have hback : b.rescale e d r' = .ok a := rescale_back_of_le hle hb
    rw [hc] at hback
    exact (congrArg Amount.val (Except.ok.inj hback)).ge
  · exact (brackets_of_rescale_back (UInt8.le_of_lt (UInt8.not_le.mp hle)) hb hc).1

end Amount

/-! ## The inventory -/

namespace AmountPair

variable {a : Amount} {p : AmountPair} {d : UInt8} {r : Rounding}

theorem ofAtomic_eq_ok_iff :
    ofAtomic a d = .ok p ↔ a.toInventory d .down = .ok p.normalized ∧ p.atomic = a := by
  rw [ofAtomic]
  cases a.toInventory d .down with
  | error fault => simp [Except.map]
  | ok n =>
    obtain ⟨normalized, atomic⟩ := p
    simp [Except.map, eq_comm]

theorem ofNormalized_eq_ok_iff :
    ofNormalized a d r = .ok p ↔ a.ofInventory d r = .ok p.atomic ∧ p.normalized = a := by
  rw [ofNormalized]
  cases a.ofInventory d r with
  | error fault => simp [Except.map]
  | ok n =>
    obtain ⟨normalized, atomic⟩ := p
    simp [Except.map, eq_comm, and_comm]

end AmountPair

namespace Amount

variable {a n : Amount} {d : UInt8} {r r' : Rounding}

/-- **What has at most eighteen decimals comes back from the inventory as it went…** -/
theorem ofInventory_of_toInventory (h : d.toNat ≤ 18) (hn : a.toInventory d r = .ok n) :
    n.ofInventory d r' = .ok a :=
  rescale_back_of_le (UInt8.le_iff_toNat_le.mpr h) hn

/-- …and what has at least eighteen goes back to it as it came. -/
theorem toInventory_of_ofInventory (h : 18 ≤ d.toNat) (ha : n.ofInventory d r = .ok a) :
    a.toInventory d r' = .ok n :=
  rescale_back_of_le (UInt8.le_iff_toNat_le.mpr h) ha

/-- **The inventory brackets native amounts,** and they bracket it: the way there and back is exact
where the first step has no fewer decimals to go to, and where it has, it rounds to units of the
coarser side.  Pairs agree in the exact direction, whichever side they are built from. -/
theorem inventory_brackets (d : UInt8) (r r' : Rounding) :
    (∀ a n : Amount, a.toInventory d r = .ok n →
        (d.toNat ≤ 18 → n.ofInventory d r' = .ok a)
          ∧ (18 < d.toNat → ∀ b, n.ofInventory d r' = .ok b →
            r.Brackets (10 ^ (d.toNat - 18)) a.val b.val))
      ∧ (∀ n a : Amount, n.ofInventory d r = .ok a →
        (18 ≤ d.toNat → a.toInventory d r' = .ok n)
          ∧ (d.toNat < 18 → ∀ m, a.toInventory d r' = .ok m →
            r.Brackets (10 ^ (18 - d.toNat)) n.val m.val))
      ∧ (d.toNat ≤ 18 → ∀ a p, AmountPair.ofAtomic a d = .ok p →
        AmountPair.ofNormalized p.normalized d r = .ok p)
      ∧ (18 ≤ d.toNat → ∀ n p, AmountPair.ofNormalized n d r = .ok p →
        AmountPair.ofAtomic p.atomic d = .ok p)
      ∧ ∀ n p q, AmountPair.ofNormalized n d .up = .ok p →
        AmountPair.ofAtomic p.atomic d = .ok q → n.val ≤ q.normalized.val := by
  refine ⟨?there, ?thence, ?fromAtomic, ?fromNormalized, ?up⟩
  case there =>
    intro a n hn
    refine ⟨fun h => ofInventory_of_toInventory h hn, fun h b hb => ?_⟩
    have hle : inventoryDecimals ≤ d := UInt8.le_iff_toNat_le.mpr (Nat.le_of_lt h)
    exact brackets_of_rescale_back hle hn hb
  case thence =>
    intro n a ha
    refine ⟨fun h => toInventory_of_ofInventory h ha, fun h m hm => ?_⟩
    have hle : d ≤ inventoryDecimals := UInt8.le_iff_toNat_le.mpr (Nat.le_of_lt h)
    exact brackets_of_rescale_back hle ha hm
  case fromAtomic =>
    intro h a p hp
    obtain ⟨hn, rfl⟩ := AmountPair.ofAtomic_eq_ok_iff.mp hp
    exact AmountPair.ofNormalized_eq_ok_iff.mpr ⟨ofInventory_of_toInventory h hn, rfl⟩
  case fromNormalized =>
    intro h n p hp
    obtain ⟨ha, rfl⟩ := AmountPair.ofNormalized_eq_ok_iff.mp hp
    exact AmountPair.ofAtomic_eq_ok_iff.mpr ⟨toInventory_of_ofInventory h ha, rfl⟩
  case up =>
    intro n p q hp hq
    obtain ⟨ha, rfl⟩ := AmountPair.ofNormalized_eq_ok_iff.mp hp
    obtain ⟨hm, -⟩ := AmountPair.ofAtomic_eq_ok_iff.mp hq
    exact le_of_rescale_up ha hm

/-- The largest amount at 56 decimals, there and back. -/
theorem inventory_brackets_largest :
    largest.toInventory 56 .down = .ok ⟨3, by decide⟩
      ∧ ofInventory ⟨3, by decide⟩ 56 .up = .ok ⟨3 * Nat.pow 10 38, by decide⟩
      ∧ Rounding.down.Brackets (10 ^ 38) largest.val (3 * Nat.pow 10 38) := by
  have hthere : largest.toInventory 56 .down = .ok ⟨3, by decide⟩ := rfl
  have hback : ofInventory ⟨3, by decide⟩ 56 .up = .ok ⟨3 * Nat.pow 10 38, by decide⟩ := rfl
  obtain ⟨hbrackets, -⟩ := inventory_brackets 56 .down .up
  exact ⟨hthere, hback, (hbrackets _ _ hthere).2 (by decide) _ hback⟩

end Amount

end OrderDesk
