import OrderDesk.Amount.Basic

/-!
# Amount/Rescale — amounts at another number of decimals

An amount at `d` decimals stands for `amount / 10 ^ d`.  More decimals multiply, and the product must
have 128 bits; fewer divide, and a rounding says which way.  The clearing engine keeps its inventory
at eighteen decimals.

All of it is computed at a fixed width.  A sum that does not fit, a division by zero or a difference
below zero would leave nothing to go on with (`Amount.rescale?`); none of them occurs
(`Amount.isSome_rescale?`).
-/

namespace OrderDesk

/-- Which way a quotient is rounded. -/
inductive Rounding where
  /-- To the floor. -/
  | down
  /-- To the ceiling. -/
  | up
deriving DecidableEq, Repr, Inhabited

namespace Rounding

/-- The rounded quotient. -/
def divide : Rounding → Nat → Nat → Nat
  | .down, a, d => a / d
  | .up, a, d => a / d + if a % d = 0 then 0 else 1

/-- A rounded quotient is at most the dividend. -/
theorem divide_le (r : Rounding) (a d : Nat) : r.divide a d ≤ a := by
  have h : a / d ≤ a := Nat.div_le_self a d
  cases r with
  | down => exact h
  | up =>
    simp only [divide]
    split
    · exact h
    · rcases Nat.eq_zero_or_pos d with rfl | hd
      · simp only [Nat.mod_zero, Nat.div_zero] at *; omega
      · have := Nat.div_add_mod a d
        have : a / d ≤ d * (a / d) := Nat.le_mul_of_pos_left _ hd
        omega

/-- Below the divisor the floor is zero… -/
theorem divide_down_of_lt {a d : Nat} (h : a < d) : divide .down a d = 0 := Nat.div_eq_of_lt h

/-- …and the ceiling is one, but for zero. -/
theorem divide_up_of_lt {a d : Nat} (h : a < d) : divide .up a d = if a = 0 then 0 else 1 := by
  rw [divide, Nat.div_eq_of_lt h, Nat.mod_eq_of_lt h, Nat.zero_add]

/-- The name of a rounding. -/
def text : Rounding → String
  | .down => "down"
  | .up => "up"

/-- The rounding that a name in letters of any case means. -/
def parse (name : String) : Except Error Rounding :=
  let lower := name.toList.map Char.toLower
  if lower = ['d', 'o', 'w', 'n'] then .ok .down
  else if lower = ['u', 'p'] then .ok .up
  else .error (.invalidIdentifier (.unknownRounding name))

/-- A rounding in JSON, by its name in lower case. -/
def codec : Json.Codec Rounding where
  encode r := .string r.text
  decode := Json.Variant.decode [.plain ["down"] .down, .plain ["up"] .up]

end Rounding

namespace Amount

variable {a b : Amount} {r : Rounding} {fromDecimals toDecimals : UInt8} {exponent n : Nat}

/-! ## Arithmetic at a fixed width

Nothing wraps: what has more than 128 bits is no result. -/

theorem ofNat?_eq_some_iff : ofNat? n = some a ↔ a.val = n := by
  rw [ofNat?]
  split
  · next h =>
    refine ⟨fun heq => (Option.some.inj heq ▸ rfl), ?_⟩
    rintro rfl
    rfl
  · next h =>
    refine iff_of_false (fun heq => by cases heq) ?_
    rintro rfl
    exact h a.lt

theorem ofNat?_eq_none_iff : ofNat? n = none ↔ Nat.pow 2 128 ≤ n := by
  rw [ofNat?]
  split
  · next h => exact iff_of_false (fun heq => by cases heq) (Nat.not_le.mpr h)
  · next h => exact iff_of_true rfl (Nat.not_lt.mp h)

/-- The sum. -/
def add? (a b : Amount) : Option Amount := ofNat? (a.val + b.val)

/-- The product. -/
def mul? (a b : Amount) : Option Amount := ofNat? (a.val * b.val)

/-- The power of ten. -/
def tenPow? (exponent : Nat) : Option Amount := ofNat? (Nat.pow 10 exponent)

/-- The quotient, but not by zero. -/
def div? (a b : Amount) : Option Amount := if b.val = 0 then none else ofNat? (a.val / b.val)

/-- The remainder, but not by zero. -/
def mod? (a b : Amount) : Option Amount := if b.val = 0 then none else ofNat? (a.val % b.val)

/-- One if a condition holds, and zero if not. -/
def ofBool (condition : Bool) : Amount := ⟨condition.toNat, by cases condition <;> decide⟩

/-- The difference of two numbers of decimals, but not below zero. -/
def difference? (high low : UInt8) : Option Nat :=
  if low ≤ high then some (high.toNat - low.toNat) else none

/-! ## More decimals -/

/-- An amount at more decimals.  A power of ten that does not fit is taken for a product that does
not. -/
def raise (amount : Amount) (fromDecimals toDecimals : UInt8) (exponent : Nat) :
    Except Error Amount :=
  match (tenPow? exponent).bind amount.mul? with
  | some product => .ok product
  | none => .error (.overflow (.rescaled amount.val fromDecimals.toNat toDecimals.toNat))

theorem raise_eq_ok_iff : a.raise fromDecimals toDecimals exponent = .ok b
    ↔ Nat.pow 10 exponent < Nat.pow 2 128 ∧ b.val = a.val * Nat.pow 10 exponent := by
  rw [raise]
  cases hpow : tenPow? exponent with
  | none =>
    have hlarge := ofNat?_eq_none_iff.mp hpow
    exact iff_of_false (fun h => by cases h) fun h => absurd h.1 (Nat.not_lt.mpr hlarge)
  | some factor =>
    have hval : factor.val = Nat.pow 10 exponent := ofNat?_eq_some_iff.mp hpow
    have hlt : Nat.pow 10 exponent < Nat.pow 2 128 := hval ▸ factor.lt
    rw [and_iff_right hlt, ← hval, ← ofNat?_eq_some_iff, Option.bind_some, mul?]
    cases ofNat? (a.val * factor.val) <;> simp

theorem raise_cases (a : Amount) (fromDecimals toDecimals : UInt8) (exponent : Nat) :
    (∃ b, a.raise fromDecimals toDecimals exponent = .ok b)
      ∨ a.raise fromDecimals toDecimals exponent
        = .error (.overflow (.rescaled a.val fromDecimals.toNat toDecimals.toNat)) := by
  rw [raise]
  cases (tenPow? exponent).bind a.mul? with
  | some product => exact .inl ⟨product, rfl⟩
  | none => exact .inr rfl

/-! ## Fewer decimals -/

/-- The rounded quotient of two amounts. -/
def divide? (amount divisor : Amount) (r : Rounding) : Option Amount := do
  let floor ← amount.div? divisor
  match r with
  | .down => some floor
  | .up => floor.add? (ofBool ((← amount.mod? divisor).val != 0))

/-- An amount at fewer decimals. -/
def lower? (amount : Amount) (exponent : Nat) (r : Rounding) : Option Amount :=
  match tenPow? exponent, r with
  | some divisor, r => amount.divide? divisor r
  -- The divisor is beyond every amount.
  | none, .down => some (ofBool false)
  | none, .up => some (ofBool (0 < amount.val))

/-- The rounded quotient of an amount, which is one again. -/
def divided (amount : Amount) (divisor : Nat) (r : Rounding) : Amount :=
  ⟨r.divide amount.val divisor, Nat.lt_of_le_of_lt (r.divide_le _ _) amount.lt⟩

theorem divide?_eq {divisor : Amount} (h : divisor.val ≠ 0) :
    a.divide? divisor r = some (a.divided divisor.val r) := by
  have hfloor : a.div? divisor = some (a.divided divisor.val .down) := by
    rw [div?, if_neg h, ofNat?_eq_some_iff]
    rfl
  have hrest : a.mod? divisor
      = some ⟨a.val % divisor.val, Nat.lt_of_le_of_lt (Nat.mod_le _ _) a.lt⟩ := by
    rw [mod?, if_neg h, ofNat?_eq_some_iff]
  cases r with
  | down => rw [divide?, hfloor]; rfl
  | up =>
    -- The sum fits, since a rounded quotient is at most the dividend.
    have hsum : (a.divided divisor.val .up).val
        = (a.divided divisor.val .down).val + (ofBool (a.val % divisor.val != 0)).val := by
      by_cases hzero : a.val % divisor.val = 0
      · simp [divided, Rounding.divide, ofBool, hzero]
      · simp [divided, Rounding.divide, ofBool, bne, beq_false_of_ne hzero, hzero]
    simp only [divide?, hfloor, hrest, Option.bind_eq_bind, Option.bind_some, add?,
      ofNat?_eq_some_iff, hsum]

theorem lower?_eq : a.lower? exponent r = some (a.divided (Nat.pow 10 exponent) r) := by
  cases hpow : tenPow? exponent with
  | some divisor =>
    have hval : divisor.val = Nat.pow 10 exponent := ofNat?_eq_some_iff.mp hpow
    have hpos : 0 < Nat.pow 10 exponent := Nat.pow_pos (by decide)
    simp only [lower?, hpow]
    rw [divide?_eq (by omega), hval]
  | none =>
    have hlt : a.val < Nat.pow 10 exponent :=
      Nat.lt_of_lt_of_le a.lt (ofNat?_eq_none_iff.mp hpow)
    simp only [lower?, hpow, divided]
    cases r with
    | down => simp only [Rounding.divide_down_of_lt hlt, ofBool, Bool.toNat_false]
    | up =>
      rw [Option.some.injEq, ofBool, mk.injEq, Rounding.divide_up_of_lt hlt]
      split <;> simp [*, Nat.pos_iff_ne_zero]

/-! ## Rescaling -/

/-- An amount at another number of decimals, as far as the steps come out. -/
def rescale? (amount : Amount) (fromDecimals toDecimals : UInt8) (r : Rounding) :
    Option (Except Error Amount) :=
  match compare toDecimals fromDecimals with
  | .eq => some (.ok amount)
  | .gt => do
    let exponent ← difference? toDecimals fromDecimals
    some (amount.raise fromDecimals toDecimals exponent)
  | .lt => do
    let exponent ← difference? fromDecimals toDecimals
    some (.ok (← amount.lower? exponent r))

theorem rescale?_self : a.rescale? fromDecimals fromDecimals r = some (.ok a) := by
  simp [rescale?, compare, compareOfLessAndEq]

theorem rescale?_of_lt (h : fromDecimals < toDecimals) :
    a.rescale? fromDecimals toDecimals r
      = some (a.raise fromDecimals toDecimals (toDecimals.toNat - fromDecimals.toNat)) := by
  have hle : fromDecimals ≤ toDecimals := UInt8.le_of_lt h
  have hcompare : compare toDecimals fromDecimals = .gt := by
    simp only [compare, compareOfLessAndEq, if_neg (UInt8.not_lt.mpr hle),
      if_neg (UInt8.ne_of_lt h).symm]
  simp only [rescale?, hcompare, difference?, if_pos hle, Option.bind_eq_bind, Option.bind_some]

theorem rescale?_of_gt (h : toDecimals < fromDecimals) :
    a.rescale? fromDecimals toDecimals r
      = some (.ok (a.divided (Nat.pow 10 (fromDecimals.toNat - toDecimals.toNat)) r)) := by
  have hle : toDecimals ≤ fromDecimals := UInt8.le_of_lt h
  have hcompare : compare toDecimals fromDecimals = .lt := by
    simp only [compare, compareOfLessAndEq, if_pos h]
  simp only [rescale?, hcompare, difference?, if_pos hle, Option.bind_eq_bind, Option.bind_some,
    lower?_eq]

/-- **Every step comes out.** -/
theorem isSome_rescale? (a : Amount) (fromDecimals toDecimals : UInt8) (r : Rounding) :
    (a.rescale? fromDecimals toDecimals r).isSome := by
  by_cases hlt : fromDecimals < toDecimals
  · rw [rescale?_of_lt hlt, Option.isSome_some]
  · by_cases hgt : toDecimals < fromDecimals
    · rw [rescale?_of_gt hgt, Option.isSome_some]
    · have heq : fromDecimals = toDecimals :=
        UInt8.le_antisymm (UInt8.not_lt.mp hgt) (UInt8.not_lt.mp hlt)
      rw [heq, rescale?_self, Option.isSome_some]

/-- **An amount at another number of decimals.** -/
def rescale (amount : Amount) (fromDecimals toDecimals : UInt8) (r : Rounding) :
    Except Error Amount :=
  (amount.rescale? fromDecimals toDecimals r).get (amount.isSome_rescale? _ _ _)

theorem rescale_eq {x : Except Error Amount}
    (h : a.rescale? fromDecimals toDecimals r = some x) :
    a.rescale fromDecimals toDecimals r = x := by
  simp only [rescale, h, Option.get_some]

/-- The decimals of the clearing engine's inventory. -/
def inventoryDecimals : UInt8 := 18

/-- A native amount in the inventory. -/
def toInventory (amount : Amount) (decimals : UInt8) (r : Rounding) : Except Error Amount :=
  amount.rescale decimals inventoryDecimals r

/-- An inventory amount in native units. -/
def ofInventory (amount : Amount) (decimals : UInt8) (r : Rounding) : Except Error Amount :=
  amount.rescale inventoryDecimals decimals r

end Amount

/-- An amount in the inventory and in native units. -/
structure AmountPair where
  /-- At the decimals of the inventory. -/
  normalized : Amount
  /-- At the decimals of the token. -/
  atomic : Amount
deriving DecidableEq

namespace AmountPair

/-- The pair of a native amount. -/
def ofAtomic (atomic : Amount) (decimals : UInt8) : Except Error AmountPair :=
  (atomic.toInventory decimals .down).map fun normalized => ⟨normalized, atomic⟩

/-- The pair of an inventory amount. -/
def ofNormalized (normalized : Amount) (decimals : UInt8) (r : Rounding) :
    Except Error AmountPair :=
  (normalized.ofInventory decimals r).map fun atomic => ⟨normalized, atomic⟩

/-- A pair in JSON, as two integers. -/
def codec : Json.Codec AmountPair :=
  ((Json.Fields.required "normalized" normalized Amount.integerCodec).and
    (Json.Fields.required "atomic" atomic Amount.integerCodec)).codec fun (n, a) => ⟨n, a⟩

end AmountPair

end OrderDesk
