import OrderDesk.Crypto.Curve25519
import Mathlib.Algebra.Field.ZMod
import Mathlib.Data.List.Prime
import Mathlib.FieldTheory.Finite.Basic
import Mathlib.NumberTheory.LucasPrimality
import Mathlib.Tactic.NormNum.Prime

/-!
# Proofs/Crypto/Prime — the remainders of the curve are a field

    2²⁵⁵ − 19  ◂── 65147, q  ◂── r, s  ◂── …  ◂── small primes

A number is prime if a witness has the order one below it (Lucas), which the prime factors of that
order tell; those are shown prime in the same way, down to small ones (`prime_of_certified`).  Powers
are taken by the binary digits of their exponents, as the curve does itself.  With `p` prime the
remainders are a field, and what is done with remainders is done in it.
-/

namespace OrderDesk

/-! ## Primes by their witnesses -/

/-- A product with a power of remainders, by the lowest `bits` binary digits of the exponent. -/
def timesPowerMod (n : Nat) : (bits : Nat) → (base exponent product : Nat) → Nat
  | 0, _, _, product => product
  | bits + 1, base, exponent, product =>
    timesPowerMod n bits (base * base % n) (exponent / 2)
      (if exponent % 2 = 1 then product * base % n else product)

/-- **The digits of the exponent make the power.** -/
theorem cast_timesPowerMod (n : Nat) : ∀ (bits base exponent product : Nat), exponent < 2 ^ bits →
    (timesPowerMod n bits base exponent product : ZMod n) = product * base ^ exponent
  | 0, base, exponent, product, h => by
      obtain rfl : exponent = 0 := Nat.lt_one_iff.mp h
      rw [timesPowerMod, pow_zero, mul_one]
  | bits + 1, base, exponent, product, h => by
      have hhalf : exponent / 2 < 2 ^ bits := by
        rw [pow_succ] at h
        omega
      rw [timesPowerMod, cast_timesPowerMod n bits _ _ _ hhalf, ZMod.natCast_mod, Nat.cast_mul,
        ← pow_two, ← pow_mul]
      split
      · next hodd =>
        rw [ZMod.natCast_mod, Nat.cast_mul, mul_assoc, ← pow_succ']
        congr 2
        omega
      · next heven =>
        congr 2
        omega

/-- A number below `2²⁵⁶` with what shows that it is prime. -/
structure Certificate where
  number : Nat
  /-- What has the order one below the number. -/
  witness : Nat
  /-- The prime factors of that order, each as often as it divides. -/
  factors : List Nat

/-- A power of the witness. -/
def Certificate.power (c : Certificate) (exponent : Nat) : Nat :=
  timesPowerMod c.number 256 c.witness exponent 1

/-- Whether a certificate shows its number prime, if some numbers are. -/
def Certificate.holds (c : Certificate) (primes : List Nat) : Bool :=
  1 < c.number && c.number < 2 ^ 256 && c.factors.prod = c.number - 1 && c.power (c.number - 1) = 1
    && c.factors.all fun q => q ∈ primes && c.power ((c.number - 1) / q) % c.number ≠ 1

/-- Whether certificates show their numbers prime, each with the help of those before it. -/
def certified (primes : List Nat) : List Certificate → Bool
  | [] => true
  | c :: cs => c.holds primes && certified (c.number :: primes) cs

/-- **Lucas's test.** -/
theorem Certificate.prime {c : Certificate} {primes : List Nat} (hprimes : ∀ q ∈ primes, q.Prime)
    (h : c.holds primes = true) : c.number.Prime := by
  simp only [holds, Bool.and_eq_true, decide_eq_true_eq, List.all_eq_true] at h
  obtain ⟨⟨⟨⟨hone, hbits⟩, hprod⟩, horder⟩, hfactors⟩ := h
  have hpow : ∀ e, e ≤ c.number - 1 →
      (c.power e : ZMod c.number) = (c.witness : ZMod c.number) ^ e := fun e he => by
    rw [power, cast_timesPowerMod _ _ _ _ _ (by omega), Nat.cast_one, one_mul]
  refine lucas_primality c.number c.witness ?_ fun q hq hdvd heq => ?_
  · rw [← hpow _ (Nat.le_refl _), horder, Nat.cast_one]
  · rw [← hprod, hq.prime.dvd_prod_iff] at hdvd
    obtain ⟨f, hf, hqf⟩ := hdvd
    obtain ⟨hmem, hne⟩ := hfactors f hf
    obtain rfl := (Nat.prime_dvd_prime_iff_eq hq (hprimes f hmem)).mp hqf
    have hmod : c.power ((c.number - 1) / q) ≡ 1 [MOD c.number] :=
      (ZMod.natCast_eq_natCast_iff _ _ c.number).mp (by
        rw [hpow _ (Nat.div_le_self _ _), heq, Nat.cast_one])
    exact hne (Eq.trans hmod (Nat.mod_eq_of_lt hone))

/-- **What is certified is prime.** -/
theorem prime_of_certified : ∀ {cs : List Certificate} {primes : List Nat},
    (∀ q ∈ primes, q.Prime) → certified primes cs = true → ∀ c ∈ cs, c.number.Prime
  | [], _, _, _, _, hc => absurd hc List.not_mem_nil
  | c :: cs, primes, hprimes, h, c', hc' => by
      rw [certified, Bool.and_eq_true] at h
      have hc := c.prime hprimes h.1
      rcases List.mem_cons.mp hc' with rfl | hc'
      · exact hc
      · exact prime_of_certified (List.forall_mem_cons.mpr ⟨hc, hprimes⟩) h.2 c' hc'

namespace Curve25519

/-! ## The prime of the curve -/

/-- The small primes that the certificates come down to. -/
def smallPrimes : List Nat :=
  [2, 3, 5, 7, 13, 19, 31, 47, 103, 107, 127, 223, 353, 991, 2437, 4153, 57467, 65147, 75707, 132049,
    430751, 569003, 1923133]

/-- The certificates for `p`. -/
def certificates : List Certificate := [
  ⟨8574133, 2, [2, 2, 3, 7, 103, 991]⟩,
  ⟨2773320623, 5, [2, 2437, 569003]⟩,
  ⟨72106336199, 7, [2, 13, 2773320623]⟩,
  ⟨1919519569386763, 2, [2, 3, 7, 19, 47, 47, 127, 8574133]⟩,
  ⟨31757755568855353, 10, [2, 2, 2, 3, 31, 107, 223, 4153, 430751]⟩,
  ⟨75445702479781427272750846543864801, 7,
    [2, 2, 2, 2, 2, 3, 3, 5, 5, 75707, 72106336199, 1919519569386763]⟩,
  ⟨74058212732561358302231226437062788676166966415465897661863160754340907, 2,
    [2, 3, 353, 57467, 132049, 1923133, 31757755568855353, 75445702479781427272750846543864801]⟩,
  ⟨p, 2, [2, 2, 3, 65147,
    74058212732561358302231226437062788676166966415465897661863160754340907]⟩]

/-- **The number of the curve is prime.** -/
theorem prime_p : Nat.Prime p := by
  have hsmall : ∀ q ∈ smallPrimes, q.Prime := by
    norm_num [smallPrimes]
  have hcertified : certified smallPrimes certificates = true := by
    decide +kernel
  exact prime_of_certified hsmall hcertified ⟨p, 2, _⟩ (List.mem_of_getLast? rfl)

instance fact_prime_p : Fact (Nat.Prime p) := ⟨prime_p⟩

/-! ## Arithmetic on remainders -/

theorem timesPower_eq : ∀ bits base exponent product : Nat,
    timesPower bits base exponent product = timesPowerMod p bits base exponent product
  | 0, _, _, _ => rfl
  | bits + 1, _, _, _ => timesPower_eq bits _ _ _

theorem cast_p : (p : ZMod p) = 0 := ZMod.natCast_self p

/-- A difference of remainders is one in the field. -/
theorem cast_sub (x y : Nat) : (sub x y : ZMod p) = x - y := by
  have hle : y % p ≤ p := Nat.le_of_lt (Nat.mod_lt y prime_p.pos)
  rw [sub, ZMod.natCast_mod, Nat.cast_add, Nat.cast_sub hle, cast_p, ZMod.natCast_mod, zero_sub,
    sub_eq_add_neg]

/-- **An inverse of a remainder is one in the field,** zero being its own. -/
theorem cast_inverse (x : Nat) : (inverse x : ZMod p) = (x : ZMod p)⁻¹ := by
  have hlt : p - 2 < 2 ^ 256 := by decide
  rw [inverse, power, timesPower_eq, cast_timesPowerMod _ _ _ _ _ hlt, Nat.cast_one, one_mul]
  by_cases hx : (x : ZMod p) = 0
  · rw [hx, inv_zero, zero_pow (by decide)]
  · refine eq_inv_of_mul_eq_one_left ?_
    rw [← pow_succ, show p - 2 + 1 = p - 1 by decide]
    exact ZMod.pow_card_sub_one_eq_one hx

end Curve25519

end OrderDesk
