import Mathlib.Algebra.Order.Field.Rat
import Mathlib.Tactic.FieldSimp
import Mathlib.Tactic.Linarith
import Mathlib.Tactic.Ring
import Sweep.Number.Quantity

/-!
# Quotients of whole numbers

The floating point number nearest to a quotient of whole numbers has 53 bits, so it is off by less than
one part in `2 ^ 53`.  That is too little to make a quotient seem smaller than a whole number that it
exceeds, as long as the dividend is below `2 ^ 53`.

* `roundDiv_le`, `exponentFor_spec` — the two choices that the rounding makes, mantissa and exponent;
* `ofFraction_eq`, `ofFraction_spec` — the carry into the next power of two does not change the value of the
  rounded quotient, which is finite unless the dividend is far larger than the divisor;
* `le_mul_ceiling` — shares of the rounded up quotient make up the whole again.
-/

namespace Sweep.Binary64

/-- A quotient is rounded down by at most one half. -/
theorem roundDiv_le (a : Nat) {b : Nat} (hb : 0 < b) : 2 * a ≤ 2 * (roundDiv a b * b) + b := by
  have cut : b * (a / b) + a % b = a := Nat.div_add_mod a b
  have rest : a % b < b := Nat.mod_lt a hb
  have up : (a / b + 1) * b = b * (a / b) + b := by ring
  have down : a / b * b = b * (a / b) := Nat.mul_comm _ _
  rw [roundDiv]
  split
  · omega
  · split
    · omega
    · split <;> omega

/-- Of two candidates for the exponent, the larger one is taken if it leaves a mantissa of 53 bits. -/
theorem exponentFor_eq (num den : Nat) {e : Int} (he : (num.log2 : Int) - den.log2 - 52 = e) :
    exponentFor num den = max minExponent
      (if den * 2 ^ (52 + e.toNat) ≤ num * 2 ^ (-e).toNat then e else e - 1) := by
  rw [exponentFor]
  simp only [he]
  by_cases sign : 0 ≤ e
  · simp only [if_pos sign, show (-e).toNat = 0 by omega, Nat.pow_zero, Nat.mul_one, Nat.pow_eq]
  · simp only [if_neg sign, show e.toNat = 0 by omega, Nat.add_zero, Nat.pow_eq]

/-- **The mantissa has 53 bits**, unless the exponent is the smallest one. -/
theorem exponentFor_spec {num : Nat} (hnum : num ≠ 0) (den : Nat) :
    exponentFor num den = minExponent ∨
      den * 2 ^ (52 + (exponentFor num den).toNat) ≤ num * 2 ^ (-exponentFor num den).toNat := by
  have below : 2 ^ num.log2 ≤ num := Nat.log2_self_le hnum
  have above : den ≤ 2 ^ (den.log2 + 1) := Nat.le_of_lt Nat.lt_log2_self
  generalize he : (num.log2 : Int) - den.log2 - 52 = e
  -- the smaller candidate leaves a mantissa of that size in any case
  have small : den * 2 ^ (52 + (e - 1).toNat) ≤ num * 2 ^ (-(e - 1)).toNat := by
    calc den * 2 ^ (52 + (e - 1).toNat)
        ≤ 2 ^ (den.log2 + 1) * 2 ^ (52 + (e - 1).toNat) := Nat.mul_le_mul_right _ above
      _ = 2 ^ num.log2 * 2 ^ (-(e - 1)).toNat := by
        rw [← Nat.pow_add, ← Nat.pow_add]
        congr 1
        omega
      _ ≤ num * 2 ^ (-(e - 1)).toNat := Nat.mul_le_mul_right _ below
  rw [exponentFor_eq num den he]
  split
  · next large =>
    rcases max_choice minExponent e with h | h
    · exact .inl h
    · rw [h]
      exact .inr large
  · rcases max_choice minExponent (e - 1) with h | h
    · exact .inl h
    · rw [h]
      exact .inr small

theorem exponentFor_le (num den : Nat) :
    exponentFor num den ≤ max minExponent ((num.log2 : Int) - den.log2 - 52) := by
  rw [exponentFor_eq num den rfl]
  split <;> omega

/-- The value of a number without its sign. -/
theorem toRat_finite (m : Nat) (e : Int) :
    (finite false m e).toRat = (m * 2 ^ e.toNat : ℚ) / 2 ^ (-e).toNat := by
  rw [toRat]
  by_cases sign : 0 ≤ e
  · simp [sign, show (-e).toNat = 0 by omega]
  · simp [sign, show e.toNat = 0 by omega, Rat.mkRat_eq_div]

/-- The carry into the next power of two does not change the value. -/
theorem toRat_carry (e : Int) : (finite false (2 ^ 52) (e + 1)).toRat = (finite false (2 ^ 53) e).toRat := by
  rw [toRat_finite, toRat_finite]
  by_cases sign : 0 ≤ e
  · rw [show (e + 1).toNat = e.toNat + 1 by omega, show (-(e + 1)).toNat = (-e).toNat by omega, pow_succ]
    push_cast
    ring
  · rw [show (-e).toNat = (-(e + 1)).toNat + 1 by omega, show (e + 1).toNat = e.toNat by omega]
    generalize (-(e + 1)).toNat = k
    push_cast
    field_simp
    ring

/-- What a rounded quotient is: the mantissa may carry into the next power of two, and the number is infinite
if its exponent is too large. -/
theorem ofFraction_eq (negative : Bool) {num den : Nat} (hnum : num ≠ 0) (hden : den ≠ 0) :
    ∃ m e, e ≤ exponentFor num den + 1 ∧
      ofFraction negative num den = (if maxExponent < e then infinite negative else finite negative m e) ∧
      (finite false m e).toRat = (finite false
        (roundDiv (num * 2 ^ (-exponentFor num den).toNat) (den * 2 ^ (exponentFor num den).toNat))
        (exponentFor num den)).toRat := by
  rw [ofFraction, if_neg (by simp [hnum, hden])]
  generalize exponentFor num den = e
  have mantissa : (if 0 ≤ e then roundDiv num (den * Nat.pow 2 e.toNat)
      else roundDiv (num * Nat.pow 2 (-e).toNat) den)
      = roundDiv (num * 2 ^ (-e).toNat) (den * 2 ^ e.toNat) := by
    split
    · rw [show (-e).toNat = 0 by omega, Nat.pow_zero, Nat.mul_one]
      rfl
    · rw [show e.toNat = 0 by omega, Nat.pow_zero, Nat.mul_one]
      rfl
  simp only [mantissa]
  generalize roundDiv (num * 2 ^ (-e).toNat) (den * 2 ^ e.toNat) = m
  by_cases carry : m = Nat.pow 2 53
  · rw [if_pos carry, carry]
    exact ⟨_, _, Int.le_refl _, rfl, toRat_carry e⟩
  · rw [if_neg carry]
    exact ⟨m, e, by omega, rfl, rfl⟩

/-- **A rounded quotient is finite**, unless the dividend is far larger than the divisor. -/
theorem ofFraction_spec (negative : Bool) {num den : Nat} (hnum : num ≠ 0) (hden : den ≠ 0)
    (moderate : num.log2 ≤ den.log2 + 1022) :
    ∃ m e, ofFraction negative num den = finite negative m e ∧
      (finite false m e).toRat = (finite false
        (roundDiv (num * 2 ^ (-exponentFor num den).toNat) (den * 2 ^ (exponentFor num den).toNat))
        (exponentFor num den)).toRat := by
  obtain ⟨m, e, small, eq, value⟩ := ofFraction_eq negative hnum hden
  have bound := exponentFor_le num den
  rw [minExponent] at bound
  refine ⟨m, e, ?_, value⟩
  rw [eq, if_neg]
  rw [maxExponent]
  omega

/-- A number rounded up is not below it. -/
theorem mantissa_le_ceiling (m : Nat) (e : Int) :
    (m * 2 ^ e.toNat : Int) ≤ (finite false m e).toRat.ceil * 2 ^ (-e).toNat := by
  have above : (finite false m e).toRat ≤ (finite false m e).toRat.ceil := Rat.le_ceil
  generalize (finite false m e).toRat.ceil = c at above ⊢
  rw [toRat_finite, div_le_iff₀ (by positivity)] at above
  exact_mod_cast above

/-- **Shares of a rounded up quotient make up the whole again.** -/
theorem le_mul_ceiling {num den : Nat} (hden : den ≠ 0) (exact : num < 2 ^ 53) :
    ∃ c, (ofFraction false num den).ceiling = .ok c ∧ (num : Int) ≤ den * max 1 c := by
  by_cases hnum : num = 0
  · subst hnum
    exact ⟨_, rfl, by simp⟩
  have size : num.log2 < 53 := (Nat.log2_lt hnum).2 exact
  obtain ⟨m, e, eq, value⟩ := ofFraction_spec false hnum hden (by omega)
  refine ⟨(finite false m e).toRat.ceil, by rw [eq]; rfl, ?_⟩
  rw [value]
  have wide := exponentFor_spec hnum den
  generalize exponentFor num den = e at wide ⊢
  have mantissa := roundDiv_le (num * 2 ^ (-e).toNat) (b := den * 2 ^ e.toNat) (by positivity)
  generalize roundDiv (num * 2 ^ (-e).toNat) (den * 2 ^ e.toNat) = r at mantissa ⊢
  have above := mantissa_le_ceiling r e
  generalize (finite false r e).toRat.ceil = c at above ⊢
  by_contra short
  have fewer : (den : Int) < num := by
    have one : (den : Int) * 1 ≤ den * max 1 c := by gcongr; exact le_max_left 1 c
    omega
  have less : (den : Int) * c ≤ num - 1 := by
    have some : (den : Int) * c ≤ den * max 1 c := by gcongr; exact le_max_right 1 c
    omega
  -- so much was lost by rounding, which is more than the mantissa allows
  have lost : 2 * 2 ^ (-e).toNat ≤ den * 2 ^ e.toNat := by
    have mantissa : 2 * ((num : Int) * 2 ^ (-e).toNat)
        ≤ 2 * (r * (den * 2 ^ e.toNat)) + den * 2 ^ e.toNat := by exact_mod_cast mantissa
    have kept : (r : Int) * (den * 2 ^ e.toNat) ≤ (num - 1) * 2 ^ (-e).toNat := by
      calc (r : Int) * (den * 2 ^ e.toNat) = den * (r * 2 ^ e.toNat) := by ring
        _ ≤ den * (c * 2 ^ (-e).toNat) := by gcongr
        _ = den * c * 2 ^ (-e).toNat := by ring
        _ ≤ (num - 1) * 2 ^ (-e).toNat := by gcongr
    have : (2 : Int) * 2 ^ (-e).toNat ≤ den * 2 ^ e.toNat := by linarith
    exact_mod_cast this
  rcases wide with rfl | wide
  · have huge : 2 ^ 53 ≤ 2 ^ (-minExponent).toNat := Nat.pow_le_pow_right (by decide) (by decide)
    rw [show minExponent.toNat = 0 from rfl, Nat.pow_zero, Nat.mul_one] at lost
    omega
  · have : 2 ^ 53 * 2 ^ (-e).toNat ≤ num * 2 ^ (-e).toNat := by
      calc 2 ^ 53 * 2 ^ (-e).toNat = 2 ^ 52 * (2 * 2 ^ (-e).toNat) := by ring
        _ ≤ 2 ^ 52 * (den * 2 ^ e.toNat) := Nat.mul_le_mul_left _ lost
        _ = den * 2 ^ (52 + e.toNat) := by ring
        _ ≤ num * 2 ^ (-e).toNat := wide
    have := Nat.le_of_mul_le_mul_right this (by positivity)
    omega

end Sweep.Binary64
