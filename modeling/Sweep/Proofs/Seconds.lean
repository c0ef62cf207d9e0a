import Mathlib.Algebra.Order.Field.Basic
import Sweep.Proofs.Rounding

/-!
# Milliseconds on the clock

A time that is written in milliseconds is counted in seconds, as a floating point number, before a clock of
whole microseconds sees it.  The number of seconds is off by less than one part in `2 ^ 53`, which is less
than half a microsecond for every time below `2 ^ 52` microseconds: such a time is the same on the clock.
A longer one may be a little shorter or longer there.

* `ofFraction_within`, `ofFraction_near` — how far a rounded quotient is from the quotient;
* `abs_sub_nearestInt_le`, `nearestInt_eq` — how far the nearest integer is;
* `Quantity.exists_seconds`, `Quantity.seconds_near` — times that have a number of seconds, and how far it is off;
* `Quantity.microseconds_eq` — times that are the same on the clock;
* `Quantity.microseconds_pos` — a positive time is positive on the clock.
-/

namespace Sweep

namespace Binary64

/-- A quotient is rounded up by at most one half. -/
theorem le_roundDiv (a : Nat) {b : Nat} (hb : 0 < b) : 2 * (roundDiv a b * b) ≤ 2 * a + b := by
  have cut : b * (a / b) + a % b = a := Nat.div_add_mod a b
  have rest : a % b < b := Nat.mod_lt a hb
  have up : (a / b + 1) * b = b * (a / b) + b := by ring
  have down : a / b * b = b * (a / b) := Nat.mul_comm _ _
  rw [roundDiv]
  split
  · omega
  · split
    · omega
    · split <;> omega

theorem abs_sub_roundDiv_le (a : Nat) {b : Nat} (hb : 0 < b) :
    |(a : ℚ) / b - roundDiv a b| ≤ 1 / 2 := by
  have below : 2 * (a : ℚ) ≤ 2 * (roundDiv a b * b) + b := by exact_mod_cast roundDiv_le a hb
  have above : 2 * ((roundDiv a b : ℚ) * b) ≤ 2 * a + b := by exact_mod_cast le_roundDiv a hb
  have positive : (0 : ℚ) < b := by exact_mod_cast hb
  rw [abs_le, ← sub_nonneg, ← sub_nonneg (b := (a : ℚ) / b - roundDiv a b)]
  constructor
  · have : (a : ℚ) / b - roundDiv a b - -(1 / 2) = (2 * a + b - 2 * (roundDiv a b * b)) / (2 * b) := by
      field_simp
      ring
    rw [this]
    exact div_nonneg (by linarith) (by linarith)
  · have : 1 / 2 - ((a : ℚ) / b - roundDiv a b) = (2 * (roundDiv a b * b) + b - 2 * a) / (2 * b) := by
      field_simp
      ring
    rw [this]
    exact div_nonneg (by linarith) (by linarith)

/-- **The nearest integer is at most one half away.** -/
theorem abs_sub_nearestInt_le (v : ℚ) : |v - nearestInt v| ≤ 1 / 2 := by
  have near := abs_sub_roundDiv_le v.num.natAbs v.den_pos
  have size : ((v.num.natAbs : ℚ)) / v.den = |v| := by
    conv_rhs => rw [← Rat.num_div_den v]
    rw [abs_div, Nat.abs_cast, Nat.cast_natAbs, Int.cast_abs]
  rw [size] at near
  rw [nearestInt]
  split
  · next negative =>
    have sign : v < 0 := Rat.num_neg.1 negative
    rw [abs_of_neg sign] at near
    rw [← abs_neg]
    push_cast
    convert near using 2
    ring
  · next nonneg =>
    have sign : 0 ≤ v := Rat.num_nonneg.1 (not_lt.1 nonneg)
    rwa [abs_of_nonneg sign] at near

/-- An integer that is less than one half away is the nearest one. -/
theorem nearestInt_eq {v : ℚ} {n : Int} (near : |v - n| < 1 / 2) : nearestInt v = n := by
  have away := abs_sub_nearestInt_le v
  have close : |((nearestInt v - n : Int) : ℚ)| < 1 := by
    have split_ : ((nearestInt v - n : Int) : ℚ) = (v - n) - (v - nearestInt v) := by
      push_cast
      ring
    rw [split_]
    exact (abs_sub _ _).trans_lt (by linarith)
  have same : nearestInt v - n = 0 := Int.abs_lt_one_iff.1 (by exact_mod_cast close)
  omega

/-- A floating point number has the value of its mantissa and exponent, with its sign. -/
theorem toRat_signed (negative : Bool) (m : Nat) (e : Int) :
    (finite negative m e).toRat = if negative then -(finite false m e).toRat else (finite false m e).toRat := by
  cases negative <;> rfl

/-- **A rounded quotient is off by at most one half of its last place**, if it is finite; and the last place is
small compared with the quotient, unless it is the smallest one. -/
theorem ofFraction_within {negative sign : Bool} {num den m : Nat} {e : Int} (hnum : num ≠ 0)
    (hden : den ≠ 0) (finite_eq : ofFraction negative num den = finite sign m e) :
    sign = negative ∧ ∃ place : ℚ, |(finite false m e).toRat - num / den| ≤ 1 / 2 * place ∧
      (place = 1 / 2 ^ (-minExponent).toNat ∨ place * 2 ^ 52 ≤ num / den) := by
  obtain ⟨m', e', -, eq, value⟩ := ofFraction_eq negative hnum hden
  rw [finite_eq] at eq
  split at eq
  · cases eq
  cases eq
  refine ⟨rfl, ?_⟩
  rw [value]
  have wide := exponentFor_spec hnum den
  generalize exponentFor num den = e at wide ⊢
  have near := abs_sub_roundDiv_le (num * 2 ^ (-e).toNat) (b := den * 2 ^ e.toNat) (by positivity)
  generalize roundDiv (num * 2 ^ (-e).toNat) (den * 2 ^ e.toNat) = r at near ⊢
  rw [toRat_finite]
  have down : (0 : ℚ) < den := by exact_mod_cast Nat.pos_of_ne_zero hden
  have up : (0 : ℚ) < 2 ^ e.toNat / 2 ^ (-e).toNat := by positivity
  refine ⟨2 ^ e.toNat / 2 ^ (-e).toNat, ?_, ?_⟩
  · have off : (r * 2 ^ e.toNat : ℚ) / 2 ^ (-e).toNat - num / den
        = -(((num * 2 ^ (-e).toNat : Nat) : ℚ) / ((den * 2 ^ e.toNat : Nat) : ℚ) - r)
          * (2 ^ e.toNat / 2 ^ (-e).toNat) := by
      push_cast
      field_simp
      ring
    rw [off, abs_mul, abs_neg, abs_of_pos up]
    gcongr
  · rcases wide with rfl | wide
    · exact .inl (by rw [show minExponent.toNat = 0 from rfl, pow_zero])
    · right
      have wide : (den : ℚ) * (2 ^ 52 * 2 ^ e.toNat) ≤ num * 2 ^ (-e).toNat := by
        rw [Nat.pow_add] at wide
        exact_mod_cast wide
      rw [div_mul_eq_mul_div, div_le_div_iff₀ (by positivity) down]
      linarith

/-- A rounded quotient is off by at most one part in `2 ^ 53`, if the divisor is not too large. -/
theorem ofFraction_near {negative sign : Bool} {num den m : Nat} {e : Int} (hnum : num ≠ 0) (hden : den ≠ 0)
    (short : den ≤ 2 ^ 200) (finite_eq : ofFraction negative num den = finite sign m e) :
    sign = negative ∧ |(finite false m e).toRat - num / den| * 2 ^ 53 ≤ num / den := by
  obtain ⟨same, place, near, small⟩ := ofFraction_within hnum hden finite_eq
  refine ⟨same, ?_⟩
  have small : place * 2 ^ 52 ≤ num / den := by
    refine small.elim (fun smallest => ?_) id
    have large : den * 2 ^ 52 ≤ num * 2 ^ (-minExponent).toNat := by
      calc den * 2 ^ 52 ≤ 2 ^ 200 * 2 ^ 52 := Nat.mul_le_mul_right _ short
        _ ≤ 2 ^ (-minExponent).toNat := by
          rw [← Nat.pow_add]
          exact Nat.pow_le_pow_right (by decide) (by decide)
        _ ≤ num * 2 ^ (-minExponent).toNat := Nat.le_mul_of_pos_left _ (Nat.pos_of_ne_zero hnum)
    have down : (0 : ℚ) < den := by exact_mod_cast Nat.pos_of_ne_zero hden
    rw [smallest, div_mul_eq_mul_div, div_le_div_iff₀ (by positivity) down, one_mul]
    rw [mul_comm]
    exact_mod_cast large
  calc _ ≤ 1 / 2 * place * 2 ^ 53 := by gcongr
    _ = place * 2 ^ 52 := by ring
    _ ≤ num / den := small

/-- A share of a whole number, rounded up, is hardly larger than the number. -/
theorem ceiling_le {negative : Bool} {num den : Nat} (hden : den ≠ 0) (exact : num < 2 ^ 52) {c : Int}
    (ceiling : (ofFraction negative num den).ceiling = .ok c) : c ≤ num + 1 := by
  by_cases hnum : num = 0
  · subst hnum
    rw [show (ofFraction negative 0 den).ceiling = .ok (finite negative 0 minExponent).toRat.ceil from rfl,
      toRat_signed, toRat_finite] at ceiling
    cases ceiling
    refine Rat.ceil_le_iff.2 ?_
    simp
  cases quotient : ofFraction negative num den with
  | finite sign m e =>
    obtain ⟨rfl, place, near, small⟩ := ofFraction_within hnum hden quotient
    rw [quotient] at ceiling
    cases ceiling
    have share : (num : ℚ) / den ≤ num :=
      div_le_self (Nat.cast_nonneg num) (by exact_mod_cast Nat.pos_of_ne_zero hden)
    have bound : (num : ℚ) < 2 ^ 52 := by exact_mod_cast exact
    have little : place ≤ 1 := by
      rcases small with rfl | small
      · exact (div_le_one (by positivity)).2 (one_le_pow₀ (by norm_num))
      · linarith
    have above := (abs_le.1 near).2
    have nonneg : 0 ≤ (finite false m e).toRat := by
      rw [toRat_finite]
      positivity
    refine Rat.ceil_le_iff.2 ?_
    rw [toRat_signed]
    push_cast
    split <;> linarith
  | infinite | undefined =>
    rw [quotient] at ceiling
    cases ceiling

end Binary64

namespace Quantity

variable {n : Int}

/-- The seconds of a whole number of milliseconds are off by less than one part in `2 ^ 53`. -/
theorem seconds_near {x : Binary64} (counted : (whole n).seconds = .ok x) :
    |x.toRat - n / 1000| * 2 ^ 53 ≤ |(n : ℚ)| / 1000 := by
  rw [seconds, divide] at counted
  by_cases zero : n = 0
  · subst zero
    cases counted
    show |(Binary64.finite false 0 Binary64.minExponent).toRat - _| * _ ≤ _
    rw [Binary64.toRat_finite]
    simp
  have size : ((n.natAbs : Nat) : ℚ) = |(n : ℚ)| := by rw [Nat.cast_natAbs, Int.cast_abs]
  cases quotient : Binary64.ofFraction (decide (n < 0) != decide ((1000 : Int) < 0)) n.natAbs
      (Int.natAbs 1000) with
  | infinite negative =>
    rw [quotient] at counted
    cases counted
  | undefined =>
    obtain ⟨m, e, -, eq, -⟩ := Binary64.ofFraction_eq (decide (n < 0) != decide ((1000 : Int) < 0))
      (Int.natAbs_ne_zero.2 zero) (show (1000 : Int).natAbs ≠ 0 by decide)
    rw [quotient] at eq
    split at eq <;> cases eq
  | finite negative m e =>
    obtain ⟨sign, near⟩ := Binary64.ofFraction_near (Int.natAbs_ne_zero.2 zero) (by decide) (by decide)
      quotient
    rw [quotient] at counted
    cases counted
    rw [size] at near
    norm_num at sign near ⊢
    rw [Binary64.toRat_signed, sign]
    by_cases negative : n < 0
    · have below : (n : ℚ) < 0 := by exact_mod_cast negative
      rw [abs_of_neg below] at near ⊢
      simp only [negative, decide_true, if_true]
      rw [← abs_neg]
      convert near using 3
      ring
    · have above : (0 : ℚ) ≤ n := by exact_mod_cast not_lt.1 negative
      rw [abs_of_nonneg above] at near ⊢
      simpa [negative] using near

/-- Whole numbers below a large bound can be counted in seconds. -/
theorem exists_seconds {k : Nat} (small : n.natAbs < 2 ^ k) (hk : k ≤ 1032) :
    ∃ x, (whole n).seconds = .ok x := by
  by_cases zero : n = 0
  · subst zero
    exact ⟨_, rfl⟩
  · have size : n.natAbs.log2 < k := (Nat.log2_lt (Int.natAbs_ne_zero.2 zero)).2 small
    have moderate : n.natAbs.log2 ≤ Nat.log2 1000 + 1022 := by
      rw [show Nat.log2 1000 = 9 by decide]
      omega
    obtain ⟨m, e, quotient, -⟩ :=
      Binary64.ofFraction_spec (decide (n < 0) != decide ((1000 : Int) < 0))
        (Int.natAbs_ne_zero.2 zero) (by decide) moderate
    refine ⟨.finite (decide (n < 0) != decide ((1000 : Int) < 0)) m e, ?_⟩
    rw [seconds, divide, show (1000 : Int).natAbs = 1000 from rfl, quotient]
    rfl

theorem microseconds_of_seconds {x : Binary64} (counted : (whole n).seconds = .ok x) :
    (whole n).microseconds = x.microseconds := by
  rw [microseconds, counted]

/-- **Times below `2 ^ 52` microseconds are the same on the clock.** -/
theorem microseconds_eq (small : n.natAbs * 1000 < 2 ^ 52) : (whole n).microseconds = n * 1000 := by
  obtain ⟨x, counted⟩ := exists_seconds (n := n) (k := 52) (by omega) (by decide)
  have near := seconds_near counted
  have less : |(n : ℚ)| * 1000 < 2 ^ 52 := by
    rw [← Int.cast_abs, ← Int.natCast_natAbs]
    exact_mod_cast small
  rw [microseconds_of_seconds counted, Binary64.microseconds]
  refine Binary64.nearestInt_eq ?_
  have scaled : x.toRat * 1000000 - ((n * 1000 : Int) : ℚ) = (x.toRat - n / 1000) * 1000000 := by
    push_cast
    ring
  rw [scaled, abs_mul, abs_of_pos (by norm_num : (0 : ℚ) < 1000000)]
  linarith

/-- A positive time is positive on the clock. -/
theorem microseconds_pos {x : Binary64} (positive : 0 < n) (counted : (whole n).seconds = .ok x) :
    0 < (whole n).microseconds := by
  have near := seconds_near counted
  have one : (1 : ℚ) ≤ n := by exact_mod_cast positive
  rw [abs_of_pos (by linarith : (0 : ℚ) < n)] at near
  have below := (abs_le.1 (show |x.toRat - n / 1000| ≤ (n : ℚ) / 1000 / 2 ^ 53 by
    rw [le_div_iff₀ (by positivity)]
    exact near)).1
  have away := (abs_le.1 (Binary64.abs_sub_nearestInt_le (x.toRat * 1000000))).2
  rw [microseconds_of_seconds counted, Binary64.microseconds]
  have : (0 : ℚ) < Binary64.nearestInt (x.toRat * 1000000) := by linarith
  exact_mod_cast this

end Quantity

end Sweep
