import Mathlib.Data.Int.Log
import Mathlib.Algebra.Order.Archimedean.Basic
import Mathlib.Data.Rat.Floor
import Mathlib.Tactic.Linarith
import Mathlib.Tactic.Positivity
import Mathlib.Tactic.NormNum

/-!
Numbers of JavaScript as far as reading decimals needs them: a decimal stands for
the nearest double, ties to even, with gradual underflow and overflow to infinity.
A finite double is kept as the rational it is, so the two zeros are one. Integers
below `2 ^ 53` are their own double, and `isSafeInteger` is the test for them.
-/

namespace OnlyTwo.Js

inductive Double where
  | finite (value : Rat)
  | infinite (negative : Bool)
  deriving DecidableEq

/-- The integer next to a rational; of two, the even one. -/
def roundHalfEven (value : Rat) : Int :=
  let below := ⌊value⌋
  let rest := value - below
  if rest < 1 / 2 then below
  else if 1 / 2 < rest then below + 1
  else if below % 2 = 0 then below
  else below + 1

/-- The distance of neighbouring doubles around a value. -/
def unitInLastPlace (value : Rat) : Rat :=
  2 ^ (max (Int.log 2 |value| - 52) (-1074))

def Double.round (value : Rat) : Double :=
  let unit := unitInLastPlace value
  let rounded := roundHalfEven (value / unit) * unit
  if 2 ^ 1024 ≤ |rounded| then .infinite (decide (value < 0)) else .finite rounded

/-- A number as it is written: a sign, digits and the power of ten of the last one. -/
structure Decimal where
  negative : Bool
  digits : Nat
  exponent : Int
  deriving DecidableEq, Repr

def Decimal.value (decimal : Decimal) : Rat :=
  (if decimal.negative then -1 else 1) * decimal.digits * 10 ^ decimal.exponent

def Decimal.ofInt (value : Int) : Decimal where
  negative := decide (value < 0)
  digits := value.natAbs
  exponent := 0

def Decimal.toDouble (decimal : Decimal) : Double := .round decimal.value

def maxSafeInteger : Nat := 2 ^ 53 - 1

def Double.isFinite : Double → Bool
  | .finite _ => true
  | .infinite _ => false

/-- `Number.isSafeInteger`, with the integer. -/
def Double.safeInteger : Double → Option Int
  | .finite value =>
      if value.den = 1 ∧ value.num.natAbs ≤ maxSafeInteger then some value.num else none
  | .infinite _ => none

theorem Double.safeInteger_bound {double : Double} {value : Int}
    (safe : double.safeInteger = some value) : value.natAbs ≤ maxSafeInteger := by
  unfold Double.safeInteger at safe
  split at safe
  · split at safe
    · rename_i bound
      cases safe
      exact bound.2
    · cases safe
  · cases safe

theorem Decimal.value_ofInt (value : Int) : (Decimal.ofInt value).value = value := by
  unfold Decimal.value Decimal.ofInt
  by_cases negative : value < 0
  · have size : (value.natAbs : Rat) = -value := by
      rw [Nat.cast_natAbs, abs_of_neg negative]
      push_cast
      rfl
    simp [negative, size]
  · have size : (value.natAbs : Rat) = value := by
      rw [Nat.cast_natAbs, abs_of_nonneg (not_lt.mp negative)]
    simp [negative, size]

theorem abs_lt_of_natAbs {value : Int} (small : value.natAbs < 2 ^ 53) :
    |(value : Rat)| < 2 ^ 53 := by
  have cast : |(value : Rat)| = (value.natAbs : Rat) := by
    rw [Nat.cast_natAbs, Int.cast_abs]
  rw [cast]
  exact_mod_cast small

theorem roundHalfEven_intCast (value : Int) : roundHalfEven value = value := by
  simp [roundHalfEven]

/-- Around a number below `2 ^ 53` the doubles are at least as close as the integers. -/
theorem unitInLastPlace_small {value : Int} (nonzero : value ≠ 0)
    (small : value.natAbs < 2 ^ 53) :
    ∃ places : Nat, unitInLastPlace value = (2 ^ places)⁻¹ := by
  have positive : (0 : Rat) < |(value : Rat)| := by
    rw [abs_pos]
    exact_mod_cast nonzero
  have lower := Int.zpow_log_le_self (b := 2) (by decide) positive
  have exponent : Int.log 2 |(value : Rat)| < 53 := by
    have below : (2 : Rat) ^ Int.log 2 |(value : Rat)| < 2 ^ (53 : Int) :=
      lt_of_le_of_lt (by exact_mod_cast lower) (by exact_mod_cast abs_lt_of_natAbs small)
    exact (zpow_lt_zpow_iff_right₀ (by norm_num : (1 : Rat) < 2)).mp below
  have nonpositive : max (Int.log 2 |(value : Rat)| - 52) (-1074) ≤ 0 := by omega
  obtain ⟨places, same⟩ := Int.eq_ofNat_of_zero_le (neg_nonneg.mpr nonpositive)
  refine ⟨places, ?_⟩
  unfold unitInLastPlace
  rw [← neg_neg (max _ _), same, zpow_neg, zpow_natCast]

/-- A safe integer is a double. -/
theorem Double.round_intCast {value : Int} (small : value.natAbs ≤ maxSafeInteger) :
    Double.round value = .finite value := by
  have bound : value.natAbs < 2 ^ 53 := by
    unfold maxSafeInteger at small
    omega
  have rounded : (roundHalfEven (value / unitInLastPlace value) : Rat) * unitInLastPlace value =
      value := by
    by_cases zero : value = 0
    · subst zero
      simp [roundHalfEven]
    · obtain ⟨places, unit⟩ := unitInLastPlace_small zero bound
      -- The unit is a power of two below one, so the quotient is a whole number already.
      have scaled : (value : Rat) / unitInLastPlace value = ((value * 2 ^ places : Int) : Rat) := by
        rw [unit]
        push_cast
        rw [div_inv_eq_mul]
      rw [scaled, roundHalfEven_intCast, unit]
      push_cast
      rw [mul_assoc, mul_inv_cancel₀ (by positivity), mul_one]
  have inside : ¬ (2 : Rat) ^ 1024 ≤ |(value : Rat)| := by
    rw [not_le]
    exact lt_of_lt_of_le (abs_lt_of_natAbs bound) (pow_le_pow_right₀ (by norm_num) (by norm_num))
  unfold Double.round
  simp only [rounded, if_neg inside]

theorem Decimal.safeInteger_ofInt {value : Int} (small : value.natAbs ≤ maxSafeInteger) :
    (Decimal.ofInt value).toDouble.safeInteger = some value := by
  rw [Decimal.toDouble, Decimal.value_ofInt, Double.round_intCast small]
  simp [Double.safeInteger, small]

end OnlyTwo.Js
