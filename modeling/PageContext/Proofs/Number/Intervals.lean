import Mathlib.Algebra.Order.Field.Power
import Mathlib.Algebra.Order.Field.Rat
import Mathlib.Tactic.FieldSimp
import Mathlib.Tactic.Linarith
import Mathlib.Tactic.NormNum
import Mathlib.Tactic.Ring
import PageContext.Number.Shortest

/-!
# Intervals of reals that round to a number

Each number of the format owns the interval of reals that round to it.  The intervals of different
numbers do not meet: where the end of one is the beginning of the next, only the number with the
even significand owns it.  A decimal number therefore stands for at most one number of each sign.
-/

namespace PageContext

/-- An integral power as a quotient of two natural ones. -/
theorem zpow_eq_div {base : ℚ} (nonzero : base ≠ 0) (exponent : ℤ) :
    base ^ exponent = base ^ exponent.toNat / base ^ (-exponent).toNat := by
  rw [← zpow_natCast, ← zpow_natCast, ← zpow_sub₀ nonzero]
  congr 1
  omega

/-- Both sides of a comparison between a quotient and a multiple of a power, made whole. -/
theorem mul_pow_le_mul_pow_iff {base : ℕ} (basePositive : 0 < base) (numerator : ℕ)
    {denominator : ℕ} (positive : 0 < denominator) (factor : ℕ) (exponent : ℤ) :
    factor * (denominator * base ^ exponent.toNat) ≤ numerator * base ^ (-exponent).toNat ↔
      (factor : ℚ) * (base : ℚ) ^ exponent ≤ numerator / denominator := by
  have nonzero : (base : ℚ) ≠ 0 := by exact_mod_cast basePositive.ne'
  have denominatorPositive : (0 : ℚ) < denominator := by exact_mod_cast positive
  have power : (0 : ℚ) < base ^ (-exponent).toNat := by positivity
  rw [zpow_eq_div nonzero, le_div_iff₀ denominatorPositive, mul_div_assoc', div_mul_eq_mul_div,
    div_le_iff₀ power, ← @Nat.cast_le ℚ]
  push_cast
  rw [mul_assoc, mul_comm ((base : ℚ) ^ exponent.toNat)]

namespace Binary64

/-- The one form of a number in the format: the significand has all of its bits, or else the
exponent is the least one. -/
structure IsCanonical (number : Binary64) : Prop where
  significand_lt : number.significand < 2 ^ 53
  leastExponent_le : -1074 ≤ number.exponent
  exponent_le : number.exponent ≤ 971
  full : number.exponent = -1074 ∨ 2 ^ 52 ≤ number.significand

/-- The value of a number, sign aside. -/
def magnitude (number : Binary64) : ℚ :=
  number.significand * 2 ^ number.exponent

def lowEnd (number : Binary64) : ℚ :=
  number.interval.1 * 2 ^ (number.exponent - 2)

def highEnd (number : Binary64) : ℚ :=
  number.interval.2.1 * 2 ^ (number.exponent - 2)

theorem magnitude_eq (number : Binary64) :
    number.magnitude = 4 * number.significand * 2 ^ (number.exponent - 2) := by
  rw [magnitude, zpow_sub₀ two_ne_zero]
  ring

theorem highEnd_eq (number : Binary64) :
    number.highEnd = (4 * number.significand + 2) * 2 ^ (number.exponent - 2) := by
  simp [highEnd, interval]

/-- A real rounds to a number, sign aside. -/
def RoundsTo (value : ℚ) (number : Binary64) : Prop :=
  if number.significand % 2 = 0 then number.lowEnd ≤ value ∧ value ≤ number.highEnd
  else number.lowEnd < value ∧ value < number.highEnd

/-- Both sides of a comparison with a decimal number are whole after multiplication by one scale. -/
theorem exists_scale (unit power : ℤ) : ∃ scale : ℚ, 0 < scale ∧
    (∀ bound : ℕ, ((bound * (Nat.pow 10 (-power).toNat * Nat.pow 2 unit.toNat) : ℕ) : ℚ) =
      bound * 2 ^ unit * scale) ∧
    ∀ digits : ℕ, ((digits * Nat.pow 10 power.toNat * Nat.pow 2 (-unit).toNat : ℕ) : ℚ) =
      digits * 10 ^ power * scale := by
  refine ⟨10 ^ (-power).toNat * 2 ^ (-unit).toNat, by positivity, ?_, ?_⟩
  · intro bound
    rw [zpow_eq_div two_ne_zero unit]
    simp only [Nat.pow_eq]
    push_cast
    field_simp
  · intro digits
    rw [zpow_eq_div (show (10 : ℚ) ≠ 0 by norm_num) power]
    simp only [Nat.pow_eq]
    push_cast
    field_simp

theorem owns_iff (number : Binary64) (digits : ℕ) (power : ℤ) :
    number.owns digits power = true ↔ RoundsTo (digits * 10 ^ power) number := by
  rcases exists_scale (number.exponent - 2) power with ⟨scale, positive, isBound, isPoint⟩
  have le_iff : ∀ low high : ℚ, low * scale ≤ high * scale ↔ low ≤ high := by
    intro low high
    exact mul_le_mul_iff_left₀ positive
  have lt_iff : ∀ low high : ℚ, low * scale < high * scale ↔ low < high := by
    intro low high
    exact mul_lt_mul_iff_left₀ positive
  simp only [owns, interval, RoundsTo, lowEnd, highEnd, beq_iff_eq]
  split
  · simp only [Bool.and_eq_true, decide_eq_true_eq, ← @Nat.cast_le ℚ]
    rw [isBound, isBound, isPoint, le_iff, le_iff]
  · simp only [Bool.and_eq_true, decide_eq_true_eq, ← @Nat.cast_lt ℚ]
    rw [isBound, isBound, isPoint, lt_iff, lt_iff]

/-! ## Neighbours -/

/-- The order of canonical numbers, sign aside. -/
def Below (lower higher : Binary64) : Prop :=
  lower.exponent < higher.exponent ∨
    lower.exponent = higher.exponent ∧ lower.significand < higher.significand

theorem interval_fst (number : Binary64) :
    number.interval.1 = 4 * number.significand -
      if number.significand = 2 ^ 52 ∧ -1074 < number.exponent then 1 else 2 := by
  simp [interval, significandBits, leastExponent]

/-- The bounds of a higher interval, measured in the unit of a lower one. -/
theorem Below.bound_le {lower higher : Binary64} (below : Below lower higher)
    (lowerCanonical : lower.IsCanonical) (higherCanonical : higher.IsCanonical) :
    4 * lower.significand + 2 <
        higher.interval.1 * 2 ^ (higher.exponent - lower.exponent).toNat ∨
      4 * lower.significand + 2 =
          higher.interval.1 * 2 ^ (higher.exponent - lower.exponent).toNat ∧
        ¬(lower.significand % 2 = 0 ∧ higher.significand % 2 = 0) := by
  have lowerBound := lowerCanonical.significand_lt
  have lowerLeast := lowerCanonical.leastExponent_le
  rw [interval_fst]
  rcases below with less | ⟨same, less⟩
  · -- The higher number has all its bits, so its interval begins at half of the last power of two.
    have higherFull : 2 ^ 52 ≤ higher.significand := by
      rcases higherCanonical.full with least | full
      · omega
      · exact full
    have twice : 2 ≤ 2 ^ (higher.exponent - lower.exponent).toNat := by
      have power := Nat.pow_le_pow_right (show 0 < 2 by decide)
        (show 1 ≤ (higher.exponent - lower.exponent).toNat by omega)
      simpa using power
    split
    · next boundary =>
      have scaled := Nat.mul_le_mul_left (4 * higher.significand - 1) twice
      omega
    · next inside =>
      have scaled := Nat.mul_le_mul_left (4 * higher.significand - 2) twice
      omega
  · have noBoundary : ¬(higher.significand = 2 ^ 52 ∧ -1074 < higher.exponent) := by
      rintro ⟨boundary, notLeast⟩
      rcases lowerCanonical.full with least | full <;> omega
    have sameUnit : (higher.exponent - lower.exponent).toNat = 0 := by omega
    rw [if_neg noBoundary, sameUnit, Nat.pow_zero]
    omega

/-- The interval of a number lies below those of the numbers above it.  Where two intervals touch,
one of the significands is odd. -/
theorem Below.highEnd_le {lower higher : Binary64} (below : Below lower higher)
    (lowerCanonical : lower.IsCanonical) (higherCanonical : higher.IsCanonical) :
    lower.highEnd < higher.lowEnd ∨
      lower.highEnd = higher.lowEnd ∧
        ¬(lower.significand % 2 = 0 ∧ higher.significand % 2 = 0) := by
  have unit : (0 : ℚ) < 2 ^ (lower.exponent - 2) := by positivity
  have isHigh : lower.highEnd = (4 * lower.significand + 2 : ℕ) * 2 ^ (lower.exponent - 2) := rfl
  have isLow : higher.lowEnd =
      (higher.interval.1 * 2 ^ (higher.exponent - lower.exponent).toNat : ℕ) *
        2 ^ (lower.exponent - 2) := by
    have noHigher : lower.exponent ≤ higher.exponent := by
      rcases below with less | ⟨same, _⟩ <;> omega
    have shift : higher.exponent - 2 =
        (higher.exponent - lower.exponent).toNat + (lower.exponent - 2) := by omega
    rw [lowEnd, shift, zpow_add₀ two_ne_zero, zpow_natCast]
    push_cast
    ring
  rw [isHigh, isLow, mul_lt_mul_iff_left₀ unit, mul_left_inj' unit.ne', Nat.cast_lt, Nat.cast_inj]
  exact below.bound_le lowerCanonical higherCanonical

theorem Below.not_roundsTo {lower higher : Binary64} (below : Below lower higher)
    (lowerCanonical : lower.IsCanonical) (higherCanonical : higher.IsCanonical) {value : ℚ}
    (toLower : RoundsTo value lower) : ¬RoundsTo value higher := by
  intro toHigher
  have apart := below.highEnd_le lowerCanonical higherCanonical
  unfold RoundsTo at toLower toHigher
  split at toLower
  · next lowerEven =>
    split at toHigher
    · next higherEven =>
      rcases apart with less | ⟨_, odd⟩
      · linarith
      · exact odd ⟨lowerEven, higherEven⟩
    · rcases apart with less | ⟨touch, _⟩ <;> linarith
  · split at toHigher
    · rcases apart with less | ⟨touch, _⟩ <;> linarith
    · rcases apart with less | ⟨touch, _⟩ <;> linarith

/-- A real rounds to one number of the format, sign aside. -/
theorem RoundsTo.unique {value : ℚ} {left right : Binary64} (toLeft : RoundsTo value left)
    (toRight : RoundsTo value right) (leftCanonical : left.IsCanonical)
    (rightCanonical : right.IsCanonical) :
    left.significand = right.significand ∧ left.exponent = right.exponent := by
  by_contra differ
  have ordered : Below left right ∨ Below right left := by
    unfold Below
    omega
  rcases ordered with below | below
  · exact below.not_roundsTo leftCanonical rightCanonical toLeft toRight
  · exact below.not_roundsTo rightCanonical leftCanonical toRight toLeft

end Binary64

end PageContext
