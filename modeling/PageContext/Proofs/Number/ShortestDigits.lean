import PageContext.Proofs.Number.Canonical

/-!
# Shortest digits read back

The shortest digits of a number stand for a real that rounds to the number.  Seventeen digits are
always enough: on the grid of seventeen digits the neighbours of a number are closer to each other
than the ends of its interval, so that one of them lies inside.
-/

namespace PageContext

/-- The value of digits and a power of ten. -/
def DecimalDigits.value (decimal : DecimalDigits) : ℚ :=
  decimal.digits * 10 ^ decimal.exponent

namespace Binary64

/-! ## Quotients -/

theorem quotient_value (number : Binary64) :
    (number.quotient.1 / number.quotient.2 : ℚ) = number.magnitude := by
  rw [magnitude, zpow_eq_div two_ne_zero]
  simp only [quotient, Nat.pow_eq]
  push_cast
  ring

theorem overTen_snd_pos (numerator : ℕ) {denominator : ℕ} (positive : 0 < denominator)
    (exponent : ℤ) : 0 < (overTen numerator denominator exponent).2 :=
  Nat.mul_pos positive (Nat.pow_pos (by decide))

theorem mul_le_overTen_iff (numerator : ℕ) {denominator : ℕ} (positive : 0 < denominator)
    (factor : ℕ) (exponent : ℤ) :
    factor * (overTen numerator denominator exponent).2 ≤
        (overTen numerator denominator exponent).1 ↔
      (factor : ℚ) * 10 ^ exponent ≤ numerator / denominator :=
  mul_pow_le_mul_pow_iff (show 0 < 10 by decide) numerator positive factor exponent

/-! ## The power of the leading digit -/

section

variable {p q : ℕ} (above : (2 : ℚ) ^ q ≤ 10 ^ p) (below : (10 : ℚ) ^ p ≤ 2 ^ (q + 1))
include above below

/-- Where `p / q` is little more than the logarithm of two to the base ten, a power of `10 ^ p` is
not much larger than the same power of `2 ^ q`. -/
theorem ten_pow_zpow_le {difference : ℤ} (bounded : difference ≤ q) :
    ((10 : ℚ) ^ p) ^ difference ≤ 2 ^ q * (2 ^ q) ^ difference := by
  have positive : (0 : ℚ) < (2 ^ q) ^ difference := by positivity
  rcases le_or_gt 0 difference with nonnegative | negative
  · have small : (2 : ℚ) ^ difference ≤ 2 ^ q := by
      rw [← zpow_natCast]
      exact zpow_le_zpow_right₀ (by norm_num) bounded
    calc ((10 : ℚ) ^ p) ^ difference
        ≤ (2 ^ (q + 1)) ^ difference := zpow_le_zpow_left₀ nonnegative (by positivity) below
      _ = 2 ^ difference * (2 ^ q) ^ difference := by rw [pow_succ', mul_zpow]
      _ ≤ 2 ^ q * (2 ^ q) ^ difference := by gcongr
  · have isInverse : ((10 : ℚ) ^ p) ^ difference ≤ (2 ^ q) ^ difference := by
      rw [show difference = -(-difference) by ring, zpow_neg, zpow_neg _ (-difference)]
      apply inv_anti₀ (by positivity)
      exact zpow_le_zpow_left₀ (by omega) (by positivity) above
    have one : (1 : ℚ) ≤ 2 ^ q := one_le_pow₀ (by norm_num)
    calc ((10 : ℚ) ^ p) ^ difference
        ≤ (2 ^ q) ^ difference := isInverse
      _ ≤ 2 ^ q * (2 ^ q) ^ difference := le_mul_of_one_le_left positive.le one

theorem ten_zpow_le (nonzero : q ≠ 0) {guess difference : ℤ}
    (isGuess : q * guess ≤ p * difference) (bounded : difference ≤ q) :
    (10 : ℚ) ^ guess ≤ 2 * 2 ^ difference := by
  have raised : ((10 : ℚ) ^ guess) ^ q ≤ (2 * 2 ^ difference) ^ q := by
    calc ((10 : ℚ) ^ guess) ^ q
        = 10 ^ (q * guess) := by rw [← zpow_natCast, ← zpow_mul, mul_comm]
      _ ≤ 10 ^ (p * difference) := zpow_le_zpow_right₀ (by norm_num) isGuess
      _ = (10 ^ p) ^ difference := by rw [zpow_mul, zpow_natCast]
      _ ≤ 2 ^ q * (2 ^ q) ^ difference := ten_pow_zpow_le above below bounded
      _ = (2 * 2 ^ difference) ^ q := by
          rw [mul_pow, ← zpow_natCast (2 ^ difference), ← zpow_natCast 2, ← zpow_mul, ← zpow_mul,
            mul_comm difference]
  exact (pow_le_pow_iff_left₀ (by positivity) (by positivity) nonzero).mp raised

end

-- The exponents are kept as variables, so that only the kernel computes numbers of this size.
/-- The logarithm of two to the base ten is a little less than 0.30103. -/
theorem exists_logarithm_bounds :
    ∃ p q : ℕ, p = 30103 ∧ q = 100000 ∧ 2 ^ q ≤ 10 ^ p ∧ 10 ^ p ≤ 2 ^ (q + 1) :=
  ⟨30103, 100000, rfl, rfl, by decide +kernel, by decide +kernel⟩

/-- The power of the leading digit is not too large. -/
theorem ten_zpow_leadingPower_le {numerator denominator : ℕ} (numeratorPositive : 0 < numerator)
    (denominatorPositive : 0 < denominator) (bounded : numerator.log2 ≤ 100000) :
    (10 : ℚ) ^ leadingPower numerator denominator ≤ numerator / denominator := by
  have compares := mul_le_overTen_iff numerator denominatorPositive
  simp only [leadingPower]
  generalize isGuess : (((numerator.log2 : ℤ) - denominator.log2) * 30103).fdiv 100000 = guess
  have step : (10 : ℚ) ^ (guess + 1) = 10 * 10 ^ guess := by
    rw [zpow_add₀ (by norm_num), zpow_one, mul_comm]
  split
  · rcases exists_logarithm_bounds with ⟨p, q, isP, isQ, above, below⟩
    have aboveCast : (2 : ℚ) ^ q ≤ 10 ^ p := by exact_mod_cast above
    have belowCast : (10 : ℚ) ^ p ≤ 2 ^ (q + 1) := by exact_mod_cast below
    have atMost : q * guess ≤ p * ((numerator.log2 : ℤ) - denominator.log2) := by
      rw [Int.fdiv_eq_ediv_of_nonneg _ (by decide)] at isGuess
      rw [isP, isQ]
      omega
    have near := ten_zpow_le aboveCast belowCast (by omega) atMost (by omega)
    have half : (2 : ℚ) ^ ((numerator.log2 : ℤ) - denominator.log2) =
        2 * 2 ^ ((numerator.log2 : ℤ) - denominator.log2 - 1) := by
      rw [← zpow_one_add₀ two_ne_zero]
      congr 1
      ring
    have tenth : (10 : ℚ) ^ guess = 10 * 10 ^ (guess - 1) := by
      rw [← zpow_one_add₀ (by norm_num)]
      congr 1
      ring
    have low := two_zpow_le_quotient numeratorPositive denominatorPositive
    rw [half, tenth] at near
    have positive : (0 : ℚ) < 2 ^ ((numerator.log2 : ℤ) - denominator.log2 - 1) := by positivity
    linarith
  · next noLess =>
    split
    · next tenfold =>
      rw [step]
      exact (compares 10 guess).mp tenfold
    · have exactly := (compares 1 guess).mp (by omega)
      simpa using exactly

/-! ## Neighbours on a grid -/

theorem lowEnd_lt_magnitude {number : Binary64} (nonzero : number.significand ≠ 0) :
    number.lowEnd < number.magnitude ∧ number.magnitude < number.highEnd := by
  have unit : (0 : ℚ) < 2 ^ (number.exponent - 2) := by positivity
  have low : (number.interval.1 : ℚ) < 4 * number.significand := by
    have bound : number.interval.1 < 4 * number.significand := by
      rw [interval_fst]
      split <;> omega
    exact_mod_cast bound
  rw [magnitude_eq, highEnd_eq, lowEnd]
  constructor
  · exact mul_lt_mul_of_pos_right low unit
  · apply mul_lt_mul_of_pos_right _ unit
    linarith

theorem roundsTo_of_between {number : Binary64} {value : ℚ} (low : number.lowEnd < value)
    (high : value < number.highEnd) : RoundsTo value number := by
  unfold RoundsTo
  split
  · exact ⟨low.le, high.le⟩
  · exact ⟨low, high⟩

/-- What is taken from a grid reads back as the number. -/
theorem roundsTo_of_onGrid? {number : Binary64} {count : ℕ} {decimal : DecimalDigits}
    (isTaken : number.onGrid? count = some decimal) : RoundsTo decimal.value number := by
  apply (owns_iff number decimal.digits decimal.exponent).mp
  simp only [onGrid?] at isTaken
  split at isTaken
  · next owned _ =>
    cases isTaken
    exact owned
  · next _ owned =>
    cases isTaken
    exact owned
  · contradiction
  · next owned otherOwned =>
    split at isTaken
    · cases isTaken
      exact owned
    · cases isTaken
      exact otherOwned

/-- If neither neighbour of a number on a grid lies in its interval, the steps of the grid are as
wide as the interval. -/
theorem width_le_of_neighbours {number : Binary64} (nonzero : number.significand ≠ 0) {lower : ℕ}
    {step : ℚ} (below : lower * step ≤ number.magnitude)
    (above : number.magnitude < (lower + 1 : ℕ) * step)
    (lowerOutside : ¬RoundsTo (lower * step) number)
    (upperOutside : ¬RoundsTo ((lower + 1 : ℕ) * step) number) :
    number.highEnd - number.lowEnd ≤ step := by
  rcases lowEnd_lt_magnitude nonzero with ⟨low, high⟩
  have belowLow : lower * step ≤ number.lowEnd := by
    by_contra inside
    exact lowerOutside (roundsTo_of_between (not_le.mp inside) (below.trans_lt high))
  have aboveHigh : number.highEnd ≤ (lower + 1 : ℕ) * step := by
    by_contra inside
    exact upperOutside (roundsTo_of_between (low.trans above) (not_le.mp inside))
  push_cast at aboveHigh
  linarith

/-- Nothing is taken from a grid only if its steps are as wide as the interval of the number. -/
theorem width_le_of_onGrid?_eq_none {number : Binary64} {count : ℕ}
    (nonzero : number.significand ≠ 0) (isNone : number.onGrid? count = none) :
    number.highEnd - number.lowEnd ≤
      10 ^ (leadingPower number.quotient.1 number.quotient.2 + 1 - count) := by
  simp only [onGrid?] at isNone
  generalize leadingPower number.quotient.1 number.quotient.2 + 1 - count = power at isNone ⊢
  have compares := mul_le_overTen_iff number.quotient.1 (quotient_snd_pos number)
  have positive := overTen_snd_pos number.quotient.1 (quotient_snd_pos number) power
  rw [quotient_value] at compares
  split at isNone
  · contradiction
  · contradiction
  · next lowerOutside upperOutside =>
    rw [← Bool.not_eq_true, owns_iff] at lowerOutside upperOutside
    apply width_le_of_neighbours nonzero _ _ lowerOutside upperOutside
    · exact (compares _ _).mp (Nat.div_mul_le_self _ _)
    · rw [← not_le, ← compares, not_le]
      exact (Nat.div_lt_iff_lt_mul positive).mp (Nat.lt_succ_self _)
  · split at isNone <;> contradiction

/-! ## Seventeen digits -/

section

variable {number : Binary64} (canonical : number.IsCanonical) (nonzero : number.significand ≠ 0)

include canonical nonzero

theorem log2_quotient_fst_le : number.quotient.1.log2 ≤ 100000 := by
  have positive := quotient_fst_pos nonzero
  have bounded : number.quotient.1 < 2 ^ (53 + number.exponent.toNat) := by
    rw [Nat.pow_add]
    exact Nat.mul_lt_mul_of_pos_right canonical.significand_lt (Nat.two_pow_pos _)
  have bits := (Nat.log2_lt (by omega)).mpr bounded
  have exponent := canonical.exponent_le
  omega

/-- The interval of a number is wider than the steps of the grid of seventeen digits. -/
theorem ten_zpow_lt_width :
    (10 : ℚ) ^ (leadingPower number.quotient.1 number.quotient.2 + 1 - (17 : ℕ)) <
      number.highEnd - number.lowEnd := by
  have leading := ten_zpow_leadingPower_le (quotient_fst_pos nonzero) (quotient_snd_pos number)
    (log2_quotient_fst_le canonical nonzero)
  have unit : (0 : ℚ) < 2 ^ (number.exponent - 2) := by positivity
  have isStep : (10 : ℚ) ^ leadingPower number.quotient.1 number.quotient.2 =
      10 ^ 16 * 10 ^ (leadingPower number.quotient.1 number.quotient.2 + 1 - (17 : ℕ)) := by
    rw [← zpow_natCast, ← zpow_add₀ (by norm_num)]
    congr 1
    push_cast
    ring
  have wide : (4 * number.significand : ℚ) + 10 ^ 16 * number.interval.1 <
      10 ^ 16 * (4 * number.significand + 2) := by
    have bound := canonical.significand_lt
    have count : 4 * number.significand + 10 ^ 16 * number.interval.1 <
        10 ^ 16 * (4 * number.significand + 2) := by
      rw [interval_fst]
      split <;> omega
    exact_mod_cast count
  rw [quotient_value, magnitude_eq, isStep] at leading
  rw [highEnd_eq, lowEnd]
  have scaled := mul_lt_mul_of_pos_right wide unit
  linarith

/-- One of the neighbours of a number on the grid of seventeen digits rounds to it. -/
theorem exists_onGrid? : ∃ decimal, number.onGrid? 17 = some decimal := by
  apply Option.ne_none_iff_exists'.mp
  intro isNone
  have wide := width_le_of_onGrid?_eq_none nonzero isNone
  exact absurd wide (not_le.mpr (ten_zpow_lt_width canonical nonzero))

end

/-! ## Shortest digits -/

theorem dropZeros_value (fuel : ℕ) (decimal : DecimalDigits) :
    (dropZeros fuel decimal).value = decimal.value := by
  induction fuel generalizing decimal with
  | zero => rfl
  | succ fuel hypothesis =>
      rw [dropZeros]
      split
      · next droppable =>
        simp only [Bool.and_eq_true, beq_iff_eq] at droppable
        have tenfold : (decimal.digits : ℚ) = (decimal.digits / 10 : ℕ) * 10 := by
          have whole : decimal.digits = decimal.digits / 10 * 10 := by omega
          exact_mod_cast whole
        rw [hypothesis, DecimalDigits.value, DecimalDigits.value, tenfold,
          zpow_add₀ (by norm_num)]
        ring
      · rfl

/-- The shortest digits of a number read back as it. -/
theorem shortest_roundsTo {number : Binary64} (canonical : number.IsCanonical)
    (nonzero : number.significand ≠ 0) : RoundsTo number.shortest.value number := by
  rcases exists_onGrid? canonical nonzero with ⟨decimal, isTaken⟩
  have isSome : ((List.range 17).findSome? fun index => number.onGrid? (index + 1)).isSome := by
    apply List.findSome?_isSome_iff.mpr
    exact ⟨16, by decide, by simp [isTaken]⟩
  rcases Option.isSome_iff_exists.mp isSome with ⟨shortest, isShortest⟩
  rcases List.exists_of_findSome?_eq_some isShortest with ⟨index, _, isTaken⟩
  rw [Binary64.shortest, if_neg nonzero, isShortest]
  simp only [dropZeros_value]
  exact roundsTo_of_onGrid? isTaken

end Binary64

end PageContext
