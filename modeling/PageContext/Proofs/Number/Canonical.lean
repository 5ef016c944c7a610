import PageContext.Number.Decimal
import PageContext.Proofs.Number.Intervals
import PageContext.Proofs.Number.Rounding

/-!
# Canonical numbers

Every number that comes out of rounding is in its canonical form, so every number that is read is.
Of canonical numbers only the two zeros are the same without being equal.
-/

namespace PageContext.Binary64

/-! ## Numbers that are the same -/

theorem natAbs_scaled (number : Binary64) : number.scaled.natAbs =
    number.significand * 2 ^ (number.exponent - leastExponent).toNat := by
  unfold scaled
  split <;> simp [Nat.pow_eq, Int.natAbs_mul, Int.natAbs_pow]

theorem scaled_neg_iff {number : Binary64} (nonzero : number.significand ≠ 0) :
    number.scaled < 0 ↔ number.negative = true := by
  have power := Nat.two_pow_pos (number.exponent - leastExponent).toNat
  have positive :
      (0 : ℤ) < number.significand * Nat.pow 2 (number.exponent - leastExponent).toNat := by
    exact_mod_cast Nat.mul_pos (Nat.pos_of_ne_zero nonzero) power
  unfold scaled
  cases number.negative with
  | false => simp
  | true => simpa using positive

theorem IsCanonical.exponent_le_of_natAbs {left right : Binary64} (leftCanonical : left.IsCanonical)
    (rightCanonical : right.IsCanonical) (same : left.scaled.natAbs = right.scaled.natAbs) :
    right.exponent ≤ left.exponent := by
  by_contra less
  have atLeast := leftCanonical.leastExponent_le
  obtain ⟨further, isFurther⟩ : ∃ further, (right.exponent - leastExponent).toNat =
      (left.exponent - leastExponent).toNat + (further + 1) := by
    refine ⟨(right.exponent - left.exponent).toNat - 1, ?_⟩
    simp only [leastExponent]
    omega
  have quotient : left.significand = right.significand * 2 ^ (further + 1) := by
    rw [natAbs_scaled, natAbs_scaled, isFurther, Nat.pow_add, Nat.mul_left_comm,
      Nat.mul_comm left.significand] at same
    exact Nat.eq_of_mul_eq_mul_left (Nat.two_pow_pos _) same
  have isFull : 2 ^ 52 ≤ right.significand := rightCanonical.full.resolve_left (by omega)
  have bounded := leftCanonical.significand_lt
  have double : right.significand * 2 ≤ left.significand := by
    rw [quotient, Nat.pow_succ, ← Nat.mul_assoc]
    exact Nat.mul_le_mul_right 2 (Nat.le_mul_of_pos_right _ (Nat.two_pow_pos further))
  omega

/-- Only the two zeros are the same number in different forms. -/
theorem IsCanonical.eq_of_same {left right : Binary64} (leftCanonical : left.IsCanonical)
    (rightCanonical : right.IsCanonical) (nonzero : left.significand ≠ 0)
    (isSame : left.same right = true) : left = right := by
  rw [same, beq_iff_eq] at isSame
  have sameMagnitude := congrArg Int.natAbs isSame
  have sameExponent : left.exponent = right.exponent :=
    le_antisymm (rightCanonical.exponent_le_of_natAbs leftCanonical sameMagnitude.symm)
      (leftCanonical.exponent_le_of_natAbs rightCanonical sameMagnitude)
  have power := Nat.two_pow_pos (right.exponent - leastExponent).toNat
  have sameSignificand : left.significand = right.significand := by
    rw [natAbs_scaled, natAbs_scaled, sameExponent] at sameMagnitude
    exact Nat.eq_of_mul_eq_mul_right power sameMagnitude
  have sameSign : left.negative = right.negative := by
    rw [Bool.eq_iff_iff, ← scaled_neg_iff nonzero, isSame,
      scaled_neg_iff (by rwa [← sameSignificand])]
  cases left
  cases right
  simp_all only

/-! ## Rounded quotients -/

theorem overPower_snd_pos (numerator : ℕ) {denominator : ℕ} (positive : 0 < denominator)
    (exponent : ℤ) : 0 < (overPower numerator denominator exponent).2 :=
  Nat.mul_pos positive (Nat.two_pow_pos _)

theorem mul_le_overPower_iff (numerator : ℕ) {denominator : ℕ} (positive : 0 < denominator)
    (factor : ℕ) (exponent : ℤ) :
    factor * (overPower numerator denominator exponent).2 ≤
        (overPower numerator denominator exponent).1 ↔
      (factor : ℚ) * 2 ^ exponent ≤ numerator / denominator :=
  mul_pow_le_mul_pow_iff two_pos numerator positive factor exponent

theorem two_zpow_le_quotient {numerator denominator : ℕ} (numeratorPositive : 0 < numerator)
    (denominatorPositive : 0 < denominator) :
    (2 : ℚ) ^ ((numerator.log2 : ℤ) - denominator.log2 - 1) ≤ numerator / denominator := by
  have low : (2 : ℚ) ^ numerator.log2 ≤ numerator := by
    exact_mod_cast Nat.log2_self_le (by omega)
  have high : (denominator : ℚ) ≤ 2 ^ (denominator.log2 + 1) := by
    exact_mod_cast Nat.lt_log2_self.le
  have positive : (0 : ℚ) < denominator := by exact_mod_cast denominatorPositive
  have isQuotient : (2 : ℚ) ^ ((numerator.log2 : ℤ) - denominator.log2 - 1) =
      2 ^ numerator.log2 / 2 ^ (denominator.log2 + 1) := by
    rw [← zpow_natCast_sub_natCast₀ two_ne_zero]
    push_cast
    ring_nf
  rw [isQuotient]
  gcongr

theorem quotient_lt_two_zpow (numerator : ℕ) {denominator : ℕ}
    (denominatorPositive : 0 < denominator) :
    (numerator / denominator : ℚ) < 2 ^ ((numerator.log2 : ℤ) - denominator.log2 + 1) := by
  have high : (numerator : ℚ) < 2 ^ (numerator.log2 + 1) := by exact_mod_cast Nat.lt_log2_self
  have low : (2 : ℚ) ^ denominator.log2 ≤ denominator := by
    exact_mod_cast Nat.log2_self_le (by omega)
  have isQuotient : (2 : ℚ) ^ ((numerator.log2 : ℤ) - denominator.log2 + 1) =
      2 ^ (numerator.log2 + 1) / 2 ^ denominator.log2 := by
    rw [← zpow_natCast_sub_natCast₀ two_ne_zero]
    push_cast
    ring_nf
  rw [isQuotient]
  gcongr

/-- At its normal exponent a quotient has a significand of 53 bits. -/
theorem exists_normalExponent {numerator denominator : ℕ} (numeratorPositive : 0 < numerator)
    (denominatorPositive : 0 < denominator) :
    ∃ leading : ℤ, normalExponent numerator denominator = leading - 52 ∧
      (2 : ℚ) ^ leading ≤ numerator / denominator ∧
      (numerator / denominator : ℚ) < 2 ^ (leading + 1) := by
  have low := two_zpow_le_quotient numeratorPositive denominatorPositive
  have high := quotient_lt_two_zpow numerator denominatorPositive
  have compares := mul_le_overPower_iff numerator denominatorPositive 1
  simp only [normalExponent]
  generalize (numerator.log2 : ℤ) - denominator.log2 = guess at low high
  specialize compares guess
  rw [Nat.one_mul, Nat.cast_one, one_mul] at compares
  split
  · next less =>
    refine ⟨guess - 1, rfl, low, ?_⟩
    rw [sub_add_cancel, ← not_le, ← compares, not_le]
    exact less
  · next noLess => exact ⟨guess, rfl, compares.mp (not_lt.mp noLess), high⟩

theorem two_pow_mul_zpow (bits : ℕ) (exponent : ℤ) :
    ((2 ^ bits : ℕ) : ℚ) * 2 ^ exponent = 2 ^ (bits + exponent) := by
  rw [Nat.cast_pow, Nat.cast_ofNat, ← zpow_natCast, ← zpow_add₀ two_ne_zero]

theorem zero_isCanonical (negative : Bool) : (zero negative).IsCanonical := by
  constructor <;> simp [zero, leastExponent]

/-- A rounded quotient has 53 bits or the least exponent; it is infinite if its exponent is too
large.  Where rounding fills one more bit, the exponent is one above that of the quotient. -/
theorem exists_rounded (negative : Bool) {numerator denominator : ℕ}
    (numeratorPositive : 0 < numerator) (denominatorPositive : 0 < denominator) :
    ∃ (significand : ℕ) (exponent : ℤ),
      significand < 2 ^ 53 ∧ (exponent = leastExponent ∨ 2 ^ 52 ≤ significand) ∧
        max leastExponent (normalExponent numerator denominator) ≤ exponent ∧
        exponent ≤ max leastExponent (normalExponent numerator denominator) + 1 ∧
        ofQuotient negative numerator denominator =
          if exponent > greatestExponent then none else some ⟨negative, significand, exponent⟩ := by
  rcases exists_normalExponent numeratorPositive denominatorPositive with
    ⟨leading, isLeading, low, high⟩
  have compares := mul_le_overPower_iff numerator denominatorPositive
  have belowPositive := overPower_snd_pos numerator denominatorPositive
  rw [ofQuotient, if_neg numeratorPositive.ne', isLeading]
  generalize isExponent : max leastExponent (leading - 52) = exponent
  specialize belowPositive exponent
  have atMost : roundQuotient (overPower numerator denominator exponent).1
      (overPower numerator denominator exponent).2 ≤ 2 ^ 53 := by
    rw [← roundQuotient_mul (2 ^ 53) belowPositive]
    apply roundQuotient_mono
    apply Nat.le_of_not_le
    rw [compares, two_pow_mul_zpow, not_le]
    apply high.trans_le
    exact zpow_le_zpow_right₀ (by norm_num) (by push_cast; omega)
  have atLeast : exponent = leastExponent ∨ 2 ^ 52 ≤ roundQuotient
      (overPower numerator denominator exponent).1
      (overPower numerator denominator exponent).2 := by
    refine or_iff_not_imp_left.mpr fun notLeast => ?_
    rw [← roundQuotient_mul (2 ^ 52) belowPositive]
    apply roundQuotient_mono
    rw [compares, two_pow_mul_zpow]
    apply le_trans _ low
    exact zpow_le_zpow_right₀ (by norm_num) (by push_cast; omega)
  simp only
  generalize roundQuotient (overPower numerator denominator exponent).1
    (overPower numerator denominator exponent).2 = significand at atMost atLeast
  have isFull : Nat.pow 2 significandBits = 2 ^ 53 := rfl
  have isHalf : Nat.pow 2 (significandBits - 1) = 2 ^ 52 := rfl
  by_cases carries : significand = 2 ^ 53
  · refine ⟨2 ^ 52, exponent + 1, by omega, .inr le_rfl, by omega, le_rfl, ?_⟩
    rw [isFull, isHalf, if_pos carries]
  · refine ⟨significand, exponent, by omega, atLeast, le_rfl, by omega, ?_⟩
    rw [isFull, if_neg carries]

/-- What is rounded is canonical. -/
theorem isCanonical_of_ofQuotient {negative : Bool} {numerator denominator : ℕ} {number : Binary64}
    (positive : 0 < denominator)
    (isNumber : ofQuotient negative numerator denominator = some number) :
    number.IsCanonical := by
  by_cases isZero : numerator = 0
  · rw [ofQuotient, if_pos isZero] at isNumber
    rw [← Option.some.inj isNumber]
    exact zero_isCanonical negative
  · rcases exists_rounded negative (Nat.pos_of_ne_zero isZero) positive with
      ⟨significand, exponent, bounded, full, least, _, isRounded⟩
    rw [isRounded] at isNumber
    split at isNumber
    · contradiction
    · next inRange =>
      rw [← Option.some.inj isNumber]
      exact ⟨bounded, (le_max_left _ _).trans least, not_lt.mp inRange, full⟩

theorem isCanonical_getD {number : Option Binary64}
    (canonical : ∀ value, number = some value → value.IsCanonical) (negative : Bool) :
    (number.getD (zero negative)).IsCanonical := by
  cases number with
  | none => exact zero_isCanonical negative
  | some value => exact canonical value rfl

/-! ## Decimal numbers -/

theorem quotient_fst_pos {number : Binary64} (nonzero : number.significand ≠ 0) :
    0 < number.quotient.1 :=
  Nat.mul_pos (Nat.pos_of_ne_zero nonzero) (Nat.two_pow_pos _)

theorem quotient_snd_pos (number : Binary64) : 0 < number.quotient.2 :=
  Nat.two_pow_pos _

theorem isCanonical_of_multiply {left right result : Binary64}
    (isResult : left.multiply right = some result) : result.IsCanonical := by
  rw [multiply] at isResult
  exact isCanonical_of_ofQuotient
    (Nat.mul_pos left.quotient_snd_pos right.quotient_snd_pos) isResult

theorem isCanonical_of_divide {left right result : Binary64} (nonzero : right.significand ≠ 0)
    (isResult : left.divide right = some result) : result.IsCanonical := by
  rw [divide] at isResult
  exact isCanonical_of_ofQuotient
    (Nat.mul_pos left.quotient_snd_pos (quotient_fst_pos nonzero)) isResult

/-- A positive whole number of at most 1023 bits is rounded to no zero, and not to infinity. -/
theorem exists_ofQuotient_one {magnitude : ℕ} (positive : 0 < magnitude)
    (bounded : magnitude.log2 < 1023) :
    ∃ number, ofQuotient false magnitude 1 = some number ∧ number.significand ≠ 0 := by
  rcases exists_rounded false positive Nat.one_pos with
    ⟨significand, exponent, _, full, least, greatest, isRounded⟩
  rw [normalExponent_one positive, leastExponent] at least greatest
  rw [leastExponent] at full
  have inRange : ¬exponent > greatestExponent := by
    rw [greatestExponent]
    omega
  rw [if_neg inRange] at isRounded
  exact ⟨_, isRounded, by simp only; omega⟩

theorem ofPowerOfTen_ne_zero {power : ℕ} (bounded : power ≤ 308) :
    (ofPowerOfTen power).significand ≠ 0 := by
  rcases Nat.lt_or_eq_of_le bounded with below | rfl
  · have positive : 0 < Nat.pow 10 power := Nat.pow_pos (by decide)
    obtain ⟨digits, bits, isDigits, isBits, bound⟩ :
        ∃ digits bits, digits = 307 ∧ bits = 1023 ∧ 10 ^ digits < 2 ^ bits :=
      ⟨307, 1023, rfl, rfl, by decide +kernel⟩
    have power_lt : Nat.pow 10 power < 2 ^ bits :=
      (Nat.pow_le_pow_right (by decide) (by omega)).trans_lt bound
    have fewBits := (Nat.log2_lt positive.ne').mpr power_lt
    rcases exists_ofQuotient_one positive (isBits ▸ fewBits) with ⟨number, isNumber, nonzero⟩
    rwa [ofPowerOfTen, isNumber]
  · decide +kernel

theorem isCanonical_ofInt (value : ℤ) : (ofInt value).IsCanonical :=
  isCanonical_getD (fun _ isNumber => isCanonical_of_ofQuotient Nat.one_pos isNumber) false

/-- What is read stepwise is canonical, for its last step rounds. -/
theorem isCanonical_of_ofDecimalStepwise {negative : Bool} {significand : ℕ} {exponent : ℤ}
    {number : Binary64} (isNumber : ofDecimalStepwise negative significand exponent = some number) :
    number.IsCanonical := by
  have rounded := isCanonical_ofInt significand
  simp only [ofDecimalStepwise] at isNumber
  split at isNumber
  · split at isNumber
    · rw [← Option.some.inj isNumber]
      exact ⟨rounded.significand_lt, rounded.leastExponent_le, rounded.exponent_le, rounded.full⟩
    · contradiction
  split at isNumber
  · exact isCanonical_of_multiply isNumber
  split at isNumber
  · exact isCanonical_of_divide (ofPowerOfTen_ne_zero (by omega)) isNumber
  split at isNumber
  · rcases Option.bind_eq_some_iff.mp isNumber with ⟨reduced, _, isResult⟩
    exact isCanonical_of_divide (ofPowerOfTen_ne_zero (by omega)) isResult
  · rw [← Option.some.inj isNumber]
    exact zero_isCanonical negative

end PageContext.Binary64
