import PageContext.Proofs.Number.Whole

/-!
# Rounding of whole numbers

A whole number that becomes a floating-point number is rounded to its 53 leading bits.  Rounding
never changes the order of two numbers, though it can make them equal; this happens only from the
bound on where whole numbers are not exact, and only to numbers that are close to each other.
-/

namespace PageContext

namespace Binary64

/-! ## Rounding of quotients -/

theorem roundQuotient_eq (numerator denominator : Nat) :
    roundQuotient numerator denominator = numerator / denominator ∨
      roundQuotient numerator denominator = numerator / denominator + 1 := by
  rw [roundQuotient]
  split <;> simp

theorem roundQuotient_mono {smaller larger : Nat} (denominator : Nat) (order : smaller ≤ larger) :
    roundQuotient smaller denominator ≤ roundQuotient larger denominator := by
  have quotients := Nat.div_le_div_right (c := denominator) order
  rcases Nat.lt_or_eq_of_le quotients with less | same
  · have first := roundQuotient_eq smaller denominator
    have second := roundQuotient_eq larger denominator
    omega
  · have remainders : smaller % denominator ≤ larger % denominator := by
      have whole := Nat.div_add_mod smaller denominator
      have otherWhole := Nat.div_add_mod larger denominator
      rw [same] at whole
      omega
    simp only [roundQuotient, same, Bool.or_eq_true, Bool.and_eq_true, decide_eq_true_eq,
      beq_iff_eq]
    split <;> split <;> omega

theorem roundQuotient_mul (quotient : Nat) {denominator : Nat} (positive : 0 < denominator) :
    roundQuotient (quotient * denominator) denominator = quotient := by
  have notHalf : ¬(0 > denominator) ∧ 0 ≠ denominator := by omega
  simp [roundQuotient, Nat.mul_div_cancel _ positive, notHalf]

/-- A rounded quotient lies at most one half away. -/
theorem roundQuotient_near (numerator : Nat) {denominator : Nat} (positive : 0 < denominator) :
    2 * (roundQuotient numerator denominator * denominator) ≤ 2 * numerator + denominator ∧
      2 * numerator ≤ 2 * (roundQuotient numerator denominator * denominator) + denominator := by
  have whole := Nat.div_add_mod numerator denominator
  have remainder := Nat.mod_lt numerator positive
  rw [Nat.mul_comm] at whole
  simp only [roundQuotient, Bool.or_eq_true, Bool.and_eq_true, decide_eq_true_eq, beq_iff_eq]
  split
  · rw [Nat.add_mul]
    omega
  · omega

/-! ## Rounding of magnitudes -/

/-- The value of the last of the 53 bits that are kept of a whole number. -/
def lastPlace (magnitude : Nat) : Nat :=
  2 ^ (magnitude.log2 - 52)

/-- A whole number rounded to its 53 leading bits. -/
def roundMagnitude (magnitude : Nat) : Nat :=
  roundQuotient magnitude (lastPlace magnitude) * lastPlace magnitude

theorem lastPlace_pos (magnitude : Nat) : 0 < lastPlace magnitude :=
  Nat.two_pow_pos _

theorem roundMagnitude_of_lt {magnitude : Nat} (small : magnitude < exactBound) :
    roundMagnitude magnitude = magnitude := by
  have one : lastPlace magnitude = 1 := by
    by_cases isZero : magnitude = 0
    · subst isZero
      rfl
    · have bits : magnitude.log2 < 53 := (Nat.log2_lt isZero).mpr small
      rw [lastPlace, show magnitude.log2 - 52 = 0 by omega, Nat.pow_zero]
  rw [roundMagnitude, one, roundQuotient_one, Nat.mul_one]

/-- Powers of two from the last place on are kept. -/
theorem roundQuotient_two_pow {place exponent : Nat} (order : place ≤ exponent) :
    roundQuotient (2 ^ exponent) (2 ^ place) * 2 ^ place = 2 ^ exponent := by
  have split : 2 ^ exponent = 2 ^ (exponent - place) * 2 ^ place := by
    rw [← Nat.pow_add, Nat.sub_add_cancel order]
  rw [split, roundQuotient_mul _ (Nat.two_pow_pos place)]

theorem roundMagnitude_le (magnitude : Nat) :
    roundMagnitude magnitude ≤ 2 ^ (magnitude.log2 + 1) := by
  have below : magnitude ≤ 2 ^ (magnitude.log2 + 1) := Nat.le_of_lt Nat.lt_log2_self
  have kept := roundQuotient_two_pow (show magnitude.log2 - 52 ≤ magnitude.log2 + 1 by omega)
  rw [roundMagnitude, ← kept]
  exact Nat.mul_le_mul_right _ (roundQuotient_mono _ below)

theorem le_roundMagnitude {magnitude : Nat} (positive : 0 < magnitude) :
    2 ^ magnitude.log2 ≤ roundMagnitude magnitude := by
  have above : 2 ^ magnitude.log2 ≤ magnitude := Nat.log2_self_le (by omega)
  have kept := roundQuotient_two_pow (show magnitude.log2 - 52 ≤ magnitude.log2 by omega)
  rw [roundMagnitude, ← kept]
  exact Nat.mul_le_mul_right _ (roundQuotient_mono _ above)

theorem roundMagnitude_mono {smaller larger : Nat} (order : smaller ≤ larger) :
    roundMagnitude smaller ≤ roundMagnitude larger := by
  -- Numbers with one leading bit are rounded at one place; otherwise a power of two lies between.
  by_cases sameBits : smaller.log2 = larger.log2
  · rw [roundMagnitude, roundMagnitude, lastPlace, lastPlace, sameBits]
    exact Nat.mul_le_mul_right _ (roundQuotient_mono _ order)
  · have positive : 0 < larger := by
      by_contra isZero
      have bothZero : larger = 0 ∧ smaller = 0 := by omega
      exact sameBits (by rw [bothZero.1, bothZero.2])
    have fewerBits : smaller.log2 + 1 ≤ larger.log2 := by
      have below : smaller < 2 ^ (larger.log2 + 1) := Nat.lt_of_le_of_lt order Nat.lt_log2_self
      by_cases isZero : smaller = 0
      · have noBits : smaller.log2 = 0 := by rw [isZero]; rfl
        omega
      · have bits := (Nat.log2_lt isZero).mpr below
        omega
    calc roundMagnitude smaller
        ≤ 2 ^ (smaller.log2 + 1) := roundMagnitude_le smaller
      _ ≤ 2 ^ larger.log2 := Nat.pow_le_pow_right (by decide) fewerBits
      _ ≤ roundMagnitude larger := le_roundMagnitude positive

theorem log2_of_large {magnitude : Nat} (large : exactBound ≤ magnitude) :
    0 < magnitude ∧ 53 ≤ magnitude.log2 := by
  have positive : 0 < magnitude := by
    rw [exactBound_eq] at large
    omega
  exact ⟨positive, (Nat.le_log2 (by omega)).mpr large⟩

theorem exactBound_le_roundMagnitude {magnitude : Nat} (large : exactBound ≤ magnitude) :
    exactBound ≤ roundMagnitude magnitude := by
  rcases log2_of_large large with ⟨positive, bits⟩
  calc exactBound
      = 2 ^ 53 := rfl
    _ ≤ 2 ^ magnitude.log2 := Nat.pow_le_pow_right (by decide) bits
    _ ≤ roundMagnitude magnitude := le_roundMagnitude positive

/-- A whole number of 64 bits is moved by at most half of two to the eleventh. -/
theorem roundMagnitude_near {magnitude : Nat} (bounded : magnitude < 2 ^ 64) :
    roundMagnitude magnitude ≤ magnitude + 1024 ∧ magnitude ≤ roundMagnitude magnitude + 1024 := by
  have near := roundQuotient_near magnitude (lastPlace_pos magnitude)
  have place : lastPlace magnitude ≤ 2048 := by
    by_cases isZero : magnitude = 0
    · subst isZero
      decide
    · have bits := (Nat.log2_lt isZero).mpr bounded
      exact Nat.pow_le_pow_right (by decide) (show magnitude.log2 - 52 ≤ 11 by omega)
  rw [roundMagnitude]
  omega

/-! ## Rounding of whole numbers -/

/-- A whole number of either sign rounded to its 53 leading bits. -/
def roundWhole (value : Int) : Int :=
  if value < 0 then -(roundMagnitude value.natAbs : Int) else roundMagnitude value.natAbs

theorem roundWhole_mono {smaller larger : Int} (order : smaller ≤ larger) :
    roundWhole smaller ≤ roundWhole larger := by
  simp only [roundWhole]
  split <;> split
  · have reversed := roundMagnitude_mono (show larger.natAbs ≤ smaller.natAbs by omega)
    omega
  · omega
  · omega
  · have kept := roundMagnitude_mono (show smaller.natAbs ≤ larger.natAbs by omega)
    omega

theorem roundWhole_of_lt {value : Int} (small : value.natAbs < exactBound) :
    roundWhole value = value := by
  rw [roundWhole, roundMagnitude_of_lt small]
  split <;> omega

/-- Two numbers that become equal are beyond the bound, and close to each other. -/
theorem eq_or_near_of_roundWhole_eq {first second : Int} (firstBounded : first.natAbs < 2 ^ 64)
    (secondBounded : second.natAbs < 2 ^ 64) (same : roundWhole first = roundWhole second) :
    first = second ∨ (exactBound ≤ first.natAbs ∧ exactBound ≤ second.natAbs ∧
      (first - second).natAbs ≤ 2048) := by
  have firstNear := roundMagnitude_near firstBounded
  have secondNear := roundMagnitude_near secondBounded
  have firstKept := @roundMagnitude_of_lt first.natAbs
  have secondKept := @roundMagnitude_of_lt second.natAbs
  have firstLarge := @exactBound_le_roundMagnitude first.natAbs
  have secondLarge := @exactBound_le_roundMagnitude second.natAbs
  simp only [roundWhole, exactBound_eq] at *
  split at same <;> split at same <;> omega

/-! ## Floating-point numbers -/

/-- A whole number beyond the bound loses the bits behind its 53 leading ones. -/
theorem ofQuotient_one_of_large (negative : Bool) {magnitude : Nat}
    (large : exactBound ≤ magnitude) (bounded : magnitude < 2 ^ 64) :
    ∃ significand exponent : Nat,
      ofQuotient negative magnitude 1 = some ⟨negative, significand, exponent⟩ ∧
        significand * 2 ^ exponent = roundMagnitude magnitude := by
  rcases log2_of_large large with ⟨positive, bits⟩
  have nonzero : magnitude ≠ 0 := by omega
  have fewBits : magnitude.log2 < 64 := (Nat.log2_lt nonzero).mpr bounded
  have isExponent : max leastExponent (normalExponent magnitude 1) =
      (magnitude.log2 - 52 : Nat) := by
    rw [normalExponent_one (by omega), leastExponent]
    omega
  have isCut : overPower magnitude 1 (magnitude.log2 - 52 : Nat) =
      (magnitude, lastPlace magnitude) := by
    simp [overPower, lastPlace]
  have inRange : ¬((magnitude.log2 - 52 : Nat) : Int) + 1 > greatestExponent ∧
      ¬((magnitude.log2 - 52 : Nat) : Int) > greatestExponent := by
    rw [greatestExponent]
    omega
  by_cases carries : roundQuotient magnitude (lastPlace magnitude) = Nat.pow 2 significandBits
  · refine ⟨2 ^ 52, magnitude.log2 - 52 + 1, ?_, ?_⟩
    · simp only [ofQuotient, nonzero, if_false, isExponent, isCut, carries, if_true, inRange.1]
      rfl
    · have full : Nat.pow 2 significandBits = 2 ^ 52 * 2 := rfl
      rw [roundMagnitude, carries, lastPlace, Nat.pow_succ, full]
      omega
  · refine ⟨_, magnitude.log2 - 52, ?_, rfl⟩
    simp only [ofQuotient, nonzero, if_false, isExponent, isCut, carries, inRange.2]

/-- A whole number of 64 bits becomes the floating-point number of its 53 leading bits. -/
theorem scaled_ofInt_eq_roundWhole {value : Int} (bounded : value.natAbs < 2 ^ 64) :
    (ofInt value).scaled = roundWhole value * unit := by
  by_cases small : value.natAbs < exactBound
  · rw [scaled_ofInt small, roundWhole_of_lt small]
  · rcases ofQuotient_one_of_large (value < 0) (Nat.le_of_not_lt small) bounded with
      ⟨significand, exponent, isNumber, isMagnitude⟩
    rcases exists_unit_eq with ⟨total, isTotal, isUnit⟩
    have shift : ((exponent : Int) - leastExponent).toNat = exponent + total := by
      rw [leastExponent]
      omega
    have magnitude : significand * Nat.pow 2 (exponent + total) =
        roundMagnitude value.natAbs * Nat.pow 2 total := by
      rw [← isMagnitude, Nat.mul_assoc]
      exact congrArg (significand * ·) (Nat.pow_add 2 exponent total)
    rw [ofInt, isNumber, Option.getD_some, scaled, shift, ← Int.natCast_mul, magnitude,
      Int.natCast_mul, isUnit, roundWhole]
    by_cases negative : value < 0
    · rw [if_pos (by simpa using negative), if_pos negative, Int.neg_mul]
    · rw [if_neg (by simpa using negative), if_neg negative]

end Binary64

end PageContext
