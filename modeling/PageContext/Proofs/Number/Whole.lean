import Mathlib.Algebra.GroupWithZero.Nat
import Mathlib.Algebra.Order.Group.Unbundled.Int
import PageContext.Json.Basic

/-!
# Whole numbers in floating point

A whole number of at most 53 bits is a floating-point number, so nothing is rounded when it becomes
one.  The number without its fraction never decreases as the number increases.
-/

namespace PageContext

namespace Binary64

/-- The bound below which whole numbers are not rounded. -/
def exactBound : Nat := Nat.pow 2 significandBits

theorem exactBound_eq : exactBound = 9007199254740992 := rfl

theorem roundQuotient_one (numerator : Nat) : roundQuotient numerator 1 = numerator := by
  simp [roundQuotient, Nat.mod_one]

theorem log2_one : Nat.log2 1 = 0 := by decide

/-- The significand of a whole number begins with its leading bit. -/
theorem normalExponent_one {numerator : Nat} (positive : 0 < numerator) :
    normalExponent numerator 1 = numerator.log2 - 52 := by
  have leading : 2 ^ numerator.log2 ≤ numerator := Nat.log2_self_le (by omega)
  have noLess : ¬numerator < 2 ^ numerator.log2 := by omega
  simp [normalExponent, overPower, significandBits, log2_one, noLess]

/-- A positive whole number below the bound is shifted until its significand is full. -/
theorem ofQuotient_one {numerator : Nat} (negative : Bool) (positive : 0 < numerator)
    (small : numerator < exactBound) :
    ofQuotient negative numerator 1 =
      some ⟨negative, numerator * 2 ^ (52 - numerator.log2), numerator.log2 - 52⟩ := by
  have bits : numerator.log2 < 53 := (Nat.log2_lt (by omega)).mpr small
  have notFull : numerator * 2 ^ (52 - numerator.log2) < 2 ^ 53 := by
    have below : numerator < 2 ^ (numerator.log2 + 1) := Nat.lt_log2_self
    calc numerator * 2 ^ (52 - numerator.log2)
        < 2 ^ (numerator.log2 + 1) * 2 ^ (52 - numerator.log2) :=
          Nat.mul_lt_mul_of_pos_right below (Nat.two_pow_pos _)
      _ = 2 ^ 53 := by rw [← Nat.pow_add]; congr 1; omega
  have isExponent : max leastExponent (normalExponent numerator 1) = numerator.log2 - 52 := by
    rw [normalExponent_one positive, leastExponent]
    omega
  have isShifted : overPower numerator 1 (numerator.log2 - 52) =
      (numerator * 2 ^ (52 - numerator.log2), 1) := by
    have down : ((numerator.log2 : Int) - 52).toNat = 0 := by omega
    simp [overPower, down]
  have notRounded : ¬numerator * 2 ^ (52 - numerator.log2) = Nat.pow 2 significandBits :=
    Nat.ne_of_lt notFull
  have inRange : ¬(numerator.log2 : Int) - 52 > greatestExponent := by
    rw [greatestExponent]
    omega
  have nonzero : ¬numerator = 0 := by omega
  simp only [ofQuotient, nonzero, if_false, isExponent, isShifted, roundQuotient_one, notRounded,
    inRange]

theorem mul_pow_mul_pow (numerator : Nat) {first second total : Nat}
    (isTotal : first + second = total) :
    numerator * 2 ^ first * Nat.pow 2 second = numerator * Nat.pow 2 total := by
  rw [Nat.mul_assoc, ← isTotal]
  exact congrArg (numerator * ·) (Nat.pow_add 2 first second).symm

-- The exponent is kept as a variable, so that no step of a proof computes a number of this size.
theorem exists_unit_eq : ∃ exponent, exponent = 1074 ∧ unit = (Nat.pow 2 exponent : Nat) := by
  refine ⟨1074, Eq.refl 1074, ?_⟩
  delta unit
  exact Eq.refl _

theorem unit_pos : 0 < unit := by
  rcases exists_unit_eq with ⟨exponent, _, isUnit⟩
  rw [isUnit]
  exact Int.natCast_pos.mpr (Nat.two_pow_pos exponent)

/-- Below the bound a whole number becomes the floating-point number of the same value. -/
theorem scaled_ofInt {value : Int} (small : value.natAbs < exactBound) :
    (ofInt value).scaled = value * unit := by
  by_cases isZero : value = 0
  · subst isZero
    simp [ofInt, ofQuotient, zero, scaled]
  have positive : 0 < value.natAbs := by omega
  have bits : value.natAbs.log2 < 53 := (Nat.log2_lt (by omega)).mpr small
  have shift : ((value.natAbs.log2 : Int) - 52 - leastExponent).toNat =
      value.natAbs.log2 + 1022 := by
    rw [leastExponent]
    omega
  rcases exists_unit_eq with ⟨total, isTotal, isUnit⟩
  have magnitude := mul_pow_mul_pow value.natAbs
    (show 52 - value.natAbs.log2 + (value.natAbs.log2 + 1022) = total by omega)
  rw [ofInt, ofQuotient_one _ positive small, Option.getD_some, scaled, shift, ← Int.natCast_mul,
    magnitude, Int.natCast_mul, isUnit]
  by_cases negative : value < 0
  · have opposite : (value.natAbs : Int) = -value := by omega
    rw [if_pos (by simpa using negative), opposite, Int.neg_mul, Int.neg_neg]
  · have same : (value.natAbs : Int) = value := by omega
    rw [if_neg (by simpa using negative), same]

/-- A smaller number does not have a larger whole part. -/
theorem truncate_mono {left right : Binary64} (bits : Nat) (order : left.scaled ≤ right.scaled) :
    left.truncate bits ≤ right.truncate bits := by
  have wholes : left.scaled.tdiv unit ≤ right.scaled.tdiv unit :=
    Int.tdiv_le_tdiv unit_pos order
  simp only [truncate]
  omega

end Binary64

end PageContext
