/-!
# Finite binary floating-point numbers of 64 bits

A finite number of the format binary64 is a sign, a significand of at most 53 bits and an exponent
of two between -1074 and 971.  Every such number is a whole multiple of `2 ^ -1074`, and `scaled`
is that multiple: two numbers compare as their multiples do, and the two zeros compare equal.

All arithmetic here is exact arithmetic on whole numbers followed by one rounding to the nearest
number of the format, a tie going to the even significand.
-/

namespace PageContext

/-- A finite number `± significand * 2 ^ exponent` of the format binary64. -/
structure Binary64 where
  negative : Bool
  significand : Nat
  exponent : Int
deriving DecidableEq, Repr, Inhabited

namespace Binary64

/-- The exponent of the smallest positive number. -/
def leastExponent : Int := -1074

/-- The exponent of the largest finite number. -/
def greatestExponent : Int := 971

/-- The number of bits in the significand of a normal number. -/
def significandBits : Nat := 53

def zero (negative : Bool) : Binary64 :=
  ⟨negative, 0, leastExponent⟩

/-- The number as a whole multiple of `2 ^ -1074`. -/
def scaled (number : Binary64) : Int :=
  let magnitude : Int := number.significand * Nat.pow 2 (number.exponent - leastExponent).toNat
  if number.negative then -magnitude else magnitude

/-- How many multiples of `2 ^ -1074` make up one. -/
def unit : Int := Nat.pow 2 1074

/-- Rounds a quotient of whole numbers to a whole number, a tie going to the even one. -/
def roundQuotient (numerator denominator : Nat) : Nat :=
  let quotient := numerator / denominator
  let twice := 2 * (numerator % denominator)
  if twice > denominator || (twice == denominator && quotient % 2 == 1) then quotient + 1
  else quotient

/-- The quotient `numerator / (denominator * 2 ^ exponent)` as a pair of whole numbers. -/
def overPower (numerator denominator : Nat) (exponent : Int) : Nat × Nat :=
  (numerator * Nat.pow 2 (-exponent).toNat, denominator * Nat.pow 2 exponent.toNat)

/-- The exponent at which a positive quotient has a significand of 53 bits. -/
def normalExponent (numerator denominator : Nat) : Int :=
  let guess : Int := (numerator.log2 : Int) - denominator.log2
  let (above, below) := overPower numerator denominator guess
  (if above < below then guess - 1 else guess) - (significandBits - 1)

/-- The nearest number of the format to `± numerator / denominator`; none when that would be
infinite. -/
def ofQuotient (negative : Bool) (numerator denominator : Nat) : Option Binary64 :=
  if numerator = 0 then some (zero negative)
  else
    let exponent := max leastExponent (normalExponent numerator denominator)
    let (above, below) := overPower numerator denominator exponent
    let significand := roundQuotient above below
    let (significand, exponent) :=
      if significand = Nat.pow 2 significandBits then
        (Nat.pow 2 (significandBits - 1), exponent + 1)
      else (significand, exponent)
    if exponent > greatestExponent then none
    else some ⟨negative, significand, exponent⟩

/-- The magnitude of a number as a quotient of whole numbers. -/
def quotient (number : Binary64) : Nat × Nat :=
  (number.significand * Nat.pow 2 number.exponent.toNat, Nat.pow 2 (-number.exponent).toNat)

/-- The nearest number of the format to a whole number of at most 64 bits. -/
def ofInt (value : Int) : Binary64 :=
  (ofQuotient (value < 0) value.natAbs 1).getD (zero false)

/-- The rounded product of two numbers; none when it is infinite. -/
def multiply (left right : Binary64) : Option Binary64 :=
  let (leftAbove, leftBelow) := left.quotient
  let (rightAbove, rightBelow) := right.quotient
  ofQuotient (left.negative != right.negative) (leftAbove * rightAbove) (leftBelow * rightBelow)

/-- The rounded quotient of two numbers, the second of which is not zero; none when it is
infinite. -/
def divide (left right : Binary64) : Option Binary64 :=
  let (leftAbove, leftBelow) := left.quotient
  let (rightAbove, rightBelow) := right.quotient
  ofQuotient (left.negative != right.negative) (leftAbove * rightBelow) (leftBelow * rightAbove)

/-- The number without its fraction, limited to the integers of `bits` bits with a sign. -/
def truncate (bits : Nat) (number : Binary64) : Int :=
  let bound : Int := Nat.pow 2 (bits - 1)
  max (-bound) (min (bound - 1) (number.scaled.tdiv unit))

/-- The nearest whole number, a half going away from zero. -/
def roundAwayFromZero (number : Binary64) : Int :=
  let magnitude := (2 * number.scaled.natAbs + unit.toNat) / (2 * unit.toNat)
  if number.negative then -(magnitude : Int) else magnitude

/-- Whether a number is one of the two zeros. -/
def isZero (number : Binary64) : Bool :=
  number.significand == 0

/-- Two numbers are the same when neither is the smaller: the two zeros are the same. -/
def same (left right : Binary64) : Bool :=
  left.scaled == right.scaled

end Binary64

end PageContext
