import PageContext.Number.Binary64

/-!
# The fewest digits that read back

A positive number of the format binary64 owns the interval of reals that round to it; the ends
belong to the interval when the significand is even.  Its shortest digits are the fewest decimal
digits of which some power-of-ten multiple lies in the interval.  On the grid of a given digit
count only the two neighbours of the number itself need to be tried: if any point of the grid lies
in the interval, so does one of them.  Of two hits the nearer is taken, and the even one in a tie.
-/

namespace PageContext

/-- Digits and a power of ten: the number `digits * 10 ^ exponent`. -/
structure DecimalDigits where
  digits : Nat
  exponent : Int
deriving DecidableEq, Repr

namespace Binary64

/-- The quotient `numerator / (denominator * 10 ^ exponent)` as a pair of whole numbers. -/
def overTen (numerator denominator : Nat) (exponent : Int) : Nat × Nat :=
  (numerator * Nat.pow 10 (-exponent).toNat, denominator * Nat.pow 10 exponent.toNat)

/-- The exponent of the leading decimal digit of a positive quotient. -/
def leadingPower (numerator denominator : Nat) : Int :=
  let guess := (((numerator.log2 : Int) - denominator.log2) * 30103).fdiv 100000
  let (above, below) := overTen numerator denominator guess
  if above < below then guess - 1
  else if above ≥ 10 * below then guess + 1
  else guess

/-- The ends of the interval of reals that round to a positive number, in units of a quarter of
its last place, and the power of two of that unit. -/
def interval (number : Binary64) : Nat × Nat × Int :=
  let atBoundary := number.significand == Nat.pow 2 (significandBits - 1) &&
    number.exponent > leastExponent
  (4 * number.significand - (if atBoundary then 1 else 2), 4 * number.significand + 2,
    number.exponent - 2)

/-- Whether `digits * 10 ^ power` lies in the interval of a positive number. -/
def owns (number : Binary64) (digits : Nat) (power : Int) : Bool :=
  let (low, high, unit) := number.interval
  let point := digits * Nat.pow 10 power.toNat * Nat.pow 2 (-unit).toNat
  let scale := Nat.pow 10 (-power).toNat * Nat.pow 2 unit.toNat
  if number.significand % 2 == 0 then low * scale ≤ point && point ≤ high * scale
  else low * scale < point && point < high * scale

/-- Of the two neighbours of a number on the grid of `count` digits, the one to print: the one
that the number owns, the nearer of two, the even one in a tie. -/
def onGrid? (number : Binary64) (count : Nat) : Option DecimalDigits :=
  let (numerator, denominator) := number.quotient
  let power := leadingPower numerator denominator + 1 - count
  let (above, below) := overTen numerator denominator power
  let lower := above / below
  let twice := 2 * (above % below)
  match number.owns lower power, number.owns (lower + 1) power with
  | true, false => some ⟨lower, power⟩
  | false, true => some ⟨lower + 1, power⟩
  | false, false => none
  | true, true =>
      if twice < below || (twice == below && lower % 2 == 0) then some ⟨lower, power⟩
      else some ⟨lower + 1, power⟩

/-- Removes zeros at the end of the digits; `fuel` bounds how many. -/
def dropZeros : Nat → DecimalDigits → DecimalDigits
  | 0, decimal => decimal
  | fuel + 1, decimal =>
      if decimal.digits % 10 == 0 && decimal.digits != 0 then
        dropZeros fuel ⟨decimal.digits / 10, decimal.exponent + 1⟩
      else decimal

/-- The fewest digits that read back as the number, sign aside; seventeen always do. -/
def shortest (number : Binary64) : DecimalDigits :=
  if number.significand = 0 then ⟨0, 0⟩
  else
    match (List.range 17).findSome? fun index => number.onGrid? (index + 1) with
    | some decimal => dropZeros 17 decimal
    | none => ⟨0, 0⟩

end Binary64

end PageContext
