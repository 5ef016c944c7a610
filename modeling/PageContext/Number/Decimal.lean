import PageContext.Number.Binary64
import PageContext.Text.Integer

/-!
# Reading decimal numbers

A decimal number is a whole significand times a power of ten.  It is read in one of two ways.  The
exact reading gives the nearest binary number.  The stepwise reading, the one of JSON text, first
rounds the significand and then multiplies or divides it once by the binary number nearest to the
power of ten, rounding again; below `1e-308` one more division comes first.  Both agree as long as
significand and power are exact, that is for at most 15 digits and powers of at most 22.
-/

namespace PageContext

/-- The binary number nearest to `10 ^ power`, for powers up to 308. -/
def Binary64.ofPowerOfTen (power : Nat) : Binary64 :=
  (Binary64.ofQuotient false (Nat.pow 10 power) 1).getD (Binary64.zero false)

/-- Reads `± significand * 10 ^ exponent` stepwise; none when a step is infinite. -/
def Binary64.ofDecimalStepwise (negative : Bool) (significand : Nat) (exponent : Int) :
    Option Binary64 :=
  let rounded := { Binary64.ofInt significand with negative := negative }
  if exponent > 308 then
    if significand = 0 then some rounded else none
  else if exponent ≥ 0 then rounded.multiply (Binary64.ofPowerOfTen exponent.toNat)
  else if exponent ≥ -308 then rounded.divide (Binary64.ofPowerOfTen exponent.natAbs)
  else if exponent ≥ -616 then do
    let reduced ← rounded.divide (Binary64.ofPowerOfTen 308)
    reduced.divide (Binary64.ofPowerOfTen (exponent.natAbs - 308))
  else some (Binary64.zero negative)

/-- The nearest binary number to `± significand * 10 ^ exponent`; none when it is infinite. -/
def Binary64.ofDecimal (negative : Bool) (significand : Nat) (exponent : Int) : Option Binary64 :=
  let magnitude : Int := (toString significand).length + exponent
  if significand = 0 || magnitude < -330 then some (Binary64.zero negative)
  else if magnitude > 310 then none
  else
    Binary64.ofQuotient negative (significand * Nat.pow 10 exponent.toNat)
      (Nat.pow 10 (-exponent).toNat)

/-- The digits at the front of a text and the rest. -/
def leadingDigits (characters : List Char) : List Char × List Char :=
  (characters.takeWhile Char.isDigit, characters.dropWhile Char.isDigit)

/-- A number read from plain text. -/
inductive PlainNumber where
  | finite (number : Binary64)
  | infinite (negative : Bool)
  | undefined
deriving DecidableEq, Repr

namespace PlainNumber

/-- The digits behind a point at the front of a text, none without a point, and the rest. -/
def fractionDigits (characters : List Char) : List Char × List Char :=
  match characters with
  | '.' :: rest => leadingDigits rest
  | _ => ([], characters)

/-- The value of a power of ten behind its mark. -/
def exponent? (characters : List Char) : Option Int :=
  match characters with
  | '+' :: digits => (Text.digits? digits).map Int.ofNat
  | '-' :: digits => (Text.digits? digits).map fun magnitude => -Int.ofNat magnitude
  | digits => (Text.digits? digits).map Int.ofNat

/-- The power of ten at the end of a text, zero if nothing is there. -/
def power? : List Char → Option Int
  | [] => some 0
  | mark :: rest => if mark = 'e' || mark = 'E' then exponent? rest else none

/-- The significand and exponent of an unsigned decimal text: digits, a point among or around
them, and a power of ten; at least one digit, and none of it left over. -/
def decimalParts? (characters : List Char) : Option (Nat × Int) := do
  let (whole, rest) := leadingDigits characters
  let (fraction, rest) := fractionDigits rest
  let significand ← Text.digits? (whole ++ fraction)
  let power ← power? rest
  return (significand, power - fraction.length)

/-- Reads a number behind its sign: a decimal or one of the words `inf`, `infinity` and `nan` in
any case. -/
def ofUnsigned? (negative : Bool) (characters : List Char) : Option PlainNumber :=
  let word := String.ofList (characters.map Char.toLower)
  if word = "inf" || word = "infinity" then some (.infinite negative)
  else if word = "nan" then some .undefined
  else
    (decimalParts? characters).map fun (significand, exponent) =>
      match Binary64.ofDecimal negative significand exponent with
      | some number => .finite number
      | none => .infinite negative

/-- Reads a number with a sign or without one. -/
def ofText? (text : String) : Option PlainNumber :=
  match text.toList with
  | '-' :: rest => ofUnsigned? true rest
  | '+' :: rest => ofUnsigned? false rest
  | characters => ofUnsigned? false characters

end PlainNumber

end PageContext
