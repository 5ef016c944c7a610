/-!
# Integers in decimal

An integer is written as a sign, which may be missing, and one or more of the digits `0` to `9`;
leading zeros are allowed and blanks are not.  Numbers of a fixed width are read with a bound, and
a text whose value is out of bounds is refused like any other malformed text.
-/

namespace PageContext.Text

/-- The value of one of the digits `0` to `9`. -/
def digitValue? (character : Char) : Option Nat :=
  if character.isDigit then some (character.toNat - '0'.toNat) else none

/-- The value of a run of digits read after digits that stand for `value`. -/
def digitsFrom? (value : Nat) : List Char → Option Nat
  | [] => some value
  | character :: rest =>
      match digitValue? character with
      | some digit => digitsFrom? (10 * value + digit) rest
      | none => none

/-- The value of a non-empty run of digits. -/
def digits? : List Char → Option Nat
  | [] => none
  | character :: rest => digitsFrom? 0 (character :: rest)

/-- Reads an unsigned integer of at most `bits` bits; a plus sign in front is allowed. -/
def unsigned? (bits : Nat) (text : String) : Option Nat :=
  let magnitude? :=
    match text.toList with
    | '+' :: rest => digits? rest
    | characters => digits? characters
  magnitude?.filter (· < Nat.pow 2 bits)

/-- Whether an integer lies between `-2 ^ (bits - 1)` and `2 ^ (bits - 1) - 1`. -/
def fitsSigned (bits : Nat) (value : Int) : Bool :=
  let bound : Int := Nat.pow 2 (bits - 1)
  value < bound && -bound ≤ value

/-- Reads an integer between `-2 ^ (bits - 1)` and `2 ^ (bits - 1) - 1`. -/
def signed? (bits : Nat) (text : String) : Option Int :=
  let value? : Option Int :=
    match text.toList with
    | '+' :: rest => (digits? rest).map Int.ofNat
    | '-' :: rest => (digits? rest).map fun magnitude => -Int.ofNat magnitude
    | characters => (digits? characters).map Int.ofNat
  value?.filter (fitsSigned bits)

/-- The decimal text of a number, with zeros in front up to `width` digits. -/
def padded (width number : Nat) : String :=
  let digits := toString number
  String.ofList (List.replicate (width - digits.length) '0') ++ digits

end PageContext.Text
