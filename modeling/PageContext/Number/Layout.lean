import PageContext.Number.Shortest

/-!
# Layouts of floating-point text

The shortest digits of a number are written positionally or with a power of ten.  A layout says
for which positions of the decimal point the positional form is used and whether a whole number
keeps a fraction `.0`.  In the form with a power of ten one digit stands before the point, the
point is left out when no digit follows it, and the sign of the exponent is always written.
-/

namespace PageContext

/-- Where positional form is used, and how whole numbers look in it. -/
structure NumberLayout where
  /-- The least and greatest number of digits before the decimal point in positional form; always
  positional without them. -/
  positional : Option (Int × Int)
  /-- Whether a whole number is written with the fraction `.0`. -/
  wholeFraction : Bool

namespace NumberLayout

/-- Numbers in JSON text are positional from `1e-5` up to `1e16`, and keep a fraction so that they
stay distinct from integers. -/
def json : NumberLayout where
  positional := some (-4, 16)
  wholeFraction := true

/-- Plain text writes every number positionally and whole numbers without a fraction. -/
def plain : NumberLayout where
  positional := none
  wholeFraction := false

def zeros (count : Nat) : String :=
  String.ofList (List.replicate count '0')

/-- Digits with the decimal point after the first `point` of them; a negative `point` stands for
zeros between the point and the digits. -/
def positionalText (layout : NumberLayout) (digits : String) (point : Int) : String :=
  if point ≤ 0 then "0." ++ zeros point.natAbs ++ digits
  else if point < digits.length then
    String.ofList (digits.toList.take point.toNat) ++ "." ++
      String.ofList (digits.toList.drop point.toNat)
  else
    digits ++ zeros (point.toNat - digits.length) ++ (if layout.wholeFraction then ".0" else "")

/-- One digit, the further digits after a point, and the power of ten of the first digit. -/
def exponentText (digits : String) (power : Int) : String :=
  let mantissa :=
    match digits.toList with
    | [] => ""
    | [digit] => String.ofList [digit]
    | digit :: rest => String.ofList (digit :: '.' :: rest)
  mantissa ++ "e" ++ (if power < 0 then "-" else "+") ++ toString power.natAbs

def text (layout : NumberLayout) (number : Binary64) : String :=
  let sign := if number.negative then "-" else ""
  let body :=
    if number.isZero then (if layout.wholeFraction then "0.0" else "0")
    else
      let decimal := number.shortest
      let digits := toString decimal.digits
      let point : Int := digits.length + decimal.exponent
      match layout.positional with
      | none => positionalText layout digits point
      | some (least, greatest) =>
          if least ≤ point && point ≤ greatest then positionalText layout digits point
          else exponentText digits (point - 1)
  sign ++ body

end NumberLayout

end PageContext
