/-
This file writes floating point numbers in decimal. What the two ways of writing them
share is the digits, the fewest that read back to the same number; where they differ is
gathered in one record. Plain notation is positional always and shows a fraction only
where there is one. Exact notation always shows a fraction, and turns to a power of ten
for numbers below a ten thousandth and from ten thousand million million on.
-/

import Erasure.Decimal.Shortest

namespace Erasure

/-- How decimal numbers are written. -/
structure DecimalNotation where
  /-- The least and the greatest decimal order of magnitude that is written positionally;
  without it every number is. -/
  positional : Option (Int × Int)
  /-- Whether a whole number that is written positionally still shows a fraction. -/
  showsFraction : Bool
  deriving DecidableEq, Repr

namespace DecimalNotation

/-- The notation for the reader of a text. -/
def plain : DecimalNotation := ⟨none, false⟩

/-- The notation for the programmer who inspects a value. -/
def exact : DecimalNotation := ⟨some (-4, 15), true⟩

/-- A row of zeros. -/
def zeros (count : Nat) : String :=
  String.ofList (List.replicate count '0')

/-- A number written positionally, the point standing `whole` digits after the first digit. -/
def writePositional (style : DecimalNotation) (digits : String) (whole : Int) : String :=
  let count : Int := digits.length
  if whole ≤ 0 then
    "0." ++ zeros (-whole).toNat ++ digits
  else if whole < count then
    String.ofList (digits.toList.take whole.toNat) ++ "." ++
      String.ofList (digits.toList.drop whole.toNat)
  else
    digits ++ zeros (whole - count).toNat ++ if style.showsFraction then ".0" else ""

/-- A number written as one digit, its fraction if it has one, and a power of ten. -/
def writeScientific (digits : String) (order : Int) : String :=
  let fraction := digits.toList.drop 1
  String.ofList (digits.toList.take 1) ++
    (if fraction.isEmpty then "" else "." ++ String.ofList fraction) ++ "e" ++ toString order

/-- The size of a number in this notation. Its order of magnitude decides on the form. -/
def writeMagnitude (style : DecimalNotation) (magnitude : DecimalMagnitude) : String :=
  let digits := toString magnitude.digits
  let whole : Int := magnitude.exponent + digits.length
  match style.positional with
  | none => style.writePositional digits whole
  | some (least, greatest) =>
    if least < whole ∧ whole ≤ greatest + 1 then
      style.writePositional digits whole
    else
      writeScientific digits (whole - 1)

/-- The sign that stands in front of a number. -/
def sign (negative : Bool) : String :=
  if negative then "-" else ""

/-- A number in this notation. What is no number has no sign. -/
def write (style : DecimalNotation) : BinaryNumber → String
  | .notANumber => "NaN"
  | .infinite negative => sign negative ++ "inf"
  | .zero negative => sign negative ++ if style.showsFraction then "0.0" else "0"
  | .finite negative magnitude => sign negative ++ style.writeMagnitude magnitude.shortest

end DecimalNotation

end Erasure
