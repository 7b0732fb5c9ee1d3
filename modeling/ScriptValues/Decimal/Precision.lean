import ScriptValues.Decimal.Fixed
import ScriptValues.Decimal.Rounding

/-!
A double with a given number of significant digits, in exponential notation always or only where
the digits do not reach.
-/

namespace ScriptValues

namespace Double

/-- Every double is exact in this many significant digits. -/
def exactDigits : Nat := 771

/-- Rounds a decimal to `count` digits, moving the exponent up when the rounding carries. -/
def roundDecimal (count : Nat) (d : Decimal) : Decimal :=
  let (ds, carry) := Decimal.roundTo count d.digits
  ⟨ds, if carry then d.exponent + 1 else d.exponent⟩

/-- All digits of the exact decimal expansion. -/
def exactDecimal (m : Magnitude) : Decimal :=
  if m.units = 0 then ⟨List.replicate exactDigits 0, 0⟩
  else ⟨m.leadingDigits exactDigits, m.decimalExponent⟩

/-- The exponential text. Without a number of digits after the point it has the shortest digits, a
tie going up; a number outside 0 to 20 counts as 20. -/
def toExponential (x : Double) (places? : Option Int) (printer : DecimalPrinter := .standard) :
    String :=
  match x with
  | .finite negative m =>
    let d := match places? with
      | none => m.shortest .up
      | some places =>
        let places := if 0 ≤ places ∧ places ≤ 20 then places.toNat else 20
        roundDecimal (places + 1) (exactDecimal m)
    String.ofList (signed (negative && m.units != 0) d.exponentialChars)
  | _ => x.text printer

/-- The decimal places at which a magnitude is cut before its significant digits are counted. -/
def visiblePlaces : Nat := 100

/-- A magnitude with a hundred decimal places, an exact half going to the even digit. -/
def visibleChars (m : Magnitude) : List Char := placedChars m visiblePlaces

/-- The exponent of the first digit other than zero in a text of digits with a point among them,
from the place `place` on. The flags tell whether such a digit and whether the point stand in front
of that place. Without such a digit it is one less than the length of the text. -/
def firstExponent (nonzero point : Bool) (place : Nat) : List Char → Int
  | [] => place - 1
  | c :: cs =>
    if c = '.' then
      if nonzero then place - 1 else firstExponent nonzero true (place + 1) cs
    else if c = '0' then firstExponent nonzero point (place + 1) cs
    else if point then 1 - place
    else firstExponent true point (place + 1) cs

/-- The digits of a positive magnitude at a hundred decimal places, from the first one that is not
zero, with its exponent. A magnitude of which nothing is left there shows zeros only, with an
exponent above them. -/
def visibleDecimal (m : Magnitude) : Decimal :=
  let cs := visibleChars m
  let exponent := firstExponent false false 0 cs
  let cs := if exponent < 0 then cs.drop (1 - exponent).toNat else cs.erase '.'
  ⟨cs.filterMap (Numeral.digitValue? 10), exponent⟩

/-- The significant digits that a magnitude is written with. Zero has zeros. -/
def significant (count : Nat) (m : Magnitude) : Decimal :=
  if m.units = 0 then ⟨List.replicate count 0, 0⟩ else roundDecimal count (visibleDecimal m)

/-- The text with `precision` significant digits. Exponents below -6, and those that the digits do
not reach, are written in exponential notation. Without a precision from 1 to 21 the text is
plain. -/
def toPrecision (x : Double) (precision? : Option Int) (printer : DecimalPrinter := .standard) :
    String :=
  match x, precision? with
  | .finite negative m, some precision =>
    if precision < 1 ∨ 21 < precision then x.text printer
    else
      let d := significant precision.toNat m
      String.ofList <| signed (negative && m.units != 0) <|
        if d.exponent < -6 ∨ precision ≤ d.exponent then d.exponentialChars
        else d.positionalChars
  | _, _ => x.text printer

end Double

end ScriptValues
