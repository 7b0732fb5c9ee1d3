import ScriptValues.Decimal.Group
import ScriptValues.Decimal.Notation

/-!
The library that prints doubles in decimal: plainly, with as many digits as tell a double from all
others, or with a number of places after the point. It prints signs, words for what is not finite,
and the choice between the notations.
-/

namespace ScriptValues

/-- A library that prints doubles. -/
structure DecimalPrinter where
  /-- The plain text of a double. -/
  plain : Double → List Char
  /-- The text of a finite double below 10^21 with so many places after the point. -/
  fixed : Double → (places : Nat) → List Char

namespace DecimalPrinter

open Double (signed)

/-- The shortest digits, a tie going to the even digit. Both zeros are written `0`. -/
def plainChars : Double → List Char
  | .nan => "NaN".toList
  | .infinite negative => signed negative "Infinity".toList
  | .finite negative m => signed (negative && m.units != 0) (m.shortest .toEven).plainChars

/-- The exact value at `places` decimal places, an exact half going up, laid out with all of them.
The empty groups of a small magnitude are written as its leading groups. -/
def placesChars (m : Magnitude) (places : Nat) : List Char :=
  let ds := Numeral.padded (places + 1) <|
    Numeral.digits 10 (roundDiv .up (m.units * 10 ^ places) Magnitude.one)
  let whole := ds.length - places
  let leading := m.leadingGroups places
  Decimal.withPoint (ds.take whole ++ leading ++ ds.drop (whole + leading.length)) whole

/-- The decimal places of a double; what is not finite is written plainly. -/
def fixedChars (x : Double) (places : Nat) : List Char :=
  match x with
  | .finite negative m => signed negative (placesChars m places)
  | _ => plainChars x

/-- The library that doubles are printed with. -/
def standard : DecimalPrinter where
  plain := plainChars
  fixed := fixedChars

end DecimalPrinter

/-- The plain text of a double. -/
def Double.text (x : Double) (printer : DecimalPrinter := .standard) : String :=
  String.ofList (printer.plain x)

end ScriptValues
