import ScriptValues.Decimal.Printer

/-!
A double with a given number of decimal places: as programs ask for it, where an exact half goes up,
and as lines are printed, where it goes to the even digit.
-/

namespace ScriptValues

/-- An integer kept within two bounds. -/
def clamp (least most n : Int) : Int := max least (min most n)

namespace Double

/-- The most decimal places that can be asked for. -/
def maxPlaces : Int := 20

/-- Magnitudes from 10^21 on are written without decimal places. -/
def isHuge (m : Magnitude) : Bool := 10 ^ (21 : Nat) * Magnitude.one ≤ m.units

/-- The text with a fixed number of decimal places, from none to twenty. A negative zero loses its
sign, and what is not finite or huge is written plainly. -/
def toFixed (x : Double) (places : Int) (printer : DecimalPrinter := .standard) : String :=
  match x with
  | .finite _ m =>
    if isHuge m then x.text printer
    else
      let unsigned := if m.units = 0 then .zero else x
      String.ofList (printer.fixed unsigned (clamp 0 maxPlaces places).toNat)
  | _ => x.text printer

/-- The exact value at `places` decimal places, an exact half going to the even digit. -/
def placedChars (m : Magnitude) (places : Nat) : List Char :=
  let ds := Numeral.padded (places + 1) <|
    Numeral.digits 10 (roundDiv .toEven (m.units * 10 ^ places) Magnitude.one)
  Decimal.withPoint ds (ds.length - places)

/-- The text of a double at `places` decimal places. Every zero keeps its sign. -/
def placed (x : Double) (places : Nat) : String :=
  match x with
  | .nan => "NaN"
  | .infinite negative => String.ofList (signed negative "inf".toList)
  | .finite negative m => String.ofList (signed negative (placedChars m places))

end Double

end ScriptValues
