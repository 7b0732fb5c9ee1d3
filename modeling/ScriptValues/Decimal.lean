import ScriptValues.Double
import ScriptValues.Numeral

/-!
Decimal digits of a magnitude: exact scaling by powers of ten, the leading digits of the exact
expansion, and the shortest digits that still single the magnitude out among all doubles.
-/

namespace ScriptValues

/-- Decimal digits in scientific form: the first digit stands at `10 ^ exponent`. -/
structure Decimal where
  digits : List Nat
  exponent : Int
  deriving DecidableEq, Repr

/-- A whole number of steps of `10 ^ place`, with the zeros at its end left off. -/
def Decimal.ofSteps (steps : Nat) (place : Int) : Decimal :=
  let ds := Numeral.digits 10 steps
  { digits := (ds.reverse.dropWhile (· == 0)).reverse
    exponent := place + ds.length - 1 }

namespace Magnitude

/-- The numerator of `m / 10 ^ place`, over `placeDen place`. -/
def placeNum (m : Magnitude) (place : Int) : Nat := m.units * 10 ^ (-place).toNat

/-- The denominator that goes with `placeNum`. -/
def placeDen (place : Int) : Nat := one * 10 ^ place.toNat

/-- The power of ten of the first decimal digit of a positive magnitude. Every magnitude is above
10^-324, so the whole part of its 10^324-fold has as many digits as the exponent tells. -/
def decimalExponent (m : Magnitude) : Int :=
  (Numeral.digits 10 (m.placeNum (-324) / placeDen (-324))).length - 325

/-- The first `count` digits of the exact decimal expansion of a positive magnitude, cut off. -/
def leadingDigits (m : Magnitude) (count : Nat) : List Nat :=
  let place := m.decimalExponent - count + 1
  Numeral.digits 10 (m.placeNum place / placeDen place)

/-- Whether a significand is even, so that ties round to it. -/
def isEven (m : Magnitude) : Bool := m.significand % 2 == 0

/-- Whether the decimal `steps * 10 ^ place` reads back as `m`: it lies in the interval that reaches
half way to either neighbour, ends included when ties round to `m`. -/
def readsBack (m : Magnitude) (steps : Nat) (place : Int) : Bool :=
  let scale := 10 ^ (-place).toNat
  let low := (2 * m.units - gap (m.units - 1)) * scale
  let high := (2 * m.units + gap m.units) * scale
  let point := 2 * steps * placeDen place
  if m.isEven then low ≤ point && point ≤ high else low < point && point < high

/-- The better of the two neighbours of `m` among the decimals with `count` digits, if one of them
reads back as `m`. The nearer one is tried first and `tie` settles which that is. -/
def shortestWith? (m : Magnitude) (tie : Tie) (count : Nat) : Option Decimal :=
  let place := m.decimalExponent - count + 1
  let below := m.placeNum place / placeDen place
  let nearer := roundDiv tie (m.placeNum place) (placeDen place)
  let farther := if nearer = below then below + 1 else below
  if m.readsBack nearer place then some (.ofSteps nearer place)
  else if m.readsBack farther place then some (.ofSteps farther place)
  else none

/-- The shortest decimal that reads back as `m`, and of the shortest the nearest. Seventeen digits
always suffice. -/
def shortest (m : Magnitude) (tie : Tie) : Decimal :=
  if m.units = 0 then ⟨[0], 0⟩
  else ((List.range' 1 17).findSome? (m.shortestWith? tie)).getD ⟨[0], 0⟩

end Magnitude

end ScriptValues
