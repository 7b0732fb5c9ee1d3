import ScriptValues.Decimal.Printer
import ScriptValues.Double.Arithmetic
import ScriptValues.Numeral.Writer

/-!
Doubles written in a base from 2 to 36. The digits come from arithmetic on doubles, each step
rounded; fraction digits stop as soon as they tell the number from its neighbours.
-/

namespace ScriptValues

namespace Radix

/-- More steps than a digit loop takes. Whole digits divide a number below 2^1024 by the base at each
step, and fraction digits multiply by it a margin that starts at 2^-1074 or above and ends below
one. -/
def maxSteps : Nat := 2100

/-- Integers below this are written from their exact value. -/
def exactLimit : Nat := 2 ^ (53 : Nat)

/-- The whole part of a double that is not negative, as a natural number. -/
def wholeUnits : Double → Nat
  | .finite _ m => m.units / Magnitude.one
  | _ => 0

/-- Puts the digits of a large integer in front of `lower`: the last digit is taken off and the rest
divided by the base until nothing is left. -/
def largeDigits (base : Double) : (fuel : Nat) → (n : Double) → (lower : List Nat) → List Nat
  | 0, _, lower => lower
  | fuel + 1, n, lower =>
    if Double.one.atMost n then
      let digit := n.rem base
      largeDigits base fuel ((n.sub digit).div base) (wholeUnits digit :: lower)
    else lower

/-- The numeral of a double without a fraction. A library writes it below the limit; letters are made
lower case. -/
def integerChars (base : Nat) (n : Double) (writer : IntegerWriter := .standard) : List Char :=
  if n.less (.ofNat exactLimit) then (writer.write base (wholeUnits n)).map Char.toLower
  else (largeDigits (.ofNat base) maxSteps n []).map Numeral.digitChar

/-- Adds one to the last digit that is not the largest and drops the digits after it. There is no
such digit when the result is `none`. The digits are given last one first. -/
def carryInto? (base : Nat) : List Nat → Option (List Nat)
  | [] => none
  | d :: higher => if d + 1 < base then some ((d + 1) :: higher) else carryInto? base higher

/-- Fraction digits, last one first. `margin` is half the distance to the next double, scaled like
the fraction: digits end where what is left is smaller, or round up where the next digit would
reach past it. The result is `none` when rounding up carries into the whole part. -/
def fractionDigits (base : Nat) :
    (fuel : Nat) → (fraction margin : Double) → (written : List Nat) → Option (List Nat)
  | 0, _, _, written => some written
  | fuel + 1, fraction, margin, written =>
    let scaled := fraction.mul (.ofNat base)
    let margin := margin.mul (.ofNat base)
    let digit := wholeUnits scaled
    let rest := scaled.sub (.ofNat digit)
    let roundsUp := Double.half.less rest || (rest.equal .half && digit % 2 == 1)
    if roundsUp && Double.one.less (rest.add margin) then
      carryInto? base (digit :: written)
    else if rest.less margin then some (digit :: written)
    else fractionDigits base fuel rest margin (digit :: written)

/-- Half the distance from a double to the next one, but at least the least positive double. -/
def margin (x : Double) : Double := (Double.half.mul (x.next.sub x)).max .leastPositive

/-- The fraction digits of a positive double, last one first; none at all when the fraction is
smaller than the margin. -/
def fractionDigits? (base : Nat) (x : Double) : Option (List Nat) :=
  let fraction := x.sub x.trunc
  if fraction.less (margin x) then some []
  else fractionDigits base maxSteps fraction (margin x) []

/-- The numeral of a positive double in a base. -/
def magnitudeChars (base : Nat) (x : Double) (writer : IntegerWriter := .standard) : List Char :=
  match fractionDigits? base x with
  | none => integerChars base (x.trunc.add .one) writer
  | some ds =>
    let front := integerChars base x.trunc writer
    if ds = [] then front else front ++ '.' :: ds.reverse.map Numeral.digitChar

end Radix

namespace Double

/-- The text of a double in a base from 2 to 36. Base ten, and what is not finite, is written
plainly. -/
def textInBase (x : Double) (base : Nat) (printer : DecimalPrinter := .standard)
    (writer : IntegerWriter := .standard) : String :=
  match x with
  | .finite negative m =>
    if base = 10 then x.text printer
    else if m.units = 0 then "0"
    else String.ofList (signed negative (Radix.magnitudeChars base (.finite false m) writer))
  | _ => x.text printer

/-- The text of a double in a base; one outside 2 to 36, or none at all, means ten. -/
def toRadix (x : Double) (radix? : Option Int) (printer : DecimalPrinter := .standard)
    (writer : IntegerWriter := .standard) : String :=
  match radix? with
  | some radix =>
    if 2 ≤ radix ∧ radix ≤ 36 then x.textInBase radix.toNat printer writer else x.text printer
  | none => x.text printer

end Double

end ScriptValues
