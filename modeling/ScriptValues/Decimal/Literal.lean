import ScriptValues.Double
import ScriptValues.Numeral

/-!
Decimal literals: an optional sign, digits with an optional point, and an optional exponent. The
reader takes the longest literal at the start of a text, and its value is rounded once.
-/

namespace ScriptValues

namespace Double

/-- Exponents of the first digit from here on are too large for any double. -/
def hugeExponent : Int := 310

/-- Exponents of the first digit below this are too small for any double. -/
def tinyExponent : Int := -330

/-- The double nearest to `n * 10 ^ exponent`. Powers of ten that no double reaches are answered
without computing them. -/
def ofDecimal (negative : Bool) (n : Nat) (exponent : Int) : Double :=
  let first := exponent + (Numeral.digits 10 n).length - 1
  if n = 0 ∨ first < tinyExponent then .finite negative .zero
  else if hugeExponent ≤ first then .infinite negative
  else nearest negative (n * 10 ^ exponent.toNat * Magnitude.one) (10 ^ (-exponent).toNat)

end Double

/-- The parts of a decimal literal as written. -/
structure DecimalLiteral where
  negative : Bool
  whole : List Nat
  fraction : List Nat
  exponent : Int

namespace DecimalLiteral

/-- The number a literal stands for, rounded to a double. -/
def value (literal : DecimalLiteral) : Double :=
  Double.ofDecimal literal.negative (Numeral.value 10 (literal.whole ++ literal.fraction))
    (literal.exponent - literal.fraction.length)

/-- An optional sign at the start of a text: whether it is a minus, and the text after it. -/
def scanSign : List Char → Bool × List Char
  | '-' :: cs => (true, cs)
  | '+' :: cs => (false, cs)
  | cs => (false, cs)

/-- A point and the digits after it, if the text starts with a point. -/
def scanFraction : List Char → List Nat × List Char
  | '.' :: cs => Numeral.span 10 cs
  | cs => ([], cs)

/-- An exponent, if the text starts with one that has a digit; otherwise nothing is taken. -/
def scanExponent : List Char → Int × List Char
  | c :: cs =>
    if c = 'e' ∨ c = 'E' then
      let (negative, ds) := scanSign cs
      match Numeral.span 10 ds with
      | ([], _) => (0, c :: cs)
      | (digits, rest) =>
        let n : Int := Numeral.value 10 digits
        (if negative then -n else n, rest)
    else (0, c :: cs)
  | [] => (0, [])

/-- The longest literal at the start of a text, and the text after it. There must be a digit before
or after the point. -/
def scan? (cs : List Char) : Option (DecimalLiteral × List Char) :=
  let (negative, afterSign) := scanSign cs
  let (whole, afterWhole) := Numeral.span 10 afterSign
  let (fraction, afterFraction) := scanFraction afterWhole
  if whole = [] ∧ fraction = [] then none
  else
    let (exponent, rest) := scanExponent afterFraction
    some (⟨negative, whole, fraction, exponent⟩, rest)

end DecimalLiteral

end ScriptValues
