import ScriptValues.Decimal.Reader
import ScriptValues.Double.Integer
import ScriptValues.Text.Blank

/-!
Numbers read from text in three ways: a whole text as a number, an integer in some base at the start
of a text, and a decimal literal at the start of a text. Decimal digits are left to a library, which
has words of its own for infinity and NaN that must not get through.
-/

namespace ScriptValues

namespace NumericText

/-- An unsigned infinity in words. -/
def infinityWord : List Char := "Infinity".toList

/-- The sign of infinity, if the text starts with the word for it, signed or not; and the text after
the word. -/
def scanInfinity? (cs : List Char) : Option (Bool × List Char) :=
  let (negative, word) := DecimalLiteral.scanSign cs
  if infinityWord.isPrefixOf word then some (negative, word.drop infinityWord.length) else none

/-- A base marker of a whole number and the text after it. -/
def scanBase? : List Char → Option (Nat × List Char)
  | '0' :: 'x' :: cs | '0' :: 'X' :: cs => some (16, cs)
  | '0' :: 'o' :: cs | '0' :: 'O' :: cs => some (8, cs)
  | '0' :: 'b' :: cs | '0' :: 'B' :: cs => some (2, cs)
  | _ => none

/-- The value of digits, multiplied and added as doubles, each step rounded. -/
def foldDigits (base : Nat) (ds : List Nat) : Double :=
  ds.foldl (fun n d => (n.mul (.ofNat base)).add (.ofNat d)) .zero

/-- Whether a text starts with a digit or a point, after an optional sign. Words of the library do
not. -/
def startsNumber (cs : List Char) : Bool :=
  (DecimalLiteral.scanSign cs).2.head?.any fun c => Numeral.isDigit 10 c || c == '.'

/-- A whole text as a number. Blanks around it do not count, nothing at all is zero, and what is not
a number is NaN. -/
def toNumber (text : List Char) (reader : DecimalReader := .standard) : Double :=
  let cs := Text.trim text
  if cs = [] then .zero
  else match scanInfinity? cs with
    | some (negative, []) => .infinite negative
    | _ =>
      match scanBase? cs with
      | some (base, digits) =>
        match Numeral.span base digits with
        | (d :: ds, []) => foldDigits base (d :: ds)
        | _ => .nan
      | none => if startsNumber cs then (reader.whole? cs).getD .nan else .nan

/-- Whether a text has a letter that is not the mark of an exponent. -/
def hasWordLetter (cs : List Char) : Bool := cs.any fun c => c.isAlpha && c != 'e' && c != 'E'

/-- The longest decimal literal, or word for infinity, at the start of a text; NaN without one. What
the library takes for infinite is a literal too large for a double, or else a word of its own. -/
def decimalStart (text : List Char) (reader : DecimalReader := .standard) : Double :=
  let cs := Text.trimStart text
  match scanInfinity? cs with
  | some (negative, _) => .infinite negative
  | none =>
    match reader.start? cs with
    | none => .nan
    | some (x, count) =>
      if count = 0 then .nan
      else if !x.isFinite && hasWordLetter (cs.take count) then .nan
      else x

/-- Integers below this are rounded once; above it each digit is rounded. -/
def exactIntegerLimit : Nat := 2 ^ (127 : Nat)

/-- The value of the digits of an integer. -/
def integerValue (base : Nat) (ds : List Nat) : Double :=
  if Numeral.value base ds < exactIntegerLimit then .ofNat (Numeral.value base ds)
  else foldDigits base ds

/-- Removes `0x` or `0X` from the start of a text. -/
def dropHexMarker? : List Char → Option (List Char)
  | '0' :: 'x' :: cs | '0' :: 'X' :: cs => some cs
  | _ => none

/-- The base for a requested radix and the digits to read in it: no request means ten, or sixteen
after a hexadecimal marker, which an explicit sixteen skips too. A request outside 2 to 36 has no
base. -/
def chooseBase? (radix : Int) (cs : List Char) : Option (Nat × List Char) :=
  if radix ≠ 0 ∧ (radix < 2 ∨ 36 < radix) then none
  else if radix = 0 ∨ radix = 16 then
    match dropHexMarker? cs with
    | some digits => some (16, digits)
    | none => some (if radix = 0 then 10 else 16, cs)
  else some (radix.toNat, cs)

/-- The integer at the start of a text in a requested radix; NaN when there are no digits. -/
def integerStart (text : List Char) (radix : Int) : Double :=
  let (negative, afterSign) := DecimalLiteral.scanSign (Text.trimStart text)
  match chooseBase? radix afterSign with
  | none => .nan
  | some (base, digits) =>
    match Numeral.span base digits with
    | ([], _) => .nan
    | (ds, _) => if negative then (integerValue base ds).neg else integerValue base ds

end NumericText

end ScriptValues
