import ScriptValues.NumericText
import ScriptValues.Value.Text

/-!
Conversions of values to numbers, integers and booleans, and the addition that converts its
operands.
-/

namespace ScriptValues

namespace Value

/-- The number of a value. Symbols, objects, arrays and functions have none and give NaN. -/
def toNumber : Value → Double
  | .undefined => .nan
  | .null => .zero
  | .boolean b => if b then .one else .zero
  | .number x => x
  | .string s => NumericText.toNumber s.toList
  | .symbol _ | .object _ | .array _ | .function _ => .nan

/-- Zeros, NaN, the empty string, undefined and null are false; everything else that is not a
boolean is true. -/
def toBoolean : Value → Bool
  | .undefined | .null => false
  | .boolean b => b
  | .number x => !(x.isZero || x.isNaN)
  | .string s => !s.isEmpty
  | .symbol _ | .object _ | .array _ | .function _ => true

/-- The whole part of a value's number. -/
def toExtendedInt (v : Value) : ExtendedInt := v.toNumber.toExtendedInt

/-- A value as a position or count: its whole part, kept in the range of 64-bit words. -/
def toPosition (v : Value) : Int := v.toExtendedInt.saturate

/-- A position that may be left out: undefined means none. -/
def toPosition? (v : Value) : Option Int :=
  match v with
  | .undefined => none
  | v => some v.toPosition

def toInt32 (v : Value) : Int := v.toNumber.toInt32

def toUint32 (v : Value) : Nat := v.toNumber.toUint32

/-- The form of a value that operators work on; every value is its own. -/
def toPrimitive (v : Value) : Value := v

/-- Addition. With a string on either side the texts are joined, otherwise the numbers are added. -/
def add (left right : Value) : Value :=
  let a := left.toPrimitive
  let b := right.toPrimitive
  if a.kind = .string ∨ b.kind = .string then .string (a.text ++ b.text)
  else .number (a.toNumber.add b.toNumber)

end Value

end ScriptValues
