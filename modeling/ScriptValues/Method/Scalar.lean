import ScriptValues.Decimal.Fixed
import ScriptValues.Decimal.Precision
import ScriptValues.Globals
import ScriptValues.Radix

/-!
The methods of booleans and numbers by name. An argument that is missing counts as undefined.
-/

namespace ScriptValues

inductive BooleanMethod
  | toString
  | valueOf
  deriving DecidableEq, Repr

namespace BooleanMethod

def all : List BooleanMethod := [.toString, .valueOf]

def name : BooleanMethod → String
  | .toString => "toString"
  | .valueOf => "valueOf"

def ofName? (name : String) : Option BooleanMethod := all.find? (·.name == name)

def run (m : BooleanMethod) (b : Bool) : Value :=
  match m with
  | .toString => .string (Value.boolean b).text
  | .valueOf => .boolean b

end BooleanMethod

inductive NumberMethod
  | toExponential
  | toFixed
  | toLocaleString
  | toPrecision
  | toString
  | valueOf
  deriving DecidableEq, Repr

namespace NumberMethod

def all : List NumberMethod :=
  [.toExponential, .toFixed, .toLocaleString, .toPrecision, .toString, .valueOf]

def name : NumberMethod → String
  | .toExponential => "toExponential"
  | .toFixed => "toFixed"
  | .toLocaleString => "toLocaleString"
  | .toPrecision => "toPrecision"
  | .toString => "toString"
  | .valueOf => "valueOf"

def ofName? (name : String) : Option NumberMethod := all.find? (·.name == name)

def run (m : NumberMethod) (x : Double) (args : List Value) : Value :=
  match m with
  | .toExponential => .string (x.toExponential (argument args 0).toPosition?)
  | .toFixed => .string (x.toFixed (argument args 0).toPosition)
  | .toLocaleString => .string (x.toRadix none)
  | .toPrecision => .string (x.toPrecision (argument args 0).toPosition?)
  | .toString => .string (x.toRadix (argument args 0).toPosition?)
  | .valueOf => .number x

end NumberMethod

end ScriptValues
