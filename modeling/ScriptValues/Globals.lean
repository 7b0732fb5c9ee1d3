import ScriptValues.Value.Coercion

/-!
What every program finds by name: the numbers NaN and infinity, undefined, and four functions that
read and test numbers.
-/

namespace ScriptValues

namespace Value

/-- Whether a value's number is finite. -/
def hasFiniteNumber (v : Value) : Bool := v.toNumber.isFinite

/-- Whether a value has no number. -/
def hasNoNumber (v : Value) : Bool := v.toNumber.isNaN

/-- The decimal number at the start of a value's text. -/
def parseFloat (v : Value) (reader : DecimalReader := .standard)
    (printer : DecimalPrinter := .standard) : Double :=
  NumericText.decimalStart (v.text printer).toList reader

/-- Whether a number is whole and small enough to be written without an exponent. -/
def isPlainInteger (x : Double) : Bool :=
  x.isFinite && x.trunc.equal x && x.abs.less (.ofNat (10 ^ (21 : Nat)))

/-- The integer at the start of a value's text. A whole number in base ten is its own answer,
without the sign of a zero. -/
def parseInt (v radix : Value) (printer : DecimalPrinter := .standard) : Double :=
  match v, radix with
  | .number x, .number r =>
    if r.equal (.ofNat 10) && isPlainInteger x then x.add .zero
    else NumericText.integerStart (v.text printer).toList radix.toInt32
  | _, _ => NumericText.integerStart (v.text printer).toList radix.toInt32

end Value

/-- The argument at a place; undefined when there are fewer. -/
def argument (args : List Value) (i : Nat) : Value := args.getD i .undefined

namespace GlobalFunction

def all : List GlobalFunction := [.isFinite, .isNaN, .parseFloat, .parseInt]

def name : GlobalFunction → String
  | .isFinite => "isFinite"
  | .isNaN => "isNaN"
  | .parseFloat => "parseFloat"
  | .parseInt => "parseInt"

def ofName? (name : String) : Option GlobalFunction := all.find? (·.name == name)

/-- The answer of a global function. -/
def run (g : GlobalFunction) (args : List Value) : Value :=
  match g with
  | .isFinite => .boolean (argument args 0).hasFiniteNumber
  | .isNaN => .boolean (argument args 0).hasNoNumber
  | .parseFloat => .number (argument args 0).parseFloat
  | .parseInt => .number ((argument args 0).parseInt (argument args 1))

end GlobalFunction

/-- The value of a global name. A function is made anew each time; unknown names are undefined. -/
def lookupGlobal (name : String) (ids : Identities) : Value × Identities :=
  if name = "NaN" then (.number .nan, ids)
  else if name = "Infinity" then (.number (.infinite false), ids)
  else match GlobalFunction.ofName? name with
    | some g =>
      let (f, ids) := ids.newFunction g.name (.global g)
      (.function f, ids)
    | none => (.undefined, ids)

end ScriptValues
