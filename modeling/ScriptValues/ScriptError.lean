import ScriptValues.Double.Integer
import ScriptValues.Value.Text

/-!
The errors a program can run into, by their cause, and the class and wording of each.
-/

namespace ScriptValues

/-- The classes of errors that programs tell apart. -/
inductive ErrorClass
  | rangeError
  | referenceError
  | typeError
  deriving DecidableEq, Repr

def ErrorClass.name : ErrorClass → String
  | .rangeError => "RangeError"
  | .referenceError => "ReferenceError"
  | .typeError => "TypeError"

/-- The kinds of values that methods belong to. -/
inductive MethodOwner
  | boolean
  | number
  | string
  | array
  deriving DecidableEq, Repr

/-- Why an operation failed. -/
inductive ScriptError
  /-- a property or method of undefined or null was asked for -/
  | nullishReceiver (receiver : Value) (property : String)
  /-- values of this kind have no such method -/
  | missingMethod (kind : Kind) (method : String)
  /-- a method was run on a value of another kind than its own -/
  | wrongReceiver (owner : MethodOwner)
  /-- something other than a function was to be called -/
  | notCallable (callee : Value)
  /-- a text was to be repeated a negative or infinite number of times -/
  | badCount (count : ExtendedInt)
  /-- a repeated text would be too long -/
  | textTooLong
  /-- a timer was stopped that is not running -/
  | missingTimer (label : String)

namespace ScriptError

def errorClass : ScriptError → ErrorClass
  | .nullishReceiver _ _ | .missingMethod _ _ | .wrongReceiver _ | .notCallable _ => .typeError
  | .badCount _ | .textTooLong => .rangeError
  | .missingTimer _ => .referenceError

def message : ScriptError → String
  | .nullishReceiver receiver property =>
    "Cannot read properties of " ++ receiver.text ++ " (reading '" ++ property ++ "')"
  | .missingMethod kind method => kind.typeName ++ "." ++ method ++ " is not a function"
  | .wrongReceiver .boolean => "Not a Boolean"
  | .wrongReceiver .number => "Not a Number"
  | .wrongReceiver .string => "Not a String"
  | .wrongReceiver .array => "this is not an Array"
  | .notCallable callee => callee.shown ++ " is not a function"
  | .badCount count => "Invalid count value: " ++ count.toDouble.text
  | .textTooLong => "Invalid string length"
  | .missingTimer label => "Timer '" ++ label ++ "' does not exist"

/-- The class and the message in one line. -/
def display (e : ScriptError) : String := e.errorClass.name ++ ": " ++ e.message

end ScriptError

end ScriptValues
