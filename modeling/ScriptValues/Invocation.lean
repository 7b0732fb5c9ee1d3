import ScriptValues.Method.Array
import ScriptValues.Method.Scalar

/-!
Access to a value whose kind is only known at run time: calling one of its methods by name, reading
a property, and calling the value itself.
-/

namespace ScriptValues

/-- The result of a method call and the receiver after it. -/
structure Invocation where
  result : Except ScriptError Value
  receiver : Value

/-- The place that a property key names: decimal digits without a sign or leading zeros, whose number
fits into a word. -/
def indexOfKey? (key : String) : Option Nat :=
  let cs := key.toList
  if cs = [] ∨ (1 < cs.length ∧ cs.head? = some '0') then none
  else if cs.all (Numeral.isDigit 10) then
    Numeral.word? 10 (cs.filterMap (Numeral.digitValue? 10))
  else none

/-- A method out of one of the method tables. -/
inductive Method
  | boolean (m : BooleanMethod)
  | number (m : NumberMethod)
  | string (m : StringMethod)
  | array (m : ArrayMethod)

namespace Method

variable {σ : Type}

def owner : Method → MethodOwner
  | .boolean _ => .boolean
  | .number _ => .number
  | .string _ => .string
  | .array _ => .array

/-- The method of a name in the table of a kind. Undefined, null, symbols, plain objects and
functions have no methods. -/
def find? (kind : Kind) (name : String) : Option Method :=
  match kind with
  | .boolean => (BooleanMethod.ofName? name).map .boolean
  | .number => (NumberMethod.ofName? name).map .number
  | .string => (StringMethod.ofName? name).map .string
  | .array => (ArrayMethod.ofName? name).map .array
  | .undefined | .null | .symbol | .object | .function => none

/-- Runs a method on a receiver, which has to be of the kind that the method belongs to. -/
def run (m : Method) (receiver : Value) (args : List Value) (host : Host σ) :
    StateM σ Invocation :=
  match m, receiver with
  | .boolean m, .boolean b => pure ⟨.ok (m.run b), receiver⟩
  | .number m, .number x => pure ⟨.ok (m.run x args), receiver⟩
  | .string m, .string s => pure ⟨m.run s args, receiver⟩
  | .array m, .array vs => do
    let (result, vs) ← m.run host vs args
    return ⟨result, .array vs⟩
  | m, _ => pure ⟨.error (.wrongReceiver m.owner), receiver⟩

end Method

namespace Value

variable {σ : Type}

/-- Calls a method of a value by name. -/
def invoke (receiver : Value) (name : String) (args : List Value) (host : Host σ) :
    StateM σ Invocation :=
  if receiver.isNullish then pure ⟨.error (.nullishReceiver receiver name), receiver⟩
  else
    match Method.find? receiver.kind name with
    | some m => m.run receiver args host
    | none => pure ⟨.error (.missingMethod receiver.kind name), receiver⟩

/-- Reads a property: lengths, elements and characters by index, the names of functions and the
descriptions of symbols. Other keys are undefined; undefined and null have no properties. -/
def property (receiver : Value) (key : String) : Except ScriptError Value :=
  match receiver with
  | .undefined | .null => .error (.nullishReceiver receiver key)
  | .string s =>
    if key = "length" then .ok (.ofNat (Text.length s))
    else match indexOfKey? key with
      | some i => .ok (((Text.codePoint? s i).map (.string ∘ .singleton)).getD .undefined)
      | none => .ok .undefined
  | .array vs =>
    if key = "length" then .ok (.ofNat vs.length)
    else match indexOfKey? key with
      | some i => .ok (Sequence.get vs i)
      | none => .ok .undefined
  | .function f => .ok (if key = "name" then .string f.name else .undefined)
  | .symbol s =>
    .ok (if key = "description" then (s.description?.map .string).getD .undefined else .undefined)
  | .boolean _ | .number _ | .object _ => .ok .undefined

/-- Calls a value, which must be a function. -/
def call (callee : Value) (args : List Value) (host : Host σ) :
    StateM σ (Except ScriptError Value) :=
  match callee with
  | .function f => do return .ok (← f.call host args)
  | other => pure (.error (.notCallable other))

end Value

end ScriptValues
