import ScriptValues.Host
import ScriptValues.Method.String
import ScriptValues.Sequence

/-!
The methods of arrays by name. Some change the array; three of them call a function with each
element and its index.
-/

namespace ScriptValues

inductive ArrayMethod
  | at
  | concat
  | filter
  | forEach
  | includes
  | indexOf
  | join
  | map
  | pop
  | push
  | remove
  | reverse
  | shift
  | slice
  | splice
  | toString
  | unshift
  deriving DecidableEq, Repr

namespace ArrayMethod

def all : List ArrayMethod :=
  [.at, .concat, .filter, .forEach, .includes, .indexOf, .join, .map, .pop, .push, .remove,
    .reverse, .shift, .slice, .splice, .toString, .unshift]

def name : ArrayMethod → String
  | .at => "at"
  | .concat => "concat"
  | .filter => "filter"
  | .forEach => "forEach"
  | .includes => "includes"
  | .indexOf => "indexOf"
  | .join => "join"
  | .map => "map"
  | .pop => "pop"
  | .push => "push"
  | .remove => "remove"
  | .reverse => "reverse"
  | .shift => "shift"
  | .slice => "slice"
  | .splice => "splice"
  | .toString => "toString"
  | .unshift => "unshift"

def ofName? (name : String) : Option ArrayMethod := all.find? (·.name == name)

end ArrayMethod

namespace Sequence

/-- Appends values, where an array among them is spread into its elements. -/
def concatSpread (vs : List Value) (args : List Value) : List Value :=
  vs ++ args.flatMap fun
    | .array ws => ws
    | v => [v]

/-- Splices as called by name: nothing without a start, and without a count everything after the
start goes. -/
def spliceCalled (vs : List Value) (args : List Value) : List Value × List Value :=
  match args with
  | [] => ([], vs)
  | [start] => splice vs start.toPosition ExtendedInt.wordMax []
  | start :: count :: items => splice vs start.toPosition count.toPosition items

end Sequence

namespace ArrayMethod

variable {σ : Type}

/-- The result of a call and the array after it. -/
abbrev Outcome := Except ScriptError Value × List Value

/-- Goes on with the first argument if it is a function; anything else is an error. The array stays
as it is. -/
def withCallback (vs args : List Value) (body : Function → StateM σ Value) :
    StateM σ Outcome := do
  match argument args 0 with
  | .function f => return (.ok (← body f), vs)
  | other => return (.error (.notCallable other), vs)

/-- Runs a method on an array. -/
def run (m : ArrayMethod) (host : Host σ) (vs args : List Value) : StateM σ Outcome :=
  let first := argument args 0
  let second := argument args 1
  match m with
  | .at => pure (.ok (Sequence.relativeElement vs first.toPosition), vs)
  | .concat => pure (.ok (.array (Sequence.concatSpread vs args)), vs)
  | .filter => withCallback vs args fun f => do
      let kept ← Sequence.filter vs fun v i => do
        let answer ← f.call host [v, .ofNat i]
        return answer.toBoolean
      return .array kept
  | .forEach => withCallback vs args fun f => do
      Sequence.forEach vs fun v i => do
        let _ ← f.call host [v, .ofNat i]
      return .undefined
  | .includes => pure (.ok (.boolean (Sequence.includes vs first)), vs)
  | .indexOf => pure (.ok (StringMethod.indexValue (Sequence.indexOf? vs first)), vs)
  | .join => pure (.ok (.string (Value.join (first.toText?.getD ",") vs)), vs)
  | .map => withCallback vs args fun f => do
      return .array (← Sequence.map vs fun v i => f.call host [v, .ofNat i])
  | .pop =>
    let (v, rest) := Sequence.pop vs
    pure (.ok v, rest)
  | .push => pure (.ok (.ofNat (vs.length + args.length)), vs ++ args)
  | .remove => pure (.ok .undefined, Sequence.remove vs first.toPosition)
  | .reverse => pure (.ok (.array vs.reverse), vs.reverse)
  | .shift =>
    let (v, rest) := Sequence.shift vs
    pure (.ok v, rest)
  | .slice =>
    pure (.ok (.array (Sequence.slice vs first.toPosition second.toPosition?)), vs)
  | .splice =>
    let (taken, rest) := Sequence.spliceCalled vs args
    pure (.ok (.array taken), rest)
  | .toString => pure (.ok (.string (Value.join "," vs)), vs)
  | .unshift => pure (.ok (.ofNat (args.length + vs.length)), args ++ vs)

end ArrayMethod

end ScriptValues
