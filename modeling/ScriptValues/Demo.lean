import ScriptValues.Console
import ScriptValues.Invocation

/-!
A small program over the values of the language, which shows coercions, array and string methods and
a timer at work.
-/

namespace ScriptValues

namespace Demo

/-- A host without functions of its own. -/
def host : Host Unit := fun _ _ => pure .undefined

/-- Calls a method and gives its result and the receiver after it. -/
def method (receiver : Value) (name : String) (args : List Value) :
    Except ScriptError (Value × Value) := do
  let called := (receiver.invoke name args host ()).1
  return (← called.result, called.receiver)

/-- Calls a method for its result only. -/
def answer (receiver : Value) (name : String) (args : List Value) : Except ScriptError Value := do
  return (← method receiver name args).1

/-- Calls a global function. -/
def global (name : String) (args : List Value) : Except ScriptError Value :=
  ((lookupGlobal name .first).1.call args host ()).1

/-- A string as it is, and anything else plus one. -/
def incremented (v : Value) : Value :=
  if v.typeName = "string" then v else v.add (.ofNat 1)

/-- The double nearest to the ratio of a circle to its diameter. -/
def pi : Double := .ofDecimal false 3141592653589793 (-15)

/-- The values that each line of the program shows. -/
def lines : Except ScriptError (List (List Value)) := do
  let (_, grown) ← method (.array [.ofNat 1, .ofNat 2, .ofNat 3]) "push" [.ofNat 4, .ofNat 5]
  let (removed, list) ← method grown "splice" [.ofNat 1, .ofNat 2, .string "x"]
  let trimmed ← answer (.string "  Hello, World  ") "trim" []
  return [
    [incremented (.string "hello")],
    [incremented (.ofNat 41)],
    [incremented .null],
    [(Value.string "1").add (.ofNat 2), (Value.ofNat 1).add (.ofNat 2)],
    [.string "123 == 123:", .boolean ((Value.string "123").looselyEqual (.ofNat 123))],
    [list, removed],
    [← answer list "join" [.string " | "]],
    [← answer (.number pi) "toFixed" [.ofNat 2], ← answer (.number pi) "toPrecision" [.ofNat 3],
      ← answer (.number pi) "toExponential" [.ofNat 1]],
    [← answer trimmed "toUpperCase" [], ← answer trimmed "slice" [.ofInt (-5)],
      ← trimmed.property "length"],
    [← global "parseInt" [.string "0x1f"], ← global "parseInt" [.string "42px", .ofNat 10],
      ← global "parseFloat" [.string "3.5e1 apples"]]]

/-- What the program prints between two clock readings. -/
def run (options : ConsoleOptions) (started stopped : Nat) :
    Except ScriptError (List Printed) := do
  let console := (Console.new options).time none started
  let logged := (← lines).flatMap fun args => (console.perform (.log args) started).printed
  let ended := console.timeEnd none stopped
  let _ ← ended.result
  return logged ++ ended.printed

end Demo

end ScriptValues
