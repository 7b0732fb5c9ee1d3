import ScriptValues.Demo
import ScriptValues.Inspection
import ScriptValues.Literal

/-!
The command line: which command its words ask for, and what each command prints.
-/

namespace ScriptValues

/-- What can be asked for on the command line. -/
inductive Command
  | demo (verbose : Bool)
  | inspect (literals : List String)
  | add (left right : String)
  | eq (left right : String)
  deriving DecidableEq, Repr

namespace Command

/-- Words sorted into options and operands. -/
structure Words where
  options : List String
  operands : List String

/-- A word with a dash in front is an option, unless the dash is all there is. -/
def isOption (word : String) : Bool := word.toList.head? == some '-' && word != "-"

/-- Sorts words; after two dashes all are operands. -/
def sortWords : List String → Words
  | [] => ⟨[], []⟩
  | word :: words =>
    if word = "--" then ⟨[], words⟩
    else
      let later := sortWords words
      if isOption word then { later with options := word :: later.options }
      else { later with operands := word :: later.operands }

/-- The command that some words ask for; none when they are not understood. -/
def ofWords? : List String → Option Command
  | [] => none
  | name :: words =>
    match name, sortWords words with
    | "demo", ⟨[], []⟩ => some (.demo false)
    | "demo", ⟨[option], []⟩ =>
      if option = "-v" ∨ option = "--verbose" then some (.demo true) else none
    | "inspect", ⟨[], literal :: literals⟩ => some (.inspect (literal :: literals))
    | "add", ⟨[], [left, right]⟩ => some (.add left right)
    | "eq", ⟨[], [left, right]⟩ => some (.eq left right)
    | _, _ => none

end Command

/-- The line that tells how a text fails to be a literal. -/
def LiteralError.report (e : LiteralError) : String :=
  "Error: LiteralError \x7b message: \"" ++ e.problem.message ++ "\", offset: "
    ++ Numeral.natText e.offset ++ " \x7d"

/-- What a command prints and the exit code it ends with. -/
structure Report where
  exit : UInt32
  output : List Line
  errors : List String

namespace Report

/-- Everything went well. -/
def success (output : List Line) : Report := ⟨0, output, []⟩

/-- A command ends at a text that is no literal, after what it printed before. -/
def failure (output : List Line) (e : LiteralError) : Report := ⟨1, output, [e.report]⟩

/-- What appears on standard output: every line with a line end. -/
def printed (r : Report) : String := String.join (r.output.map fun line => line.render ++ "\n")

end Report

namespace Command

/-- Inspects literals in order up to the first text that is none. -/
def inspectAll (printed : List Line) : List String → Report
  | [] => .success printed
  | literal :: literals =>
    match Literal.read literal with
    | .error e => .failure printed e
    | .ok v => inspectAll (printed ++ v.inspection.map .text) literals

/-- Prints what follows from two operands; the left one is read first. -/
def onOperands (left right : String) (lines : Value → Value → List String) : Report :=
  match Literal.read left with
  | .error e => .failure [] e
  | .ok v =>
    match Literal.read right with
    | .error e => .failure [] e
    | .ok w => .success ((lines v w).map .text)

/-- The sum of two values. -/
def sumLines (v w : Value) : List String := [(v.add w).shown]

/-- Whether two values are loosely and whether they are strictly equal. -/
def equalityLines (v w : Value) : List String :=
  ["==  " ++ (Value.boolean (v.looselyEqual w)).text,
    "=== " ++ (Value.boolean (v.strictlyEqual w)).text]

/-- Runs a command. The clock readings are for the timer of the sample program. -/
def run (command : Command) (started stopped : Nat) : Report :=
  match command with
  | .demo verbose =>
    match Demo.run { ConsoleOptions.default with showsInternals := verbose } started stopped with
    | .ok printed =>
      { Report.success (printed.filter (·.stream = .output) |>.map (·.line)) with
        errors := printed.filter (·.stream = .errors) |>.map (·.line.render) }
    | .error e => ⟨1, [], ["Error: " ++ e.display]⟩
  | .inspect literals => inspectAll [] literals
  | .add left right => onOperands left right sumLines
  | .eq left right => onOperands left right equalityLines

end Command

end ScriptValues
