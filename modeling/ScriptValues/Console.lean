import ScriptValues.Decimal.Fixed
import ScriptValues.ScriptError

/-!
The console: lines of values for the host to print, and timers by label. A console is plain data; a
call gives the lines it prints and the console after it.
-/

namespace ScriptValues

structure ConsoleOptions where
  separator : String
  showsInternals : Bool
  deriving DecidableEq

namespace ConsoleOptions

/-- Values are separated by a blank and converted to text. -/
def default : ConsoleOptions := ⟨" ", false⟩

end ConsoleOptions

/-- Where a line goes. -/
inductive Stream
  | output
  | errors
  deriving DecidableEq, Repr

/-- A printed line: a text, or the time a timer has run. -/
inductive Line
  | text (s : String)
  | timing (label : String) (nanoseconds : Nat)
  deriving DecidableEq, Repr

/-- The nanoseconds in a second. -/
def secondLength : Nat := 10 ^ (9 : Nat)

/-- A time in seconds as a double: the whole seconds and, divided as a double, what is left. -/
def asSeconds (nanoseconds : Nat) : Double :=
  let rest := (Double.ofNat (nanoseconds % secondLength)).div (.ofNat secondLength)
  (Double.ofNat (nanoseconds / secondLength)).add rest

/-- The text of a line. Times are in milliseconds with three decimal places; they are doubles, so
each step towards them is rounded. -/
def Line.render : Line → String
  | .text s => s
  | .timing label nanoseconds =>
    label ++ ": " ++ ((asSeconds nanoseconds).mul (.ofNat 1000)).placed 3 ++ "ms"

@[simp]
theorem Line.render_text (s : String) : (Line.text s).render = s := by rw [Line.render]

structure Printed where
  stream : Stream
  line : Line
  deriving DecidableEq, Repr

/-- A host without a stream for errors prints them with everything else. -/
def Printed.merged (p : Printed) : Printed := { p with stream := .output }

/-- A console with its running timers and the clock readings they started at. -/
structure Console where
  options : ConsoleOptions
  timers : List (String × Nat)

/-- What programs ask of a console. -/
inductive ConsoleCall
  | log (args : List Value)
  | info (args : List Value)
  | debug (args : List Value)
  | warn (args : List Value)
  | error (args : List Value)
  | format (args : List Value)
  | time (label? : Option Value)
  | timeEnd (label? : Option Value)

/-- What a call gives: the console after it, the lines it prints, and its answer, which is a text
only when lines are formatted without printing. -/
structure ConsoleAnswer where
  console : Console
  printed : List Printed
  result : Except ScriptError (Option String)

namespace Console

/-- A console without running timers. -/
def new (options : ConsoleOptions) : Console := ⟨options, []⟩

/-- The form in which values appear on this console. -/
def valueText (c : Console) (v : Value) : String :=
  if c.options.showsInternals then v.shown else v.text

/-- The texts of values in one line. -/
def format (c : Console) (args : List Value) : String :=
  c.options.separator.intercalate (args.map c.valueText)

/-- The text of a timer's label; without one, or with undefined, it is `default`. -/
def labelText : Option Value → String
  | none | some .undefined => "default"
  | some v => v.text

/-- The console without a timer. -/
def dropTimer (c : Console) (label : String) : Console :=
  { c with timers := c.timers.filter (·.1 != label) }

/-- The reading at which a running timer started. -/
def startOf? (c : Console) (label : String) : Option Nat :=
  (c.timers.find? (·.1 == label)).map (·.2)

/-- Starts a timer, anew if it is running. -/
def time (c : Console) (label? : Option Value) (now : Nat) : Console :=
  let label := labelText label?
  { c with timers := (label, now) :: (c.dropTimer label).timers }

/-- Stops a timer and prints its time. One that is not running is an error, which is printed too. -/
def timeEnd (c : Console) (label? : Option Value) (now : Nat) : ConsoleAnswer :=
  let label := labelText label?
  match c.startOf? label with
  | some start => ⟨c.dropTimer label, [⟨.output, .timing label (now - start)⟩], .ok none⟩
  | none =>
    let error := ScriptError.missingTimer label
    ⟨c, [⟨.errors, .text error.message⟩], .error error⟩

/-- Answers a call at a clock reading. -/
def perform (c : Console) (call : ConsoleCall) (now : Nat) : ConsoleAnswer :=
  match call with
  | .log args | .info args | .debug args => ⟨c, [⟨.output, .text (c.format args)⟩], .ok none⟩
  | .warn args | .error args => ⟨c, [⟨.errors, .text (c.format args)⟩], .ok none⟩
  | .format args => ⟨c, [], .ok (some (c.format args))⟩
  | .time label? => ⟨c.time label? now, [], .ok none⟩
  | .timeEnd label? => c.timeEnd label? now

end Console

end ScriptValues
