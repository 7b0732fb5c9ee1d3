import ScriptValues.Text.CodePoints
import ScriptValues.Value.Coercion

/-!
The notation of values as literals: words and numbers, quoted strings, and bracketed lists. Reading
takes the whole text; a failure tells what was missing and the byte offset where.
-/

namespace ScriptValues

/-- What is wrong with a text that is no literal. -/
inductive LiteralProblem
  | expectedLiteral
  | unterminatedString
  | expectedSeparator
  | notALiteral
  | trailingInput
  deriving DecidableEq, Repr

def LiteralProblem.message : LiteralProblem → String
  | .expectedLiteral => "expected a literal"
  | .unterminatedString => "unterminated string"
  | .expectedSeparator => "expected ',' or ']'"
  | .notALiteral => "not a literal"
  | .trailingInput => "unexpected trailing input"

/-- A problem and its place, counted in bytes from the start. -/
structure LiteralError where
  problem : LiteralProblem
  offset : Nat
  deriving DecidableEq, Repr

def LiteralError.message (e : LiteralError) : String :=
  e.problem.message ++ " at offset " ++ Numeral.natText e.offset

namespace Literal

/-- What ends a reading before its value: a problem of the text, an offset inside of a character, or
a bound on the repetitions of a loop. -/
inductive Interruption
  | problem (e : LiteralError)
  | insideCharacter (offset : Nat)
  | boundReached
  deriving DecidableEq, Repr

/-- A reading moves through a text; its place is counted in bytes. -/
abbrev Reader := StateT Nat (Except Interruption)

/-- The character that a backslash and a character stand for. -/
def unescape : Char → Char
  | 'n' => '\n'
  | 't' => '\t'
  | c => c

/-- Words end at blanks, commas and closing brackets. -/
def isWordChar (c : Char) : Bool := !(Text.isWhiteSpace c || c == ',' || c == ']')

/-- The value of a word: one of the keywords, or a number. -/
def wordValue? (word : List Char) : Option Value :=
  if word = "undefined".toList then some .undefined
  else if word = "null".toList then some .null
  else if word = "true".toList then some (.boolean true)
  else if word = "false".toList then some (.boolean false)
  else if word = "NaN".toList then some (.number .nan)
  else
    let x := NumericText.toNumber word
    if x.isNaN then none else some (.number x)

namespace Reader

variable (source : String)

def fail {α : Type} (problem : LiteralProblem) : Reader α := do
  throw (.problem ⟨problem, ← get⟩)

/-- The next character; none at the end of the text. -/
def peek : Reader (Option Char) := do
  let offset ← get
  if h : String.Pos.Raw.IsValid source ⟨offset⟩ then
    return (source.pos ⟨offset⟩ h).get?
  else throw (.insideCharacter offset)

/-- Takes the next character. -/
def bump : Reader (Option Char) := do
  match ← peek source with
  | none => return none
  | some c =>
    modify (· + c.utf8Size)
    return some c

/-- Passes over the characters with a property. -/
def skipWhile (test : Char → Bool) : (bound : Nat) → Reader Unit
  | 0 => throw .boundReached
  | bound + 1 => do
    if (← peek source).any test then
      let _ ← bump source
      skipWhile test bound

/-- The text passed over since an earlier place. -/
def textSince (start : Nat) : Reader String := do
  let offset ← get
  match Text.cut? source start offset with
  | some text => return text
  | none => throw (.insideCharacter offset)

/-- Reads the rest of a string after the part `text` of it. -/
def string (quote : Char) (text : String) : (bound : Nat) → Reader Value
  | 0 => throw .boundReached
  | bound + 1 => do
    match ← bump source with
    | none => fail .unterminatedString
    | some '\\' =>
      match ← bump source with
      | none => fail .unterminatedString
      | some c => string quote (text.push (unescape c)) bound
    | some c =>
      if c = quote then return .string text else string quote (text.push c) bound

/-- Reads a word. Where no word stands, the empty word is read. -/
def word (bound : Nat) : Reader Value := do
  let start ← get
  skipWhile source isWordChar bound
  match wordValue? (← textSince source start).toList with
  | some v => return v
  | none => throw (.problem ⟨.notALiteral, start⟩)

/-- Reads a list that starts here; `elements` reads what stands in it up to the closing bracket. -/
def list (bound : Nat) (elements : Reader Value) : Reader Value := do
  let _ ← bump source
  skipWhile source Text.isWhiteSpace bound
  if (← peek source) = some ']' then
    let _ ← bump source
    return .array []
  else elements

mutual

/-- Reads a value after blanks. The bound is on nested and successive readings. -/
def value : (bound : Nat) → Reader Value
  | 0 => throw .boundReached
  | bound + 1 => do
    skipWhile source Text.isWhiteSpace bound
    match ← peek source with
    | none => fail .expectedLiteral
    | some c =>
      if c = '[' then list source bound (elements [] bound)
      else if c = '"' ∨ c = '\'' then
        let _ ← bump source
        string source c "" bound
      else word source bound

/-- Reads the elements of a list up to its closing bracket; `read` holds those before, backward. -/
def elements (read : List Value) : (bound : Nat) → Reader Value
  | 0 => throw .boundReached
  | bound + 1 => do
    let v ← value bound
    skipWhile source Text.isWhiteSpace bound
    match ← bump source with
    | some ',' => elements (v :: read) bound
    | some ']' => return .array (v :: read).reverse
    | _ => fail .expectedSeparator

end

/-- Reads a value with nothing but blanks after it. -/
def whole (bound : Nat) : Reader Value := do
  let v ← value source bound
  skipWhile source Text.isWhiteSpace bound
  if (← get) = source.utf8ByteSize then return v else fail .trailingInput

end Reader

/-- Reads a whole text as one literal. Twice its length bounds all loops, and no offset is inside of
a character. -/
def read (source : String) : Except LiteralError Value :=
  match (Reader.whole source (2 * source.length + 2)).run 0 with
  | .ok (v, _) => .ok v
  | .error (.problem e) => .error e
  | .error _ => .error ⟨.expectedLiteral, 0⟩

end Literal

end ScriptValues
