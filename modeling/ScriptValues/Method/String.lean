import ScriptValues.Globals
import ScriptValues.ScriptError
import ScriptValues.Text.LetterCase
import ScriptValues.Text.Normalizer
import ScriptValues.Text.Operations

/-!
The methods of strings by name. Arguments are converted to texts or positions; one that is missing
counts as undefined.
-/

namespace ScriptValues

inductive StringMethod
  | at
  | charAt
  | charCodeAt
  | codePointAt
  | concat
  | endsWith
  | includes
  | indexOf
  | normalize
  | repeat
  | slice
  | split
  | startsWith
  | substring
  | toLowerCase
  | toString
  | toUpperCase
  | trim
  | trimEnd
  | trimStart
  | valueOf
  deriving DecidableEq, Repr

namespace StringMethod

def all : List StringMethod :=
  [.at, .charAt, .charCodeAt, .codePointAt, .concat, .endsWith, .includes, .indexOf, .normalize,
    .repeat, .slice, .split, .startsWith, .substring, .toLowerCase, .toString, .toUpperCase, .trim,
    .trimEnd, .trimStart, .valueOf]

def name : StringMethod → String
  | .at => "at"
  | .charAt => "charAt"
  | .charCodeAt => "charCodeAt"
  | .codePointAt => "codePointAt"
  | .concat => "concat"
  | .endsWith => "endsWith"
  | .includes => "includes"
  | .indexOf => "indexOf"
  | .normalize => "normalize"
  | .repeat => "repeat"
  | .slice => "slice"
  | .split => "split"
  | .startsWith => "startsWith"
  | .substring => "substring"
  | .toLowerCase => "toLowerCase"
  | .toString => "toString"
  | .toUpperCase => "toUpperCase"
  | .trim => "trim"
  | .trimEnd => "trimEnd"
  | .trimStart => "trimStart"
  | .valueOf => "valueOf"

def ofName? (name : String) : Option StringMethod := all.find? (·.name == name)

end StringMethod

/-- A text that may be left out: undefined means none. -/
def Value.toText? (v : Value) : Option String :=
  match v with
  | .undefined => none
  | v => some v.text

namespace Text

/-- A text followed by the texts of some values. -/
def concat (s : String) (args : List Value) : String :=
  args.foldl (fun line v => line ++ v.text) s

/-- A text in the normal form of a given name, the composed canonical one without a name. An
unknown name leaves the text as it is. -/
def normalizeNamed (s : String) (name? : Option String) (normalizer : Normalizer := .standard) :
    String :=
  match name?.elim (some .nfc) NormalForm.ofName? with
  | some form => (normalizer.change? form s).getD s
  | none => s

/-- It makes no difference that texts which are surely in the form already are left alone. -/
theorem normalizeNamed_eq {normalizer : Normalizer} (h : normalizer.Documented) (s : String)
    (name? : Option String) :
    normalizeNamed s name? normalizer =
      ((name?.elim (some .nfc) NormalForm.ofName?).map (normalizer.normalized · s)).getD s := by
  rw [normalizeNamed]
  split
  · next form hform => simp only [hform, h.getD_change?, Option.map_some, Option.getD_some]
  · next hnone => rw [hnone, Option.map_none, Option.getD_none]

/-- The text so many times over. Negative and infinite counts are errors, and so is a text that
would be too long. -/
def timesOrError (s : String) (count : ExtendedInt) : Except ScriptError String :=
  if count = .posInfinity ∨ count.saturate < 0 then .error (.badCount count)
  else match times? s count.saturate with
    | some repeated => .ok repeated
    | none => .error .textTooLong

/-- The parts of a text as values, no more than a limit that is given. -/
def splitValues (s : String) (separator? : Option String) (limit : Value) : List Value :=
  let values := (parts s separator?).map Value.string
  match limit with
  | .undefined => values
  | limit => values.take limit.toUint32

end Text

namespace StringMethod

/-- The value of an index that was found, or minus one. -/
def indexValue (found? : Option Nat) : Value := (found?.map .ofNat).getD (.ofInt (-1))

def run (m : StringMethod) (s : String) (args : List Value) : Except ScriptError Value :=
  let first := argument args 0
  let second := argument args 1
  match m with
  | .at =>
    .ok (((Text.relativeChar? s first.toPosition).map (.string ∘ .singleton)).getD .undefined)
  | .charAt => .ok (.string (Text.charAt s first.toPosition))
  | .charCodeAt => .ok (.number (Text.charCodeAt s first.toPosition))
  | .codePointAt => .ok (((Text.codePointAt? s first.toPosition).map .ofNat).getD .undefined)
  | .concat => .ok (.string (Text.concat s args))
  | .endsWith => .ok (.boolean (Text.endsWith s first.text))
  | .includes => .ok (.boolean (Text.includes s first.text))
  | .indexOf => .ok (indexValue (Text.indexOf? s first.text second.toPosition))
  | .normalize => .ok (.string (Text.normalizeNamed s first.toText?))
  | .repeat => (Text.timesOrError s first.toExtendedInt).map .string
  | .slice => .ok (.string (Text.slice s first.toPosition second.toPosition?))
  | .split => .ok (.array (Text.splitValues s first.toText? second))
  | .startsWith => .ok (.boolean (Text.startsWith s first.text))
  | .substring => .ok (.string (Text.substring s first.toPosition second.toPosition?))
  | .toLowerCase => .ok (.string (Text.lowerCase s))
  | .toUpperCase => .ok (.string (Text.upperCase s))
  | .trim => .ok (.string (Text.trimmed s))
  | .trimEnd => .ok (.string (Text.trimmedEnd s))
  | .trimStart => .ok (.string (Text.trimmedStart s))
  | .toString | .valueOf => .ok (.string s)

end StringMethod

end ScriptValues
