import ScriptValues.Decimal.Literal
import ScriptValues.Double.Arithmetic

/-!
The library that turns decimal text into doubles. It takes decimal literals, and also words for
infinity and NaN in either case of the letters, which are no numbers of the language. Whoever asks
it has to look at what it took.
-/

namespace ScriptValues

/-- A library that reads decimal numbers. -/
structure DecimalReader where
  /-- The number that a whole text stands for. -/
  whole? : List Char → Option Double
  /-- The number at the start of a text, and how many characters of the text it takes. -/
  start? : List Char → Option (Double × Nat)

namespace DecimalReader

/-- The words of the library in lower case, the longest first. -/
def words : List (List Char × Double) :=
  [(['i', 'n', 'f', 'i', 'n', 'i', 't', 'y'], .infinite false),
    (['i', 'n', 'f'], .infinite false), (['n', 'a', 'n'], .nan)]

/-- Whether a text is a word, in either case of the letters. -/
def isSpelling (word cs : List Char) : Bool := cs.map Char.toLower == word

/-- The word at the start of a text, after an optional sign. -/
def wordStart? (cs : List Char) : Option (Double × Nat) :=
  let (negative, unsigned) := DecimalLiteral.scanSign cs
  match words.find? fun (word, _) => isSpelling word (unsigned.take word.length) with
  | some (word, x) =>
    some (if negative then x.neg else x, cs.length - unsigned.length + word.length)
  | none => none

/-- The longest literal at the start of a text, and without one a word. -/
def literalOrWord? (cs : List Char) : Option (Double × Nat) :=
  match DecimalLiteral.scan? cs with
  | some (literal, rest) => some (literal.value, cs.length - rest.length)
  | none => wordStart? cs

/-- The library that number texts are read with. -/
def standard : DecimalReader where
  whole? cs := (literalOrWord? cs).bind fun (x, count) => if count = cs.length then some x else none
  start? := literalOrWord?

/-- A literal at the start of a text is read. -/
theorem start?_of_scan? {cs rest : List Char} {literal : DecimalLiteral}
    (h : DecimalLiteral.scan? cs = some (literal, rest)) :
    standard.start? cs = some (literal.value, cs.length - rest.length) := by
  simp only [standard, literalOrWord?, h]

/-- A literal that is the whole text is read. -/
theorem whole?_of_scan? {cs : List Char} {literal : DecimalLiteral}
    (h : DecimalLiteral.scan? cs = some (literal, [])) :
    standard.whole? cs = some literal.value := by
  simp [standard, literalOrWord?, h]

end DecimalReader

end ScriptValues
