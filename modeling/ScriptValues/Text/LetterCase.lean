import ScriptValues.Text.CodeTable
import ScriptValues.Text.LetterCase.Tables

/-!
Lower and upper case of texts, with mappings to several characters and the two lower case forms of
the letter sigma.
-/

namespace ScriptValues

namespace Text

def lowerCaseMap : Std.HashMap Nat (List Char) := CodeTable.texts lowerCaseTable

def upperCaseMap : Std.HashMap Nat (List Char) := CodeTable.texts upperCaseTable

def casedRanges : List CodeTable.Entry := CodeTable.entries casedTable

def caseIgnorableRanges : List CodeTable.Entry := CodeTable.entries caseIgnorableTable

/-- Whether the first character that counts for case is a letter with case. -/
def startsCased (cs : List Char) : Bool :=
  match cs.dropWhile (fun c => CodeTable.covers caseIgnorableRanges c.toNat) with
  | [] => false
  | c :: _ => CodeTable.covers casedRanges c.toNat

/-- The capital sigma. -/
def capitalSigma : Char := '\u03a3'

/-- The lower case of one character between the text before it, read backward, and the text after
it. A sigma that ends a word has a form of its own. -/
def lowerCaseAt (before after : List Char) (c : Char) : List Char :=
  if c = capitalSigma then
    if startsCased before && !startsCased after then ['\u03c2'] else ['\u03c3']
  else (lowerCaseMap[c.toNat]?).getD [c]

/-- The lower case of a text whose beginning is already done; `before` is read backward. -/
def lowerCaseFrom (before done : List Char) : List Char → List Char
  | [] => done.reverse
  | c :: after =>
    lowerCaseFrom (c :: before) ((lowerCaseAt before after c).reverse ++ done) after

def lowerCase (s : String) : String := String.ofList (lowerCaseFrom [] [] s.toList)

def upperCase (s : String) : String :=
  String.ofList (s.toList.flatMap fun c => (upperCaseMap[c.toNat]?).getD [c])

end Text

end ScriptValues
