import ScriptValues.Text.Invisible

/-!
Quoted texts. Quotes, backslashes and the common controls are written with a backslash, and
characters without a picture of their own by their code point, so a quoted text stays on one line.
-/

namespace ScriptValues

namespace Text

/-- A code point in braces after a backslash and the letter `u`. -/
def codePointEscape (c : Char) : List Char :=
  '\\' :: 'u' :: '\x7b' :: Numeral.natChars 16 c.toNat ++ ['\x7d']

/-- How one character is written between double quotes. -/
def escape (c : Char) : List Char :=
  match c with
  | '\x00' => ['\\', '0']
  | '\t' => ['\\', 't']
  | '\r' => ['\\', 'r']
  | '\n' => ['\\', 'n']
  | '"' => ['\\', '"']
  | '\\' => ['\\', '\\']
  | c => if isInvisible c then codePointEscape c else [c]

def quotedChars (cs : List Char) : List Char := '"' :: cs.flatMap escape ++ ['"']

/-- A text between double quotes. -/
def quoted (s : String) : String := String.ofList (quotedChars s.toList)

end Text

end ScriptValues
