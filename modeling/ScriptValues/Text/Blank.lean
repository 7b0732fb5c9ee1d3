/-!
Two sets of blank characters and trimming. The language trims one set around texts; between the
words of a literal the other one separates.
-/

namespace ScriptValues

namespace Text

/-- Blanks that trimming and number reading remove: spaces, tabs, line ends and the byte order
mark. -/
def isTrimmable (c : Char) : Bool :=
  let n := c.toNat
  (0x9 ≤ n && n ≤ 0xD) || n == 0x20 || n == 0xA0 || n == 0x1680 || (0x2000 ≤ n && n ≤ 0x200A)
    || n == 0x2028 || n == 0x2029 || n == 0x202F || n == 0x205F || n == 0x3000 || n == 0xFEFF

/-- Characters with the white space property: the trimmable ones without the byte order mark, and
the next-line control. -/
def isWhiteSpace (c : Char) : Bool :=
  (isTrimmable c && c.toNat != 0xFEFF) || c.toNat == 0x85

def trimStart (cs : List Char) : List Char := cs.dropWhile isTrimmable

def trimEnd (cs : List Char) : List Char := (cs.reverse.dropWhile isTrimmable).reverse

/-- A text without the blanks at both ends. -/
def trim (cs : List Char) : List Char := trimEnd (trimStart cs)

end Text

end ScriptValues
