import ScriptValues.Numeral

/-!
The library that writes whole numbers of 64 bits in a base. Its letters are upper case, so whoever
wants the other ones has to change them.
-/

namespace ScriptValues

/-- A library that writes whole numbers. -/
structure IntegerWriter where
  /-- The numeral of a number in a base. -/
  write : (base n : Nat) → List Char

namespace IntegerWriter

/-- The library that whole numbers are written with. -/
def standard : IntegerWriter where
  write base n := (Numeral.natChars base n).map Char.toUpper

end IntegerWriter

end ScriptValues
