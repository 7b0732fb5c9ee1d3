import ScriptValues.Double
import ScriptValues.Numeral

/-!
Decimal places in groups of nine, kept in rows. A row holds the magnitudes whose binary fractions
have one of sixteen lengths, and starts at the first group in which one of them can have a digit.
The rows stand one after another, so the groups in front of a row are those that end the row before
it, where the same significand stands for a magnitude 2^16 times as large.
-/

namespace ScriptValues

namespace Magnitude

/-- The decimal places in a group. -/
def groupWidth : Nat := 9

/-- The lengths of binary fractions that share a row. -/
def rowHeight : Nat := 16

/-- The length of the binary fraction that writes a magnitude with its significand. -/
def binaryPlaces (m : Magnitude) : Nat := 1074 - m.shift

/-- The row of a magnitude. -/
def row (m : Magnitude) : Nat := m.binaryPlaces / rowHeight

/-- The groups at the start that are zero in every magnitude of a row. A significand is below 2^53,
so all of them are below `2 ^ 53 / 2 ^ (16 * row)`. -/
def emptyGroups (row : Nat) : Nat :=
  ((Numeral.digits 10 (2 ^ (rowHeight * row - 53))).length - 1) / groupWidth

/-- The last group of a row. Its longest binary fraction, of `16 * row + 15` places, has no digit
after this group. -/
def lastGroup (row : Nat) : Nat := (rowHeight * row + 15) / groupWidth

/-- A group of decimal places of a magnitude's significand in the row before its own. -/
def groupInRowBefore (m : Magnitude) (group : Nat) : List Nat :=
  let scaled := m.units * 2 ^ rowHeight * 10 ^ (groupWidth * (group + 1))
  Numeral.padded groupWidth (Numeral.digits 10 (scaled / Magnitude.one % 10 ^ groupWidth))

/-- The places in front of a magnitude's row, as many as the row has empty groups for. -/
def placesBeforeRow (m : Magnitude) : List Nat :=
  let count := emptyGroups m.row
  let first := lastGroup (m.row - 1) + 1 - count
  (List.range count).flatMap fun k => m.groupInRowBefore (first + k)

/-- What stands in the empty groups of a magnitude that is written with this many places: nothing
while all places lie in empty groups, and then the places in front of its row. -/
def leadingGroups (m : Magnitude) (places : Nat) : List Nat :=
  if places / groupWidth < emptyGroups m.row then [] else m.placesBeforeRow

end Magnitude

end ScriptValues
