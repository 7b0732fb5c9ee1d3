import Std.Data.HashMap
import ScriptValues.Numeral

/-!
Compact tables of code points. A table is a list of rows, and a row is a text of entries with a
blank between them. Numbers are hexadecimal; `A-B` is a range, `A-B/2` every second code point of
one, and `=` is followed by what the entry assigns, with a plus sign between several numbers.
-/

namespace ScriptValues

namespace CodeTable

/-- A range of code points, `step` apart, with the numbers assigned to it. -/
structure Entry where
  first : Nat
  last : Nat
  step : Nat
  assigned : List Nat

/-- Cuts a text at every occurrence of a character. -/
def fields (separator : Char) (cs : List Char) : List (List Char) :=
  cs.foldr
    (fun c parts =>
      if c = separator then [] :: parts
      else match parts with
        | [] => [[c]]
        | part :: later => (c :: part) :: later)
    [[]]

def hexadecimal (cs : List Char) : Nat :=
  Numeral.value 16 (cs.filterMap (Numeral.digitValue? 16))

def readRange (assigned : List Nat) (cs : List Char) : Entry :=
  let (bounds, step) := match fields '/' cs with
    | [bounds, step] => (bounds, hexadecimal step)
    | _ => (cs, 1)
  match fields '-' bounds with
  | [first, last] => ⟨hexadecimal first, hexadecimal last, step, assigned⟩
  | _ => ⟨hexadecimal bounds, hexadecimal bounds, step, assigned⟩

def readEntry (cs : List Char) : Entry :=
  match fields '=' cs with
  | [range, assigned] => readRange ((fields '+' assigned).map hexadecimal) range
  | _ => readRange [] cs

def entries (table : List String) : List Entry :=
  table.flatMap fun row => (fields ' ' row.toList).map readEntry

/-- Whether a code point lies in one of some ascending ranges. -/
def covers : List Entry → Nat → Bool
  | [], _ => false
  | e :: later, n => e.first ≤ n && (n ≤ e.last || covers later n)

/-- The texts that a table assigns to code points. A range with one number maps to a run of
characters that starts there. -/
def texts (table : List String) : Std.HashMap Nat (List Char) :=
  (entries table).foldl
    (fun map e =>
      (List.range ((e.last - e.first) / e.step + 1)).foldl
        (fun map i =>
          let shift := i * e.step
          map.insert (e.first + shift)
            (e.assigned.map fun target => Char.ofNat (target + shift)))
        map)
    ∅

/-- The numbers that a table assigns to code points, one number for a whole range. -/
def numbers (table : List String) : Std.HashMap Nat Nat :=
  (entries table).foldl
    (fun map e =>
      (List.range (e.last - e.first + 1)).foldl
        (fun map i => map.insert (e.first + i) (e.assigned.headD 0))
        map)
    ∅

end CodeTable

end ScriptValues
