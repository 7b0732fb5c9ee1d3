import ScriptValues.Double.Integer
import ScriptValues.Position
import ScriptValues.Text.Blank
import ScriptValues.Text.CodePoints
import ScriptValues.Text.Search

/-!
The operations on texts that programs call. All positions count code points.
-/

namespace ScriptValues

namespace Text

/-- The most bytes a repeated text may have. -/
def maxBytes : Nat := 2 ^ (29 : Nat) - 24

/-- The character at a relative position; counting back stays within words. -/
def relativeChar? (s : String) (p : Int) : Option Char :=
  let n := length s
  let k := if p < 0 then (ExtendedInt.ofInt (n + p)).saturate else p
  if k < 0 ∨ n ≤ k then none else codePoint? s k.toNat

/-- The index that a position in range names. -/
def placeIn? (s : String) (p : Int) : Option Nat :=
  if 0 ≤ p ∧ p.toNat < length s then some p.toNat else none

/-- The character at a position, as a text; empty out of range. -/
def charAt (s : String) (p : Int) : String :=
  (((placeIn? s p).bind (codePoint? s)).map .singleton).getD ""

/-- The code point at a position. -/
def codePointAt? (s : String) (p : Int) : Option Nat :=
  ((placeIn? s p).bind (codePoint? s)).map (·.toNat)

/-- The code point at a position, as a number; NaN out of range. -/
def charCodeAt (s : String) (p : Int) : Double := ((codePointAt? s p).map .ofNat).getD .nan

def startsWith (s search : String) : Bool := (bytes search).isPrefixOf (bytes s)

def endsWith (s search : String) : Bool := (bytes search).isSuffixOf (bytes s)

def includes (s search : String) : Bool := (findFrom (bytes search) 0 (bytes s)).isSome

/-- The place of the first occurrence at a position or after it. Bytes are searched, from the offset
of the position on, and what is found is counted in code points again. -/
def indexOf? (s search : String) (position : Int) : Option Nat :=
  let start := byteOffset s (Position.clamped (length s) position)
  let rest := (cut? s start s.utf8ByteSize).getD ""
  (findFrom (bytes search) 0 (bytes rest)).map fun found => codePointIndex s (start + found)

/-- The text so many times over, if that is not too long. A negative count means none. -/
def times? (s : String) (count : Int) : Option String :=
  if count ≤ 0 then some ""
  else if s.isEmpty ∨ count = 1 then some s
  else if s.utf8ByteSize * count.toNat ≤ maxBytes then
    some (String.join (List.replicate count.toNat s))
  else none

/-- The text between two relative positions; empty when they are crossed. -/
def slice (s : String) (start : Int) (stop? : Option Int) : String :=
  let n := length s
  let first := Position.relative n start
  let last := stop?.elim n (Position.relative n)
  if last ≤ first then "" else codePointsBetween s first last

/-- The text between two positions, in whichever order they are given. -/
def substring (s : String) (start : Int) (stop? : Option Int) : String :=
  let n := length s
  let a := Position.clamped n start
  let b := Position.clamped n (stop?.getD n)
  codePointsBetween s (min a b) (max a b)

/-- The parts between the occurrences of a separator; the whole text without one. -/
def parts (s : String) (separator? : Option String) : List String :=
  match separator? with
  | none => [s]
  | some separator => (split separator.toList s.toList).map String.ofList

def trimmed (s : String) : String := String.ofList (trim s.toList)

def trimmedStart (s : String) : String := String.ofList (trimStart s.toList)

def trimmedEnd (s : String) : String := String.ofList (trimEnd s.toList)

end Text

end ScriptValues
