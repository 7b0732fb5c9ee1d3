import ScriptValues.Position
import ScriptValues.Value.Equality

/-!
The operations on sequences of values that programs call on arrays. An operation that changes its
sequence returns the changed one.
-/

namespace ScriptValues

namespace Sequence

/-- The largest index that can be written to. -/
def maxIndex : Int := 2 ^ (32 : Nat) - 2

/-- The widest gap that one write past the end may fill. -/
def maxGap : Nat := 2 ^ (20 : Nat)

/-- A word of 64 bits read as a signed one. -/
def signedWord (n : Nat) : Int := if n < 2 ^ (63 : Nat) then n else n - 2 ^ (64 : Nat)

/-- Whether an index may be written to past the end. Indices are words, and the range is tested on
the signed word with the same bits. -/
def isWritable (i : Nat) : Bool := 0 ≤ signedWord i && signedWord i ≤ maxIndex

/-- The element at an index; undefined out of range. -/
def get (vs : List Value) (i : Nat) : Value := vs.getD i .undefined

/-- Writes an element. A write past the end first fills the sequence up with undefined; one that is
too far out changes nothing. -/
def set (vs : List Value) (i : Nat) (v : Value) : List Value :=
  if i < vs.length then vs.set i v
  else if !isWritable i || maxGap < i - vs.length then vs
  else (vs ++ List.replicate (i + 1 - vs.length) Value.undefined).set i v

/-- The element at a relative position; undefined out of range. -/
def relativeElement (vs : List Value) (p : Int) : Value :=
  (Position.relativeElement? vs p).getD .undefined

def push (vs : List Value) (v : Value) : List Value := vs ++ [v]

def unshift (vs : List Value) (v : Value) : List Value := v :: vs

/-- Takes the last element off; undefined from an empty sequence. -/
def pop (vs : List Value) : Value × List Value := (vs.getLast?.getD .undefined, vs.dropLast)

/-- Takes the first element off; undefined from an empty sequence. -/
def shift (vs : List Value) : Value × List Value := (vs.headD .undefined, vs.tail)

/-- Takes the element at a position out; nothing happens out of range. -/
def remove (vs : List Value) (p : Int) : List Value :=
  if p < 0 then vs else vs.eraseIdx p.toNat

/-- Puts `items` in place of `count` elements from `start` on, and gives the elements they
replace. -/
def splice (vs : List Value) (start count : Int) (items : List Value) :
    List Value × List Value :=
  let first := Position.clamped vs.length start
  let last := first + Position.clamped (vs.length - first) count
  (Position.between vs first last, vs.take first ++ items ++ vs.drop last)

def slice (vs : List Value) (start : Int) (stop? : Option Int) : List Value :=
  Position.slice vs start stop?

/-- The index of the first element strictly equal to a value. -/
def indexOf? (vs : List Value) (v : Value) : Option Nat := vs.findIdx? v.strictlyEqual

/-- Whether some element is the same value, where NaN is the same as NaN. -/
def includes (vs : List Value) (v : Value) : Bool := vs.any v.sameValueZero

def concat (vs ws : List Value) : List Value := vs ++ ws

variable {σ : Type}

/-- Visits every element with its index, in order. -/
def forEach (vs : List Value) (visit : Value → Nat → StateM σ Unit) : StateM σ Unit :=
  vs.zipIdx.forM fun (v, i) => visit v i

/-- The elements that pass a test of element and index, in order. -/
def filter (vs : List Value) (test : Value → Nat → StateM σ Bool) : StateM σ (List Value) := do
  let kept ← vs.zipIdx.filterM fun (v, i) => test v i
  return kept.map (·.1)

/-- The results of a function of element and index, in order. -/
def map (vs : List Value) (f : Value → Nat → StateM σ Value) : StateM σ (List Value) :=
  vs.zipIdx.mapM fun (v, i) => f v i

end Sequence

end ScriptValues
