import ScriptValues.Double.Integer

/-!
Positions in a list given as integers. A relative position counts back from the end when it is
negative, and every bound is kept within the list.
-/

namespace ScriptValues

namespace Position

variable {α : Type}

/-- A position kept within a list of this length. -/
def clamped (length : Nat) (p : Int) : Nat := min p.toNat length

/-- A relative position kept within a list of this length. -/
def relative (length : Nat) (p : Int) : Nat :=
  if p < 0 then length - p.natAbs else min p.toNat length

/-- The element at a position that is in range. -/
def element? (xs : List α) (p : Int) : Option α := if p < 0 then none else xs[p.toNat]?

/-- The element at a relative position that is in range; counting back stays within words. -/
def relativeElement? (xs : List α) (p : Int) : Option α :=
  element? xs (if p < 0 then (ExtendedInt.ofInt (xs.length + p)).saturate else p)

/-- The elements from one place to another; none when the places are crossed. -/
def between (xs : List α) (first last : Nat) : List α := (xs.take last).drop first

/-- The elements between two relative positions, to the end without a second one. -/
def slice (xs : List α) (start : Int) (stop? : Option Int) : List α :=
  between xs (relative xs.length start) (stop?.elim xs.length (relative xs.length))

end Position

end ScriptValues
