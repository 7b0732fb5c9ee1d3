import ScriptValues.Double.Arithmetic

/-!
Doubles as integers: the whole part as an exact integer or an infinity, its 64-bit saturation, and
its residues modulo 2^32, which are taken in the arithmetic of doubles.
-/

namespace ScriptValues

/-- An exact integer or one of the two infinities. -/
inductive ExtendedInt
  | negInfinity
  | ofInt (n : Int)
  | posInfinity
  deriving DecidableEq

namespace ExtendedInt

/-- The largest signed 64-bit integer. -/
def wordMax : Int := 2 ^ (63 : Nat) - 1

/-- The least signed 64-bit integer. -/
def wordMin : Int := -2 ^ (63 : Nat)

/-- The nearest signed 64-bit integer. -/
def saturate : ExtendedInt → Int
  | .negInfinity => wordMin
  | .ofInt n => if n < wordMin then wordMin else if wordMax < n then wordMax else n
  | .posInfinity => wordMax

def isFinite : ExtendedInt → Bool
  | .ofInt _ => true
  | _ => false

def toDouble : ExtendedInt → Double
  | .negInfinity => .infinite true
  | .ofInt n => .ofInt n
  | .posInfinity => .infinite false

/-- Saturation lands in the range of 64-bit words. -/
theorem saturate_bounds (n : ExtendedInt) : wordMin ≤ n.saturate ∧ n.saturate ≤ wordMax := by
  have range : wordMin ≤ wordMax := by decide
  cases n with
  | negInfinity => exact ⟨Int.le_refl _, range⟩
  | ofInt n => grind [saturate]
  | posInfinity => exact ⟨range, Int.le_refl _⟩

end ExtendedInt

namespace Double

/-- The whole part of a finite double as an exact integer. -/
def wholePart (negative : Bool) (m : Magnitude) : Int :=
  let whole : Int := (m.units / Magnitude.one : Nat)
  if negative then -whole else whole

/-- The whole part of a double; NaN counts as zero. -/
def toExtendedInt : Double → ExtendedInt
  | .nan => .ofInt 0
  | .infinite negative => if negative then .negInfinity else .posInfinity
  | .finite negative m => .ofInt (wholePart negative m)

/-- The whole part as a word of 32 bits: kept in the range of words, and zero for NaN. -/
def toWord (x : Double) : UInt32 :=
  match x.toExtendedInt with
  | .negInfinity => 0
  | .ofInt n => .ofNat (min n.toNat (2 ^ (32 : Nat) - 1))
  | .posInfinity => .ofNat (2 ^ (32 : Nat) - 1)

/-- The whole part modulo 2^32, from -2^31 to 2^31 - 1; NaN and infinities count as zero. The
residue is a double, and the top bit of its word is read as a sign. -/
def toInt32 (x : Double) : Int :=
  if !x.isFinite || x.isZero then 0
  else (x.trunc.remEuclid (.ofNat (2 ^ (32 : Nat)))).toWord.toInt32.toInt

/-- The whole part modulo 2^32, from zero on: the same word, with its top bit read as one more
digit. -/
def toUint32 (x : Double) : Nat := (Int32.ofInt x.toInt32).toUInt32.toNat

end Double

end ScriptValues
