import ScriptValues.Rounding

/-!
Double-precision numbers as exact values. Every finite double is a whole number of units of
2^-1074, so a magnitude is a natural number that lies on the grid of doubles, and every operation
is exact arithmetic followed by one rounding to that grid. The main fact here is that rounding
always lands on the grid, whatever quotient it starts from.
-/

namespace ScriptValues

-- Powers of natural numbers are the core ones, also where a library brings instances of its own, so
-- that a power is the same term in every module.
attribute [scoped instance (2000)] instPowNat

/-- The units in the number one. A unit is 2^-1074, the least positive double. -/
def Magnitude.one : Nat := 2 ^ (1074 : Nat)

/-- The distance from one double to the next at a magnitude of this many units. -/
def Magnitude.gap (units : Nat) : Nat := 2 ^ (units.log2 - 52)

/-- The least magnitude, 2^1024, that is too large for a double. -/
def Magnitude.limit : Nat := 2 ^ (53 + 2045 : Nat)

/-- The absolute value of a finite double, in units. -/
structure Magnitude where
  units : Nat
  onGrid : Magnitude.gap units ∣ units
  bounded : units < Magnitude.limit
  deriving DecidableEq

theorem Magnitude.ext {a b : Magnitude} (h : a.units = b.units) : a = b := by
  cases a; cases b; simp_all

/-- A significand of at most 53 bits, shifted, lies on the grid. -/
theorem Magnitude.gap_dvd_mul_pow {significand : Nat} (shift : Nat)
    (h : significand < 2 ^ (53 : Nat)) :
    Magnitude.gap (significand * 2 ^ shift) ∣ significand * 2 ^ shift := by
  by_cases hz : significand * 2 ^ shift = 0
  · rw [hz]; exact Nat.dvd_zero _
  · have hlt : significand * 2 ^ shift < 2 ^ (53 + shift) := by
      rw [Nat.pow_add]
      exact Nat.mul_lt_mul_of_pos_right h (Nat.two_pow_pos shift)
    have hlog := (Nat.log2_lt hz).2 hlt
    exact Nat.dvd_trans (Nat.pow_dvd_pow 2 (by omega)) (Nat.dvd_mul_left _ _)

/-- The grid point nearest to `num / den` units, a tie going to the even significand. -/
def Magnitude.nearestUnits (num den : Nat) : Nat :=
  let step := Magnitude.gap (num / den)
  roundDiv .toEven num (den * step) * step

/-- Rounding lands on the grid, also when it carries into the next power of two. -/
theorem Magnitude.gap_dvd_nearestUnits (num den : Nat) :
    Magnitude.gap (Magnitude.nearestUnits num den) ∣ Magnitude.nearestUnits num den := by
  unfold Magnitude.nearestUnits
  dsimp only
  generalize hk : roundDiv .toEven num (den * Magnitude.gap (num / den)) = k
  have hle : k ≤ num / den / Magnitude.gap (num / den) + 1 := by
    rw [← hk, Nat.div_div_eq_div_mul]
    exact roundDiv_le _ _ _
  unfold Magnitude.gap at hle ⊢
  generalize num / den = q at hle ⊢
  have hq : q / 2 ^ (q.log2 - 52) < 2 ^ (53 : Nat) := by
    rw [Nat.div_lt_iff_lt_mul (Nat.two_pow_pos _), ← Nat.pow_add]
    exact Nat.lt_of_lt_of_le Nat.lt_log2_self (Nat.pow_le_pow_right (by decide) (by omega))
  by_cases hlt : k < 2 ^ (53 : Nat)
  · exact Magnitude.gap_dvd_mul_pow _ hlt
  · have hk53 : k = 2 ^ (53 : Nat) := by omega
    rw [hk53, ← Nat.pow_add, Nat.log2_two_pow]
    exact Nat.pow_dvd_pow 2 (by omega)

theorem Magnitude.mul_pow_lt {significand shift bits top : Nat} (hs : significand < 2 ^ bits)
    (hshift : shift ≤ top) : significand * 2 ^ shift < 2 ^ (bits + top) := by
  rw [Nat.pow_add]
  exact Nat.mul_lt_mul_of_lt_of_le hs (Nat.pow_le_pow_right Nat.two_pos hshift)
    (Nat.two_pow_pos _)

/-- The magnitude `significand * 2 ^ shift` units, for the fields of a stored double. -/
def Magnitude.ofSignificand (significand shift : Nat) (hs : significand < 2 ^ (53 : Nat))
    (hshift : shift ≤ 2045) : Magnitude where
  units := significand * 2 ^ shift
  onGrid := Magnitude.gap_dvd_mul_pow shift hs
  bounded := by
    rw [Magnitude.limit]
    apply Magnitude.mul_pow_lt <;> assumption

/-- The magnitude zero. -/
def Magnitude.zero : Magnitude := Magnitude.ofSignificand 0 0 (by decide) (by decide)

/-- The shift of a magnitude: its units are a significand of at most 53 bits times `2 ^ shift`. -/
def Magnitude.shift (m : Magnitude) : Nat := m.units.log2 - 52

/-- The significand of a magnitude, an integer below 2^53. -/
def Magnitude.significand (m : Magnitude) : Nat := m.units / 2 ^ m.shift

/-- A double-precision number. All NaNs are one value, and zero has two signs. -/
inductive Double
  | nan
  | infinite (negative : Bool)
  | finite (negative : Bool) (magnitude : Magnitude)
  deriving DecidableEq

namespace Double

/-- The double nearest to `num / den` units with the given sign; infinite when that is too large. -/
def nearest (negative : Bool) (num den : Nat) : Double :=
  if h : Magnitude.nearestUnits num den < Magnitude.limit then
    .finite negative ⟨_, Magnitude.gap_dvd_nearestUnits num den, h⟩
  else
    .infinite negative

def zero : Double := .finite false .zero

def negativeZero : Double := .finite true .zero

instance : Inhabited Double := ⟨zero⟩

/-- The double nearest to a natural number. -/
def ofNat (n : Nat) : Double := nearest false (n * Magnitude.one) 1

/-- The double nearest to an integer. Zero is positive. -/
def ofInt (n : Int) : Double := nearest (n < 0) (n.natAbs * Magnitude.one) 1

def one : Double := ofNat 1

def isNaN : Double → Bool
  | .nan => true
  | _ => false

def isFinite : Double → Bool
  | .finite _ _ => true
  | _ => false

/-- Either of the two zeros. -/
def isZero : Double → Bool
  | .finite _ m => m.units == 0
  | _ => false

def isPositiveZero : Double → Bool
  | .finite false m => m.units == 0
  | _ => false

def isNegativeZero : Double → Bool
  | .finite true m => m.units == 0
  | _ => false

/-- The place of a double on the line, in units. Infinities stand just past the largest doubles
and NaN has no place. -/
def place? : Double → Option Int
  | .nan => none
  | .infinite negative => some (if negative then -Magnitude.limit else Magnitude.limit)
  | .finite negative m => some (if negative then -m.units else m.units)

/-- Numeric equality: NaN differs from everything and the two zeros are equal. -/
def equal (x y : Double) : Bool :=
  match x.place?, y.place? with
  | some p, some q => p == q
  | _, _ => false

/-- Numeric order; `none` when a NaN takes part. -/
def order? (x y : Double) : Option Ordering :=
  match x.place?, y.place? with
  | some p, some q => some (compare p q)
  | _, _ => none

/-- Strictly smaller on the line. -/
def less (x y : Double) : Bool := x.order? y == some .lt

/-- Smaller or equal on the line. -/
def atMost (x y : Double) : Bool := x.less y || x.equal y

end Double

end ScriptValues
