import ScriptValues.Double

/-!
Arithmetic on doubles. Each operation takes the exact result of its operands and rounds once, to the
nearest double with ties to the even significand; remainders and whole parts are already doubles.
-/

namespace ScriptValues

namespace Double

/-- The exact integer number of units a finite double stands for. -/
def signedUnits (negative : Bool) (m : Magnitude) : Int :=
  if negative then -m.units else m.units

def neg : Double → Double
  | .nan => .nan
  | .infinite s => .infinite (!s)
  | .finite s m => .finite (!s) m

def abs : Double → Double
  | .nan => .nan
  | .infinite _ => .infinite false
  | .finite _ m => .finite false m

/-- The sum, rounded. An exact zero is negative only as the sum of two negative zeros. -/
def add : Double → Double → Double
  | .nan, _ | _, .nan => .nan
  | .infinite s, .infinite t => if s = t then .infinite s else .nan
  | .infinite s, .finite _ _ => .infinite s
  | .finite _ _, .infinite t => .infinite t
  | .finite s a, .finite t b =>
    let total := signedUnits s a + signedUnits t b
    if total = 0 then .finite (s && t) .zero
    else nearest (decide (total < 0)) total.natAbs 1

def sub (x y : Double) : Double := x.add y.neg

/-- The product, rounded; an infinity times a zero is NaN. -/
def mul : Double → Double → Double
  | .nan, _ | _, .nan => .nan
  | .infinite s, .infinite t => .infinite (s ^^ t)
  | .infinite s, .finite t b => if b.units = 0 then .nan else .infinite (s ^^ t)
  | .finite s a, .infinite t => if a.units = 0 then .nan else .infinite (s ^^ t)
  | .finite s a, .finite t b => nearest (s ^^ t) (a.units * b.units) Magnitude.one

/-- The quotient, rounded; zero over zero is NaN and anything else over zero is infinite. -/
def div : Double → Double → Double
  | .nan, _ | _, .nan => .nan
  | .infinite _, .infinite _ => .nan
  | .infinite s, .finite t _ => .infinite (s ^^ t)
  | .finite s _, .infinite t => .finite (s ^^ t) .zero
  | .finite s a, .finite t b =>
    if b.units ≠ 0 then nearest (s ^^ t) (a.units * Magnitude.one) b.units
    else if a.units = 0 then .nan else .infinite (s ^^ t)

/-- The remainder of a division that is cut toward zero, with the sign of the dividend. -/
def rem : Double → Double → Double
  | .finite s a, .finite _ b =>
    if b.units = 0 then .nan else nearest s (a.units % b.units) 1
  | .finite s a, .infinite _ => .finite s a
  | _, _ => .nan

/-- The remainder of a division that is rounded so that no remainder is negative: to a negative one
the size of the divisor is added. -/
def remEuclid (x y : Double) : Double :=
  let r := x.rem y
  if r.less .zero then r.add y.abs else r

/-- The whole part: fraction digits are cut off. -/
def trunc : Double → Double
  | .finite s m => nearest s (m.units / Magnitude.one * Magnitude.one) 1
  | x => x

/-- The next double away from zero. -/
def next : Double → Double
  | .finite s m => nearest s (m.units + Magnitude.gap m.units) 1
  | x => x

/-- The larger of two doubles; a NaN gives way to the other one. -/
def max (x y : Double) : Double :=
  if x.isNaN then y else if x.less y then y else x

/-- One half. -/
def half : Double := nearest false Magnitude.one 2

/-- The least positive double. -/
def leastPositive : Double := nearest false 1 1

end Double

end ScriptValues
