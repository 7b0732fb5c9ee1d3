import ScriptValues.Decimal

/-!
How digits are laid out as text: positional notation, exponential notation, and the choice between
them that plain texts make.
-/

namespace ScriptValues

namespace Decimal

/-- Exponents from here on are written in exponential notation. -/
def positionalLimit : Int := 21

/-- Exponents below this are written in exponential notation. -/
def positionalLeast : Int := -6

def digitChars (ds : List Nat) : List Char := ds.map Numeral.digitChar

/-- Digits with a point after the first `whole` of them; no point when none are left. -/
def withPoint (ds : List Nat) (whole : Nat) : List Char :=
  if ds.length ≤ whole then digitChars ds
  else digitChars (ds.take whole) ++ '.' :: digitChars (ds.drop whole)

/-- Digits in their places: zeros fill the gap before the point or after it. -/
def positionalChars (d : Decimal) : List Char :=
  if 0 ≤ d.exponent then
    let whole := d.exponent.toNat + 1
    withPoint (d.digits ++ List.replicate (whole - d.digits.length) 0) whole
  else
    withPoint (List.replicate (-d.exponent).toNat 0 ++ d.digits) 1

/-- One digit before the point, then `e` and the exponent with its sign. -/
def exponentialChars (d : Decimal) : List Char :=
  withPoint d.digits 1 ++ 'e' :: (if d.exponent < 0 then '-' else '+')
    :: Numeral.natChars 10 d.exponent.natAbs

/-- Positional notation for exponents from -6 to 20, exponential notation for all others. -/
def plainChars (d : Decimal) : List Char :=
  if positionalLeast ≤ d.exponent ∧ d.exponent < positionalLimit then d.positionalChars
  else d.exponentialChars

end Decimal

namespace Double

/-- Puts a minus sign in front when `negative`. -/
def signed (negative : Bool) (cs : List Char) : List Char :=
  if negative then '-' :: cs else cs

end Double

end ScriptValues
