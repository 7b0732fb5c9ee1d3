import ScriptValues.Double

/-!
The 64-bit storage format of doubles: a sign bit, eleven exponent bits and 52 fraction bits.
-/

namespace ScriptValues

namespace Double

/-- The double stored in a word. An exponent field of zero stores the units themselves, a full
field stores infinities and NaNs, and any other field has a leading one before the fraction. -/
def ofBits (word : UInt64) : Double :=
  let negative := word.toNat / 2 ^ (63 : Nat) = 1
  let exponent := word.toNat / 2 ^ (52 : Nat) % 2048
  let fraction := word.toNat % 2 ^ (52 : Nat)
  have hfraction : fraction < 2 ^ (52 : Nat) := Nat.mod_lt _ (by decide)
  if hspecial : exponent = 2047 then
    if fraction = 0 then .infinite negative else .nan
  else if exponent = 0 then
    .finite negative (.ofSignificand fraction 0 (by omega) (by omega))
  else
    have hexponent : exponent < 2048 := Nat.mod_lt _ (by decide)
    .finite negative
      (.ofSignificand (2 ^ (52 : Nat) + fraction) (exponent - 1) (by omega) (by omega))

/-- The word that stores a double; a NaN is stored with its first fraction bit only. -/
def toBits : Double → UInt64
  | .nan => 0x7ff8000000000000
  | .infinite negative => .ofNat (signBit negative + 2047 * 2 ^ (52 : Nat))
  | .finite negative m =>
    if m.units < 2 ^ (52 : Nat) then .ofNat (signBit negative + m.units)
    else .ofNat (signBit negative + (m.shift + 1) * 2 ^ (52 : Nat) + (m.significand - 2 ^ (52 : Nat)))
where
  signBit (negative : Bool) : Nat := if negative then 2 ^ (63 : Nat) else 0

end Double

end ScriptValues
