import Mathlib.Data.Int.ModEq
import Mathlib.Data.Rat.Floor
import ScriptValues.Proofs.RadixValue
import ScriptValues.Value.Coercion

/-!
Doubles as words of 32 bits. The residue modulo 2^32 is taken in the arithmetic of doubles, where a
remainder and its distance to 2^32 are whole numbers below 2^53, so nothing is rounded and the word is
the residue of the whole part for doubles of every size. With a sign and without one it is the same
word.
-/

namespace ScriptValues

/-- A number without its fraction, cut off toward zero. -/
def truncated (q : ℚ) : ℤ := if 0 ≤ q then ⌊q⌋ else ⌈q⌉

theorem truncated_withSign (negative : Bool) {q : ℚ} (hq : 0 ≤ q) :
    truncated (Numeral.withSign negative q) = if negative then -⌊q⌋ else ⌊q⌋ := by
  unfold truncated Numeral.withSign
  cases negative with
  | false => simp [hq]
  | true =>
      rcases hq.eq_or_lt with rfl | hpos
      · simp
      · simp [hpos, Int.ceil_neg]

/-- Among the 2^32 integers from `least` on, `r` is the one that is congruent to `n`
modulo 2^32. -/
structure IsWordResidue (least n r : ℤ) : Prop where
  congruent : r ≡ n [ZMOD 2 ^ 32]
  least_le : least ≤ r
  lt : r < least + 2 ^ 32

theorem IsWordResidue.iff_eq {least n residue : ℤ} (h : IsWordResidue least n residue) (r : ℤ) :
    IsWordResidue least n r ↔ r = residue := by
  constructor
  · intro hr
    obtain ⟨k, hk⟩ := (h.congruent.trans hr.congruent.symm).dvd
    have := h.least_le
    have := h.lt
    have := hr.least_le
    have := hr.lt
    omega
  · rintro rfl
    exact h

namespace Double

/-- The whole part of a double is its value cut off toward zero. -/
theorem truncated_exactValue (negative : Bool) (m : Magnitude) :
    truncated (Numeral.withSign negative (m.units / Magnitude.one)) = wholePart negative m := by
  have hfloor : ⌊(m.units : ℚ) / Magnitude.one⌋ = (m.units / Magnitude.one : Nat) :=
    Rat.floor_natCast_div_natCast _ _
  have hnonneg : (0 : ℚ) ≤ m.units / Magnitude.one :=
    div_nonneg (Nat.cast_nonneg _) (Nat.cast_nonneg _)
  rw [truncated_withSign negative hnonneg, hfloor, wholePart]

theorem isWordResidue_toInt32 (negative : Bool) (m : Magnitude) :
    IsWordResidue (-2 ^ 31) (wholePart negative m) (finite negative m).toInt32 := by
  rw [toInt32_finite]
  have hleast := @Int.le_bmod (wholePart negative m) (2 ^ (32 : Nat)) (by decide)
  have hmost := @Int.bmod_lt (wholePart negative m) (2 ^ (32 : Nat)) (by decide)
  exact ⟨Int.bmod_emod, by omega, by omega⟩

/-- The two words are the same one. -/
theorem toUint32_eq (x : Double) : (x.toUint32 : ℤ) = x.toInt32 % 2 ^ 32 := by
  have hword : x.toUint32 = (BitVec.ofInt 32 x.toInt32).toNat := rfl
  rw [hword, BitVec.toNat_ofInt]
  omega

theorem isWordResidue_toUint32 (negative : Bool) (m : Magnitude) :
    IsWordResidue 0 (wholePart negative m) (finite negative m).toUint32 := by
  rw [toUint32_eq]
  exact ⟨(Int.mod_modEq _ _).trans (isWordResidue_toInt32 negative m).congruent,
    Int.emod_nonneg _ (by decide), Int.emod_lt_of_pos _ (by decide)⟩

end Double

namespace Value

/-- The two words of a value. When its number is finite, they are the integers congruent modulo 2^32
to that number cut off toward zero, one from -2^31 up to 2^31 and the other from zero up to 2^32;
otherwise they are zero. -/
theorem words_are_residues (v : Value) :
    match v.toNumber.exactValue? with
    | some q => ∀ r : ℤ, (IsWordResidue (-2 ^ 31) (truncated q) r ↔ r = v.toInt32) ∧
        (IsWordResidue 0 (truncated q) r ↔ r = v.toUint32)
    | none => v.toInt32 = 0 ∧ v.toUint32 = 0 := by
  rw [toInt32, toUint32]
  cases v.toNumber with
  | nan => exact ⟨rfl, rfl⟩
  | infinite negative => exact ⟨rfl, rfl⟩
  | finite negative m =>
      rw [Double.exactValue?_finite]
      intro r
      rw [Double.truncated_exactValue]
      exact ⟨(Double.isWordResidue_toInt32 negative m).iff_eq r,
        (Double.isWordResidue_toUint32 negative m).iff_eq r⟩

/-- Words wrap around at 2^31 and 2^32; a negative fraction above -1 has no whole part. -/
example : (Value.ofInt (2 ^ (31 : Nat))).toInt32 = -2 ^ (31 : Nat) ∧
    (Value.ofInt (-1)).toUint32 = 2 ^ (32 : Nat) - 1 ∧
    (Value.string "-0.5").toInt32 = 0 := by decide +kernel

end Value

end ScriptValues
