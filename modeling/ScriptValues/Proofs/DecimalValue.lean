import Mathlib.Data.List.TakeWhile
import ScriptValues.Decimal
import ScriptValues.Decimal.Literal
import ScriptValues.Proofs.Nearest
import ScriptValues.Proofs.Numeral

/-!
The double that a decimal stands for. Reading is one rounding of the exact value, the answers that
are given without computing a power of ten included, so zeros at the end of the digits can be traded
for the exponent.
-/

namespace ScriptValues

namespace Double

/-- Below the tiny exponents lies less than half a unit. -/
private theorem tiny_in_units : 2 * Magnitude.one ≤ 10 ^ (-tinyExponent).toNat := by
  decide +kernel

/-- At the huge exponents no double is left. -/
private theorem limit_le_huge : Magnitude.limit ≤ 10 ^ hugeExponent.toNat * Magnitude.one := by
  decide +kernel

/-- Reading a decimal rounds its exact value once. -/
theorem ofDecimal_eq_nearest (negative : Bool) (n : Nat) (exponent : Int) :
    ofDecimal negative n exponent =
      nearest negative (n * 10 ^ exponent.toNat * Magnitude.one) (10 ^ (-exponent).toNat) := by
  have hden : 0 < 10 ^ (-exponent).toNat := Nat.pow_pos (by decide)
  by_cases hzero : n = 0
  · simp [ofDecimal, hzero, nearest_eq_zero negative (by omega : 2 * 0 < _)]
  have hupper := Numeral.lt_pow_length_digits (by decide : 2 ≤ 10) n
  have hlower := Numeral.pow_length_digits_le (by decide : 2 ≤ 10) (Nat.pos_of_ne_zero hzero)
  have hlen := Numeral.length_digits_pos (by decide : 2 ≤ 10) (Nat.pos_of_ne_zero hzero)
  have htinyNeg : tinyExponent < 0 := by decide
  have hhugePos : 0 < hugeExponent := by decide
  have htinyUnits := tiny_in_units
  have hhugeUnits := limit_le_huge
  unfold ofDecimal
  generalize (Numeral.digits 10 n).length = len at *
  generalize tinyExponent = tiny at *
  generalize hugeExponent = huge at *
  simp only [hzero, false_or]
  split
  · symm
    apply nearest_eq_zero
    rw [show exponent.toNat = 0 by omega, Nat.pow_zero, Nat.mul_one]
    calc
      2 * (n * Magnitude.one) = n * (2 * Magnitude.one) := Nat.mul_left_comm _ _ _
      _ ≤ n * 10 ^ (-tiny).toNat := Nat.mul_le_mul_left n htinyUnits
      _ < 10 ^ len * 10 ^ (-tiny).toNat :=
        Nat.mul_lt_mul_of_pos_right hupper (Nat.pow_pos (by decide))
      _ = 10 ^ (len + (-tiny).toNat) := (Nat.pow_add 10 _ _).symm
      _ ≤ 10 ^ (-exponent).toNat := Nat.pow_le_pow_right (by decide) (by omega)
  · split
    · symm
      apply nearest_eq_infinite _ hden
      calc
        Magnitude.limit * 10 ^ (-exponent).toNat
          ≤ 10 ^ huge.toNat * Magnitude.one * 10 ^ (-exponent).toNat :=
            Nat.mul_le_mul_right _ hhugeUnits
        _ = 10 ^ (huge.toNat + (-exponent).toNat) * Magnitude.one := by
            rw [Nat.pow_add, Nat.mul_right_comm]
        _ ≤ 10 ^ (len - 1 + exponent.toNat) * Magnitude.one :=
            Nat.mul_le_mul_right _ (Nat.pow_le_pow_right (by decide) (by omega))
        _ = 10 ^ (len - 1) * 10 ^ exponent.toNat * Magnitude.one := by rw [Nat.pow_add]
        _ ≤ n * 10 ^ exponent.toNat * Magnitude.one :=
            Nat.mul_le_mul_right _ (Nat.mul_le_mul_right _ hlower)
    · rfl

/-- Zeros at the end of the digits move into the exponent. -/
theorem ofDecimal_mul_pow (negative : Bool) (n zeros : Nat) (exponent : Int) :
    ofDecimal negative (n * 10 ^ zeros) exponent = ofDecimal negative n (exponent + zeros) := by
  rw [ofDecimal_eq_nearest, ofDecimal_eq_nearest]
  apply nearest_congr _ (Nat.pow_pos (by decide)) (Nat.pow_pos (by decide))
  have hpow : 10 ^ zeros * 10 ^ exponent.toNat * 10 ^ (-(exponent + zeros)).toNat =
      10 ^ (exponent + zeros).toNat * 10 ^ (-exponent).toNat := by
    simp only [← Nat.pow_add]
    congr 1
    omega
  calc
    n * 10 ^ zeros * 10 ^ exponent.toNat * Magnitude.one * 10 ^ (-(exponent + zeros)).toNat
      = n * (10 ^ zeros * 10 ^ exponent.toNat * 10 ^ (-(exponent + zeros)).toNat) *
          Magnitude.one := by ring
    _ = n * 10 ^ (exponent + zeros).toNat * Magnitude.one * 10 ^ (-exponent).toNat := by
      rw [hpow]
      ring

@[simp] theorem ofDecimal_zero (negative : Bool) (exponent : Int) :
    ofDecimal negative 0 exponent = .finite negative .zero := by
  simp [ofDecimal]

end Double

namespace Decimal

/-- There are digits, and all of them are decimal. -/
structure WellFormed (d : Decimal) : Prop where
  nonempty : d.digits ≠ []
  lt_ten : ∀ digit ∈ d.digits, digit < 10

/-- The power of ten of the last digit. -/
def place (d : Decimal) : Int := d.exponent + 1 - d.digits.length

/-- The double nearest to a decimal with a sign. -/
def toDouble (negative : Bool) (d : Decimal) : Double :=
  .ofDecimal negative (Numeral.value 10 d.digits) d.place

/-- Digits without the zeros at their end. -/
private theorem dropLastZeros_append (ds : List Nat) :
    ∃ zeros, ds = (ds.reverse.dropWhile (· == 0)).reverse ++ List.replicate zeros 0 := by
  refine ⟨(ds.reverse.takeWhile (· == 0)).length, ?_⟩
  have hzeros : ds.reverse.takeWhile (· == 0) =
      List.replicate (ds.reverse.takeWhile (· == 0)).length 0 := by
    apply List.eq_replicate_of_mem
    intro d hd
    simpa using List.mem_takeWhile_imp hd
  rw [← List.reverse_inj, List.reverse_append, List.reverse_reverse, List.reverse_replicate,
    ← hzeros, List.takeWhile_append_dropWhile]

/-- Steps have the digits that are kept and then the zeros that are left off, which move the place of
the last digit. -/
theorem digits_ofSteps (steps : Nat) (place : Int) :
    ∃ zeros : Nat, Numeral.digits 10 steps =
        (ofSteps steps place).digits ++ List.replicate zeros 0 ∧
      (ofSteps steps place).place = place + zeros := by
  obtain ⟨zeros, hzeros⟩ := dropLastZeros_append (Numeral.digits 10 steps)
  have hlen := congrArg List.length hzeros
  rw [List.length_append, List.length_replicate] at hlen
  refine ⟨zeros, hzeros, ?_⟩
  simp only [Decimal.place, ofSteps]
  omega

theorem ofSteps_zeros (steps : Nat) (place : Int) :
    ∃ zeros : Nat, Numeral.value 10 (ofSteps steps place).digits * 10 ^ zeros = steps ∧
      (ofSteps steps place).place = place + zeros := by
  obtain ⟨zeros, hdigits, hplace⟩ := digits_ofSteps steps place
  have hvalue := Numeral.value_digits (by decide : 2 ≤ 10) steps
  rw [hdigits, Numeral.value_append_zeros] at hvalue
  exact ⟨zeros, hvalue, hplace⟩

theorem wellFormed_ofSteps {steps : Nat} (hsteps : 0 < steps) (place : Int) :
    (ofSteps steps place).WellFormed := by
  refine ⟨?_, ?_⟩
  · intro hnil
    obtain ⟨zeros, hvalue, -⟩ := ofSteps_zeros steps place
    rw [hnil, Numeral.value_nil, Nat.zero_mul] at hvalue
    omega
  · intro digit hdigit
    obtain ⟨zeros, hdigits, -⟩ := digits_ofSteps steps place
    apply Numeral.digits_lt (by decide : 2 ≤ 10) (n := steps)
    rw [hdigits]
    exact List.mem_append_left _ hdigit

end Decimal

end ScriptValues
