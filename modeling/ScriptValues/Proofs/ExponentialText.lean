import ScriptValues.Proofs.RoundedDigits
import ScriptValues.Proofs.ShortestDigits
import ScriptValues.Proofs.Units

/-!
Doubles in exponential notation. 771 significant digits write every double exactly, so rounding them
to fewer is rounding the double itself, and the text with a number of digits after the point shows
the nearest decimal.
-/

namespace ScriptValues

namespace Numeral

theorem length_digits_eq {base n count : Nat} (hbase : 2 ≤ base) (hcount : 0 < count)
    (hleast : base ^ (count - 1) ≤ n) (hmost : n < base ^ count) :
    (digits base n).length = count := by
  have hn : 0 < n := Nat.lt_of_lt_of_le (Nat.pow_pos (by omega)) hleast
  have hlow := pow_length_digits_le hbase hn
  have hhigh := lt_pow_length_digits hbase n
  have hlt := (Nat.pow_lt_pow_iff_right hbase).1 (Nat.lt_of_le_of_lt hlow hmost)
  have hgt := (Nat.pow_lt_pow_iff_right hbase).1 (Nat.lt_of_le_of_lt hleast hhigh)
  omega

end Numeral

namespace Magnitude

/-- The number that a magnitude is. -/
def value (m : Magnitude) : ℚ := m.units / one

variable {m : Magnitude}

theorem value_eq_zero_iff : m.value = 0 ↔ m.units = 0 := by
  have hone : (one : ℚ) ≠ 0 := Nat.cast_ne_zero.2 one_pos.ne'
  rw [value, div_eq_zero_iff, or_iff_left hone, Nat.cast_eq_zero]

/-- Steps of a place that leave nothing over are the number. -/
theorem value_eq_of_placeNum {place : Int} {steps : Nat}
    (h : m.placeNum place = placeDen place * steps) : m.value = steps * 10 ^ place := by
  have hden : ((10 ^ (-place).toNat : Nat) : ℚ) ≠ 0 :=
    Nat.cast_ne_zero.2 (Nat.pow_pos (by decide)).ne'
  have hone : (one : ℚ) ≠ 0 := Nat.cast_ne_zero.2 one_pos.ne'
  have hcast := congrArg (Nat.cast : Nat → ℚ) h
  have hplace : ((10 ^ (-place).toNat : Nat) : ℚ) * 10 ^ place = (10 ^ place.toNat : Nat) := by
    rw [Decimal.cast_pow_mul_zpow (z := (place.toNat : Int)) (by omega), zpow_natCast, Nat.cast_pow,
      Nat.cast_ofNat]
  rw [placeNum, placeDen, Nat.cast_mul, Nat.cast_mul, Nat.cast_mul] at hcast
  rw [value, div_eq_iff hone]
  apply mul_right_cancel₀ hden
  calc
    (m.units : ℚ) * (10 ^ (-place).toNat : Nat) = one * (10 ^ place.toNat : Nat) * steps := hcast
    _ = steps * 10 ^ place * one * (10 ^ (-place).toNat : Nat) := by
      rw [← hplace]
      ring

/-- The leading digits are as many as were asked for. -/
theorem leadingSteps_bounds (hm : 0 < m.units) {count : Nat} (hcount : 0 < count) :
    let place := m.decimalExponent - count + 1
    10 ^ (count - 1) ≤ m.placeNum place / placeDen place ∧
      m.placeNum place / placeDen place < 10 ^ count := by
  intro place
  obtain ⟨hleast, hmost⟩ := decimalExponent_bounds hm
  have hden := placeDen_pos place
  have hfirst := placeDen_pos m.decimalExponent
  have hshift := m.placeNum_mul_placeDen place (count - 1)
  rw [show place + ((count - 1 : Nat) : Int) = m.decimalExponent by omega] at hshift
  rw [Nat.le_div_iff_mul_le hden, Nat.div_lt_iff_lt_mul hden]
  constructor
  · apply Nat.le_of_mul_le_mul_right _ hfirst
    calc
      10 ^ (count - 1) * placeDen place * placeDen m.decimalExponent
        = 10 ^ (count - 1) * (placeDen m.decimalExponent * placeDen place) := by ring
      _ ≤ 10 ^ (count - 1) * (m.placeNum m.decimalExponent * placeDen place) :=
        Nat.mul_le_mul_left _ (Nat.mul_le_mul_right _ hleast)
      _ = m.placeNum place * placeDen m.decimalExponent := hshift.symm
  · apply Nat.lt_of_mul_lt_mul_right (a := placeDen m.decimalExponent)
    calc
      m.placeNum place * placeDen m.decimalExponent
        = 10 ^ (count - 1) * (m.placeNum m.decimalExponent * placeDen place) := hshift
      _ < 10 ^ (count - 1) * (10 * placeDen m.decimalExponent * placeDen place) :=
        Nat.mul_lt_mul_of_pos_left (Nat.mul_lt_mul_of_pos_right hmost hden)
          (Nat.pow_pos (by decide))
      _ = 10 ^ (count - 1 + 1) * placeDen place * placeDen m.decimalExponent := by ring
      _ = 10 ^ count * placeDen place * placeDen m.decimalExponent := by
        rw [Nat.sub_add_cancel hcount]

theorem one_eq_two_pow_bits : ∃ bits, one = 2 ^ bits ∧ bits = 1074 := by
  rw [one]
  generalize 1074 = bits
  exact ⟨bits, rfl, rfl⟩

/-- The first decimal digit of a double stands above its last binary digit by no more than this. -/
theorem decimalExponent_le_shift (hm : 0 < m.units) {significand shift : Nat}
    (hsignificand : significand < 2 ^ (53 : Nat)) (hunits : m.units = significand * 2 ^ shift) :
    m.decimalExponent + 304 ≤ shift := by
  obtain ⟨bits, hone, hbits⟩ := one_eq_two_pow_bits
  have hleast := (decimalExponent_bounds hm).1
  have hmost : m.units < 2 ^ (53 + shift) := by
    rw [hunits, Nat.pow_add]
    exact Nat.mul_lt_mul_of_pos_right hsignificand (Nat.two_pow_pos _)
  rw [placeDen, placeNum, hone] at hleast
  generalize m.decimalExponent = e at hleast ⊢
  by_contra hlt
  -- `10 ^ e` divides on one side of the bound or multiplies the other
  rcases Int.lt_or_le e 0 with hneg | hnonneg
  · obtain ⟨a, rfl⟩ : ∃ a : Nat, e = -a := ⟨e.natAbs, by omega⟩
    rw [neg_neg, Int.toNat_natCast, Int.toNat_of_nonpos hneg.le, Nat.pow_zero, Nat.mul_one]
      at hleast
    -- five cubed is less than two to the seventh
    obtain ⟨thirds, hthirds, hroom⟩ : ∃ thirds, a ≤ 3 * thirds ∧ 7 * thirds + 356 ≤ bits :=
      ⟨101, by omega, by omega⟩
    have hbound : m.units * 10 ^ a < 2 ^ bits := by
      calc
        m.units * 10 ^ a < 2 ^ (53 + shift) * 10 ^ a :=
          Nat.mul_lt_mul_of_pos_right hmost (Nat.pow_pos (by decide))
        _ = 2 ^ (53 + shift + a) * 5 ^ a := by
          rw [show 10 = 2 * 5 by rfl, Nat.mul_pow, ← Nat.mul_assoc, ← Nat.pow_add]
        _ ≤ 2 ^ (53 + shift + a) * 5 ^ (3 * thirds) :=
          Nat.mul_le_mul_left _ (Nat.pow_le_pow_right (by decide) hthirds)
        _ ≤ 2 ^ (53 + shift + a) * 2 ^ (7 * thirds) := by
          rw [Nat.pow_mul, Nat.pow_mul]
          exact Nat.mul_le_mul_left _ (Nat.pow_le_pow_left (by decide) thirds)
        _ = 2 ^ (53 + shift + a + 7 * thirds) := (Nat.pow_add 2 _ _).symm
        _ ≤ 2 ^ bits := Nat.pow_le_pow_right (by decide) (by omega)
    exact absurd hleast (Nat.not_le.2 hbound)
  · obtain ⟨a, rfl⟩ : ∃ a : Nat, e = a := ⟨e.toNat, by omega⟩
    rw [Int.toNat_of_nonpos (Int.neg_nonpos_of_nonneg hnonneg), Int.toNat_natCast, Nat.pow_zero,
      Nat.mul_one] at hleast
    have hbound : 2 ^ (bits + a) < 2 ^ (53 + shift) := by
      calc
        2 ^ (bits + a) = 2 ^ bits * 2 ^ a := Nat.pow_add 2 bits a
        _ ≤ 2 ^ bits * 10 ^ a := Nat.mul_le_mul_left _ (Nat.pow_le_pow_left (by decide) a)
        _ < 2 ^ (53 + shift) := Nat.lt_of_le_of_lt hleast hmost
    have := (Nat.pow_lt_pow_iff_right (by decide)).1 hbound
    omega

theorem decimalExponent_le (hm : 0 < m.units) : m.decimalExponent ≤ 770 := by
  obtain ⟨bits, hone, hbits⟩ := one_eq_two_pow_bits
  have hlimit : limit = 2 ^ (bits + 1024) := by
    rw [limit, show 53 + 2045 = bits + 1024 by omega]
  have hleast := (decimalExponent_bounds hm).1
  have hmost := m.bounded
  rw [placeDen, placeNum, hone] at hleast
  rw [hlimit] at hmost
  generalize m.decimalExponent = e at hleast ⊢
  by_contra hlt
  obtain ⟨a, rfl⟩ : ∃ a : Nat, e = a := ⟨e.toNat, by omega⟩
  rw [Int.toNat_of_nonpos (Int.neg_nonpos_of_nonneg (Int.natCast_nonneg a)), Int.toNat_natCast,
    Nat.pow_zero, Nat.mul_one] at hleast
  have hbound : 2 ^ (bits + 3 * a) < 2 ^ (bits + 1024) := by
    calc
      2 ^ (bits + 3 * a) = 2 ^ bits * 8 ^ a := by rw [Nat.pow_add, Nat.pow_mul]
      _ ≤ 2 ^ bits * 10 ^ a := Nat.mul_le_mul_left _ (Nat.pow_le_pow_left (by decide) a)
      _ < 2 ^ (bits + 1024) := Nat.lt_of_le_of_lt hleast hmost
  have := (Nat.pow_lt_pow_iff_right (by decide)).1 hbound
  omega

/-- No double has a digit after the last of 771 significant ones. -/
theorem placeDen_dvd_placeNum (hm : 0 < m.units) :
    placeDen (m.decimalExponent - 770) ∣ m.placeNum (m.decimalExponent - 770) := by
  obtain ⟨bits, hone, hbits⟩ := one_eq_two_pow_bits
  obtain ⟨significand, shift, hsignificand, hunits⟩ := (gap_dvd_iff m.units).1 m.onGrid
  have hshift := decimalExponent_le_shift hm hsignificand hunits
  have hle := decimalExponent_le hm
  rw [placeDen, placeNum, Int.toNat_of_nonpos (by omega), Nat.pow_zero, Nat.mul_one, hone]
  obtain ⟨places, hplaces⟩ : ∃ places : Nat, (-(m.decimalExponent - 770)).toNat = places := ⟨_, rfl⟩
  have hsplit : significand * 2 ^ shift * 10 ^ places =
      2 ^ (shift + places) * (significand * 5 ^ places) := by
    rw [show 10 = 2 * 5 by rfl, Nat.mul_pow, Nat.pow_add]
    ring
  rw [hplaces, hunits, hsplit]
  exact Nat.dvd_trans (Nat.pow_dvd_pow 2 (by omega)) (Nat.dvd_mul_right _ _)

end Magnitude

namespace Double

open Magnitude

variable {m : Magnitude}

theorem exactDecimal_eq (hm : 0 < m.units) :
    exactDecimal m = ⟨m.leadingDigits exactDigits, m.decimalExponent⟩ :=
  if_neg (by omega)

/-- All digits of a double are the double. -/
theorem exactDecimal_normalized (hm : 0 < m.units) :
    (exactDecimal m).Normalized ∧ (exactDecimal m).number = m.value := by
  obtain ⟨hleast, hmost⟩ := leadingSteps_bounds hm (by decide : 0 < exactDigits)
  obtain ⟨steps, hsteps⟩ := placeDen_dvd_placeNum hm
  have hpos := placeDen_pos (m.decimalExponent - 770)
  have hle := decimalExponent_le hm
  have hplace : m.decimalExponent - (exactDigits : Nat) + 1 = m.decimalExponent - 770 := by
    rw [exactDigits]
    omega
  rw [hplace, hsteps, Nat.mul_div_cancel_left _ hpos] at hleast hmost
  have hdigits : exactDecimal m = ⟨Numeral.digits 10 steps, m.decimalExponent⟩ := by
    rw [exactDecimal_eq hm, leadingDigits, hplace, hsteps, Nat.mul_div_cancel_left _ hpos]
  have hlen := Numeral.length_digits_eq (by decide) (by decide) hleast hmost
  have hpow : 0 < 10 ^ (exactDigits - 1) := Nat.pow_pos (by decide)
  obtain ⟨hnormalized, hvalue⟩ :=
    Decimal.normalized_digits (Nat.lt_of_lt_of_le hpow hleast) m.decimalExponent
  rw [hdigits]
  refine ⟨hnormalized, ?_⟩
  rw [hvalue, hlen, Magnitude.value_eq_of_placeNum hsteps, ← hplace]
  congr 2
  omega

end Double

namespace Numeral

/-- The numeral of a number with so many digits. -/
def fixedWidth (count n : Nat) : List Char := (padded count (digits 10 n)).map digitChar

end Numeral

namespace Decimal

variable {count n : Nat} {e : Int} {v : ℚ}

/-- The significant digits and the exponent that a number is written with: its rounding to so many
digits, and zeros for zero. -/
def IsWritten (count : Nat) (v : ℚ) (n : Nat) (e : Int) : Prop :=
  if v = 0 then n = 0 ∧ e = 0 else IsRounding count v n e

/-- The significant digits of a number in exponential notation: a point after the first one if more
follow, `e`, and the exponent with its sign. -/
def exponentialText (count n : Nat) (e : Int) : List Char :=
  let cs := Numeral.fixedWidth count n
  cs.take 1 ++ (if 1 < count then '.' :: cs.drop 1 else []) ++
    'e' :: (if e < 0 then '-' else '+') :: Numeral.natChars 10 e.natAbs

theorem IsRounding.isWritten_iff (h : IsRounding count v n e) (hcount : 0 < count) (hv : v ≠ 0)
    {n' : Nat} {e' : Int} : IsWritten count v n' e' ↔ n' = n ∧ e' = e := by
  rw [IsWritten, if_neg hv]
  constructor
  · exact fun h' => h'.unique hcount h
  · rintro ⟨rfl, rfl⟩
    exact h

theorem IsWritten.lt_pow (h : IsWritten count v n e) : n < 10 ^ count := by
  rw [IsWritten] at h
  split at h
  · rw [h.1]
    exact Nat.pow_pos (by decide)
  · exact h.hasDigits.2

/-- Zeros that are rounded keep their place. -/
theorem roundDecimal_zeros (hcount : 0 < count) (zeros : Nat) (e : Int) :
    Double.roundDecimal count ⟨List.replicate zeros 0, e⟩ =
      ⟨Numeral.padded count (Numeral.digits 10 0), e⟩ := by
  rw [Double.roundDecimal, roundTo_zeros hcount, Numeral.padded_digits_zero]
  rfl

theorem length_padded_digits (hn : n < 10 ^ count) :
    (Numeral.padded count (Numeral.digits 10 n)).length = count := by
  have hlen := Numeral.length_digits_le (by decide) hn
  rw [Numeral.length_padded]
  omega

theorem withPoint_eq {ds : List Nat} (hlen : ds.length = count) (whole : Nat) :
    withPoint ds whole = (digitChars ds).take whole ++
      if whole < count then '.' :: (digitChars ds).drop whole else [] := by
  rw [withPoint, hlen, digitChars, digitChars, digitChars, ← List.map_take, ← List.map_drop]
  rcases Nat.lt_or_ge whole count with hlt | hle
  · rw [if_neg (by omega), if_pos hlt]
  · rw [if_pos hle, if_neg (by omega), List.take_of_length_le (by omega), List.append_nil]

theorem exponentialChars_eq (hn : n < 10 ^ count) (e : Int) :
    exponentialChars ⟨Numeral.padded count (Numeral.digits 10 n), e⟩ =
      exponentialText count n e := by
  rw [exponentialChars, withPoint_eq (length_padded_digits hn)]
  rfl

end Decimal

namespace Double

open Decimal
open Magnitude (value_eq_zero_iff)

/-- Rounding all digits of a double is rounding the double. -/
theorem roundDecimal_exactDecimal (m : Magnitude) {count : Nat} (hcount : 0 < count) :
    ∃ n e, (∀ n' e', IsWritten count m.value n' e' ↔ n' = n ∧ e' = e) ∧
      (roundDecimal count (exactDecimal m)).exponentialChars = exponentialText count n e := by
  rcases Nat.eq_zero_or_pos m.units with hzero | hm
  · have hvalue := value_eq_zero_iff.2 hzero
    have hround := roundDecimal_zeros hcount exactDigits 0
    refine ⟨0, 0, fun n' e' => by rw [IsWritten, if_pos hvalue], ?_⟩
    rw [exactDecimal, if_pos hzero, hround, exponentialChars_eq (Nat.pow_pos (by decide))]
  · obtain ⟨hnormalized, hvalue⟩ := exactDecimal_normalized hm
    obtain ⟨k, n, e, hnear, hall, hround⟩ := exists_nearSteps hnormalized hcount
    rw [hvalue] at hnear
    have hrounding := hall _ hnear
    have hne := mt value_eq_zero_iff.1 hm.ne'
    refine ⟨n, e, fun n' e' => hrounding.isWritten_iff hcount hne, ?_⟩
    rw [hround, exponentialChars_eq hrounding.hasDigits.2]

/-- Exponential notation rounds correctly. With `f` digits after the point, 20 when `f` is not from
0 to 20, the text is a minus sign exactly below zero, and then the digits and the exponent of the
nearest decimal, the larger one of two. -/
theorem toExponential_some (negative : Bool) (m : Magnitude) (f : Int) :
    let places := if 0 ≤ f ∧ f ≤ 20 then f.toNat else 20
    ∃ n e, (∀ n' e', IsWritten (places + 1) m.value n' e' ↔ n' = n ∧ e' = e) ∧
      (Double.finite negative m).toExponential (some f) =
        String.ofList (signed ((Double.finite negative m).less .zero)
          (exponentialText (places + 1) n e)) := by
  intro places
  obtain ⟨n, e, hwritten, hchars⟩ := roundDecimal_exactDecimal m (Nat.succ_pos places)
  refine ⟨n, e, hwritten, ?_⟩
  rw [less_zero, ← hchars]
  rfl

end Double

end ScriptValues
