import ScriptValues.Proofs.DecimalPrinter
import ScriptValues.Proofs.WholeNumber

/-!
Decimal digits of whole numbers. All digits of a whole number are read as it, so shortest digits do
not get as far as a fraction. They stand for a whole number, which is the number itself up to 2^53,
and are written as its numeral.
-/

namespace ScriptValues

theorem Double.Exact.value_magnitude {n : Nat} (hn : Exact n) : hn.magnitude.value = n := by
  have hone : (Magnitude.one : ℚ) ≠ 0 := Nat.cast_ne_zero.2 Magnitude.one_pos.ne'
  rw [Magnitude.value, hn.magnitude_units, Nat.cast_mul, mul_div_cancel_right₀ _ hone]

namespace Decimal

open Numeral

/-- A power of ten has a single digit. -/
theorem normalized_power (e : Int) :
    (⟨[1], e⟩ : Decimal).Normalized ∧ (⟨[1], e⟩ : Decimal).number = 10 ^ e := by
  refine ⟨⟨⟨by simp, by simp⟩, by simp [Numeral.value]⟩, ?_⟩
  simp [number, place, Numeral.value]

/-- The digits of a whole number, with its number. -/
theorem normalized_whole {n : Nat} (hn : 0 < n) :
    (⟨Numeral.digits 10 n, (Numeral.digits 10 n).length - 1⟩ : Decimal).Normalized ∧
      (⟨Numeral.digits 10 n, (Numeral.digits 10 n).length - 1⟩ : Decimal).number = n := by
  obtain ⟨hnormal, hnumber⟩ := normalized_digits hn ((Numeral.digits 10 n).length - 1)
  refine ⟨hnormal, ?_⟩
  simpa using hnumber

/-- Digits that do not start with a zero are those of their value. -/
theorem Normalized.digits_value {d : Decimal} (hd : d.Normalized) :
    Numeral.digits 10 (value 10 d.digits) = d.digits := by
  have hlen := length_digits_eq (by decide : 2 ≤ 10) (List.length_pos_iff.2 hd.nonempty) hd.leading
    (value_lt_pow_length hd.toWellFormed)
  have hpadded := padded_digits_value (by decide : 2 ≤ 10) hd.lt_ten
  rwa [padded, hlen, Nat.sub_self, List.replicate_zero, List.nil_append] at hpadded

/-- Digits without a fraction are laid out one after another, filled up with zeros. -/
theorem plainChars_whole {d : Decimal} (hd : d.WellFormed) {zeros : Nat} (hplace : d.place = zeros)
    (hlarge : d.exponent < positionalLimit) :
    d.plainChars = digitChars (d.digits ++ List.replicate zeros 0) := by
  have hlen := List.length_pos_iff.2 hd.nonempty
  rw [place] at hplace
  have hplain : positionalLeast ≤ d.exponent ∧ d.exponent < positionalLimit := by
    rw [positionalLeast]
    omega
  have hfill : d.exponent.toNat + 1 - d.digits.length = zeros := by omega
  have hlength : (d.digits ++ List.replicate zeros 0).length ≤ d.exponent.toNat + 1 := by
    simp only [List.length_append, List.length_replicate]
    omega
  rw [plainChars, if_pos hplain, positionalChars, if_pos (by omega)]
  dsimp only
  rw [hfill, withPoint, if_pos hlength]

/-- A decimal without a fraction is written as the numeral of what it stands for. -/
theorem Normalized.plainChars_eq {d : Decimal} (hd : d.Normalized) {zeros : Nat}
    (hplace : d.place = zeros) (hlarge : d.exponent < positionalLimit) :
    d.plainChars = natChars 10 (value 10 d.digits * 10 ^ zeros) := by
  have hpos : 0 < value 10 d.digits := Nat.lt_of_lt_of_le (Nat.pow_pos (by decide)) hd.leading
  have hvalue : value 10 d.digits * 10 ^ zeros ≠ 0 :=
    (Nat.mul_pos hpos (Nat.pow_pos (by decide))).ne'
  rw [plainChars_whole hd.toWellFormed hplace hlarge, natChars, if_neg hvalue,
    digits_mul_pow (by decide) hpos, hd.digits_value]
  rfl

end Decimal

namespace Magnitude

open Double Decimal

variable {n : Nat} {d : Decimal}

/-- Below a power of two, from 2^53 on, magnitudes lie no farther apart than their last bit. -/
theorem gap_le_of_lt {units : Nat} (bits : Nat) (h : units < 2 ^ (53 + bits) * one) :
    gap units ≤ 2 ^ bits * one := by
  obtain ⟨unitBits, hone⟩ := one_eq_two_pow
  rw [hone, ← Nat.pow_add] at h ⊢
  apply Nat.pow_le_pow_right (by decide)
  by_cases hzero : units = 0
  · simp [hzero, Nat.log2_zero]
  · have hlog := (Nat.log2_lt hzero).2 h
    omega

/-- Whole numbers up to 2^53 lie no farther apart than one, and only from 2^53 it is two to the
next double. -/
theorem gap_whole_le (hle : n ≤ 2 ^ (53 : Nat)) :
    gap (n * one - 1) ≤ one ∧ gap (n * one) ≤ 2 * one ∧
      (n < 2 ^ (53 : Nat) → gap (n * one) ≤ one) := by
  have hone := one_pos
  have hbelow := @gap_le_of_lt (n * one - 1) 0
  have habove := @gap_le_of_lt (n * one) 1
  have hstrict := @gap_le_of_lt (n * one) 0
  have hunits := Nat.mul_le_mul_right one hle
  have hless : n < 2 ^ (53 : Nat) → n * one < 2 ^ (53 : Nat) * one := fun hlt =>
    Nat.mul_lt_mul_of_pos_right hlt hone
  generalize one = one at *
  omega

/-- A whole number that is rounded to one up to 2^53 is that number, or the one after 2^53. -/
theorem Attracts.whole_cases (hn : Exact n) (hle : n ≤ 2 ^ (53 : Nat)) {written : Nat}
    (h : hn.magnitude.Attracts written) : written = n ∨ written = n + 1 ∧ n = 2 ^ (53 : Nat) := by
  have hone := one_pos
  obtain ⟨hbelow, habove, hstrict⟩ := gap_whole_le hle
  obtain ⟨hlow, hhigh⟩ := h
  rw [hn.magnitude_units] at hlow hhigh
  generalize one = one at *
  norm_cast at hlow hhigh
  have hleast : 2 * n * one ≤ (2 * written + 1) * one := by
    rw [Nat.add_mul, Nat.mul_assoc, Nat.mul_assoc]
    omega
  have hmost : 2 * written * one ≤ (2 * n + 2) * one := by
    rw [Nat.add_mul, Nat.mul_assoc, Nat.mul_assoc]
    omega
  have hless : n < 2 ^ (53 : Nat) → 2 * written * one ≤ (2 * n + 1) * one := fun hlt => by
    have := hstrict hlt
    rw [Nat.add_mul, Nat.mul_assoc, Nat.mul_assoc]
    omega
  rw [Nat.mul_le_mul_right_iff hone] at hleast hmost
  rw [Nat.mul_le_mul_right_iff hone] at hless
  omega

/-- All digits of a whole number are read as it. -/
theorem toDouble_whole (hn : Exact n) (hpos : 0 < n) :
    (⟨Numeral.digits 10 n, (Numeral.digits 10 n).length - 1⟩ : Decimal).toDouble false =
      .finite false hn.magnitude := by
  rw [toDouble_eq_iff, (normalized_whole hpos).2, ← hn.value_magnitude]
  exact hn.magnitude.attracts_value

/-- The shortest digits of a whole number are no more than it has, and none of them stands in a
fraction. -/
theorem IsShortest.whole (hn : Exact n) (hpos : 0 < n) (h : hn.magnitude.IsShortest d) :
    d.digits.length ≤ (Numeral.digits 10 n).length ∧
      (Numeral.digits 10 n).length ≤ d.digits.length + d.place := by
  have hvalue := hn.value_magnitude
  have hself := hn.magnitude.attracts_value
  obtain ⟨hnormal, hnumber⟩ := normalized_whole hpos
  refine ⟨h.fewest _ hnormal (toDouble_whole hn hpos), ?_⟩
  -- digits that start further down are beaten by the power of ten that the number starts with
  by_contra hshort
  obtain ⟨hpower, hten⟩ := normalized_power ((Numeral.digits 10 n).length - 1)
  have hfirst := hnormal.number_bounds.1
  rw [hnumber] at hfirst
  have hbelow : d.number < 10 ^ (((Numeral.digits 10 n).length : Int) - 1) := by
    apply lt_of_lt_of_le h.normalized.number_bounds.2
    apply zpow_le_zpow_right₀ (by norm_num)
    rw [Decimal.place] at hshort
    omega
  have hread := (toDouble_eq_iff false).1 h.reads
  have hbetween := hread.between hself hbelow.le (by rwa [hvalue])
  rw [← hten, ← toDouble_eq_iff false] at hbetween
  have hlen := List.length_pos_iff.2 h.normalized.nonempty
  have hone := h.fewest _ hpower hbetween
  have hnear := h.nearest _ hpower hbetween (Nat.le_antisymm hlen hone)
  rw [hten, hvalue, abs_of_nonpos (by linarith), abs_of_nonpos (by linarith)] at hnear
  linarith

/-- The shortest digits of a whole number stand for a whole number that is rounded to it, and up to
2^53 for the number itself. -/
theorem IsShortest.exists_written (hn : Exact n) (hpos : 0 < n)
    (h : hn.magnitude.IsShortest d) :
    ∃ places : Nat, d.place = places ∧
      .ofNat (Numeral.value 10 d.digits * 10 ^ places) = Double.ofNat n ∧
      (n ≤ 2 ^ (53 : Nat) → Numeral.value 10 d.digits * 10 ^ places = n) := by
  obtain ⟨hfew, hreach⟩ := h.whole hn hpos
  obtain ⟨places, hplaces⟩ := Int.eq_ofNat_of_zero_le (show 0 ≤ d.place by omega)
  have hnumber := number_of_place hplaces
  have hattracts := (toDouble_eq_iff false).1 h.reads
  refine ⟨places, hplaces, ?_, fun hle => ?_⟩
  · have hreads := h.reads
    rw [Decimal.toDouble, hplaces, ofDecimal_eq_nearest, Int.toNat_natCast,
      Int.toNat_of_nonpos (by omega), ← hn.ofNat_eq] at hreads
    exact hreads
  rw [hnumber] at hattracts
  rcases hattracts.whole_cases hn hle with hsame | ⟨hnext, hlimit⟩
  · exact hsame
  cases places with
  | zero =>
      -- all digits of the number are as many, and nearer
      obtain ⟨hnormal, hself⟩ := normalized_whole hpos
      have hnear := h.nearest _ hnormal (toDouble_whole hn hpos)
        (show (Numeral.digits 10 n).length = _ by omega)
      rw [hself, hn.value_magnitude, sub_self, abs_zero, abs_nonpos_iff, sub_eq_zero, hnumber] at hnear
      exact_mod_cast hnear
  | succ places =>
      rw [Nat.pow_succ, ← Nat.mul_assoc] at hnext
      omega

end Magnitude

namespace Double

open Numeral

variable {n : Nat} {printer : DecimalPrinter}

/-- The first power of ten that is written with an exponent is a double. -/
theorem exact_positional : Exact (10 ^ (21 : Nat)) where
  onGrid := by decide
  bounded := by decide +kernel

/-- What is rounded to a whole number below 10^21 lies below it as well. -/
theorem Exact.written_lt (hn : Exact n) (hlt : n < 10 ^ (21 : Nat)) {written : Nat}
    (h : ofNat written = .ofNat n) : written < 10 ^ (21 : Nat) := by
  by_contra hlarge
  have hless := hn.stored.less_ofUnits exact_positional.stored
    (Nat.mul_lt_mul_of_pos_right hlt Magnitude.one_pos)
    (Nat.mul_le_mul_right Magnitude.one (Nat.not_lt.1 hlarge))
  rw [← ofNat_eq_ofUnits, ← ofNat_eq_ofUnits, h, hn.less_iff hn] at hless
  exact Nat.lt_irrefl n hless

/-- The plain text of a whole number below 10^21 is a numeral below 10^21 as well, of a number that
rounds to it; up to 2^53 that is the number itself. -/
theorem exists_plain (hprinter : printer.Documented) (hn : Exact n) (hlt : n < 10 ^ (21 : Nat))
    (negative : Bool) :
    ∃ written : Nat, written < 10 ^ (21 : Nat) ∧ ofNat written = .ofNat n ∧
      (n ≤ 2 ^ (53 : Nat) → written = n) ∧
      printer.plain (.finite negative hn.magnitude) =
        signed (negative && hn.magnitude.units != 0) (natChars 10 written) := by
  rcases Nat.eq_zero_or_pos n with rfl | hpos
  · have hunits : hn.magnitude.units = 0 := by simp [hn.magnitude_units]
    have hzero : hn.magnitude = .zero := Magnitude.ext hunits
    have hchars : natChars 10 0 = ['0'] := by decide
    refine ⟨0, by decide, rfl, fun _ => rfl, ?_⟩
    rw [hunits, hzero, hprinter.zero, hchars, bne_self_eq_false, Bool.and_false]
    rfl
  have hunits := hn.units_pos hpos
  obtain ⟨d, hd, hplain⟩ := hprinter.nonzero negative hunits
  obtain ⟨places, hplace, hround, hsame⟩ := hd.exists_written hn hpos
  have hsmall := hn.written_lt hlt hround
  have hlarge : d.exponent < Decimal.positionalLimit := by
    have hfirst := hd.normalized.number_bounds.1
    have hbound : d.number < 10 ^ (21 : Int) := by
      rw [Decimal.number_of_place hplace]
      exact_mod_cast hsmall
    exact (zpow_lt_zpow_iff_right₀ (by norm_num)).1 (hfirst.trans_lt hbound)
  refine ⟨_, hsmall, hround, hsame, ?_⟩
  rw [hplain, hd.normalized.plainChars_eq hplace hlarge, bne_iff_ne.2 hunits.ne', Bool.and_true]

/-- The plain text of a whole number up to 2^53 is its decimal numeral. -/
theorem plain_ofNat (hprinter : printer.Documented) (hle : n ≤ 2 ^ (53 : Nat)) :
    printer.plain (.ofNat n) = natChars 10 n := by
  have hn : Exact n := by
    rcases hle.lt_or_eq with hlt | rfl
    · exact .of_lt hlt
    · exact .exactLimit
  have hlt : n < 10 ^ (21 : Nat) := by omega
  obtain ⟨written, -, -, hwritten, hplain⟩ := exists_plain hprinter hn hlt false
  rw [hn.ofNat_eq, hplain, hwritten hle]
  rfl

end Double

end ScriptValues
