import Mathlib.Data.List.Induction
import ScriptValues.Double.Arithmetic
import ScriptValues.Double.Integer
import ScriptValues.NumericText
import ScriptValues.Proofs.Nearest
import ScriptValues.Proofs.Numeral
import ScriptValues.Proofs.Units
import ScriptValues.Radix

/-!
Whole numbers among the doubles. Arithmetic on whole doubles is exact as soon as the result is one
again. What is left of a double when its last bits are cut off is a double, so both digit loops, the
one that takes a number apart and the one that puts it together, are exact in a base that is a power
of two.
-/

namespace ScriptValues

namespace Double

/-- A natural number that is a double: it has at most 53 significant bits and is not too large. -/
structure Exact (n : Nat) : Prop where
  onGrid : Magnitude.gap n ∣ n
  bounded : n * Magnitude.one < Magnitude.limit

theorem ofNat_zero : ofNat 0 = .zero := by
  rw [ofNat, Nat.zero_mul]
  exact nearest_eq_zero false (by decide)

theorem limit_le_two_pow_maxSteps : Magnitude.limit ≤ 2 ^ Radix.maxSteps := by
  decide +kernel

namespace Exact

variable {a b n : Nat}

theorem of_lt (h : n < 2 ^ (53 : Nat)) : Exact n where
  onGrid := by
    rw [Magnitude.gap_of_lt h]
    exact Nat.one_dvd n
  bounded :=
    Nat.lt_trans (Nat.mul_lt_mul_of_pos_right h Magnitude.one_pos) Magnitude.two_pow_mul_one_lt_limit

theorem exactLimit : Exact (2 ^ (53 : Nat)) where
  onGrid := by decide
  bounded := Magnitude.two_pow_mul_one_lt_limit

/-- The digit loops take more steps than a whole double has bits. -/
theorem lt_maxSteps (h : Exact n) : n < 2 ^ Radix.maxSteps :=
  calc
    n ≤ n * Magnitude.one := Nat.le_mul_of_pos_right n Magnitude.one_pos
    _ < Magnitude.limit := h.bounded
    _ ≤ 2 ^ Radix.maxSteps := limit_le_two_pow_maxSteps

/-- The whole part of a magnitude is a double. -/
theorem of_magnitude (m : Magnitude) : Exact (m.units / Magnitude.one) where
  onGrid := by
    obtain ⟨bits, hone⟩ := Magnitude.one_eq_two_pow
    rw [hone]
    exact Magnitude.gap_dvd_div_pow m.onGrid bits
  bounded := Nat.lt_of_le_of_lt (Nat.div_mul_le_self _ _) m.bounded

theorem div_two_pow (h : Exact n) (bits : Nat) : Exact (n / 2 ^ bits) where
  onGrid := Magnitude.gap_dvd_div_pow h.onGrid bits
  bounded :=
    Nat.lt_of_le_of_lt (Nat.mul_le_mul_right _ (Nat.div_le_self _ _)) h.bounded

theorem div_mul_two_pow (h : Exact n) (bits : Nat) : Exact (n / 2 ^ bits * 2 ^ bits) where
  onGrid := Magnitude.gap_dvd_div_mul_pow h.onGrid bits
  bounded :=
    Nat.lt_of_le_of_lt (Nat.mul_le_mul_right _ (Nat.div_mul_le_self _ _)) h.bounded

/-- The magnitude of a whole number. -/
def magnitude (h : Exact n) : Magnitude where
  units := n * Magnitude.one
  onGrid := by
    obtain ⟨bits, hone⟩ := Magnitude.one_eq_two_pow
    rw [hone]
    exact Magnitude.gap_dvd_mul_two_pow h.onGrid bits
  bounded := h.bounded

theorem magnitude_units (h : Exact n) : h.magnitude.units = n * Magnitude.one := rfl

theorem stored (h : Exact n) : Stored (n * Magnitude.one) := .of_magnitude h.magnitude

theorem units_pos (h : Exact n) (hpos : 0 < n) : 0 < h.magnitude.units :=
  Nat.mul_pos hpos Magnitude.one_pos

theorem ofNat_eq (h : Exact n) : ofNat n = .finite false h.magnitude :=
  nearest_units false h.magnitude

theorem trunc (h : Exact n) : (ofNat n).trunc = ofNat n := by
  rw [h.ofNat_eq, Double.trunc, h.magnitude_units, Nat.mul_div_cancel n Magnitude.one_pos]
  exact nearest_units false h.magnitude

theorem rem_magnitude (ha : Exact a) (hb : Exact b) (hpos : 0 < b) (negative : Bool) :
    (finite negative ha.magnitude).rem (ofNat b) = nearest negative (a % b * Magnitude.one) 1 := by
  have hunits : b * Magnitude.one ≠ 0 := (Nat.mul_pos hpos Magnitude.one_pos).ne'
  rw [hb.ofNat_eq]
  simp only [Double.rem, magnitude, hunits, if_false, Nat.mul_mod_mul_right]

theorem rem (ha : Exact a) (hb : Exact b) (hpos : 0 < b) :
    (ofNat a).rem (ofNat b) = ofNat (a % b) := by
  rw [ha.ofNat_eq, ha.rem_magnitude hb hpos, ofNat]

/-- A negative number that is not larger is taken away. -/
theorem negative_add (ha : Exact a) (hb : Exact b) (hle : a ≤ b) :
    (finite true ha.magnitude).add (ofNat b) = ofNat (b - a) := by
  have htotal : signedUnits true ha.magnitude + signedUnits false hb.magnitude =
      ((b - a) * Magnitude.one : Nat) := by
    have hunits := Nat.mul_le_mul_right Magnitude.one hle
    simp only [signedUnits, magnitude_units, if_true, Bool.false_eq_true, if_false, Nat.sub_mul]
    omega
  rw [hb.ofNat_eq, Double.add, htotal]
  exact nearest_natAbs rfl

theorem wholePart_magnitude (h : Exact n) (negative : Bool) :
    wholePart negative h.magnitude = if negative then -(n : Int) else n := by
  simp only [wholePart, magnitude]
  rw [Nat.mul_div_cancel n Magnitude.one_pos]

/-- The residue of a whole double is exact, also where the divisor is added to a negative
remainder. -/
theorem toExtendedInt_remEuclid (ha : Exact a) (hpos : 0 < b) (hsmall : b < 2 ^ (53 : Nat))
    (negative : Bool) :
    ((finite negative ha.magnitude).remEuclid (ofNat b)).toExtendedInt =
      .ofInt (wholePart negative ha.magnitude % b) := by
  have hb : Exact b := .of_lt hsmall
  have hlt : a % b < b := Nat.mod_lt a hpos
  have hrest : Exact (a % b) := .of_lt (Nat.lt_trans hlt hsmall)
  have hrem : (finite negative ha.magnitude).rem (ofNat b) = .finite negative hrest.magnitude := by
    rw [ha.rem_magnitude hb hpos]
    exact nearest_units negative hrest.magnitude
  have habs : (ofNat b).abs = ofNat b := by rw [hb.ofNat_eq, abs]
  rw [remEuclid, hrem, less_zero, ha.wholePart_magnitude, habs]
  by_cases hnegative : negative = true ∧ 0 < a % b
  -- what is added up is the distance to the divisor, a whole number below it
  · obtain ⟨rfl, hrestPos⟩ := hnegative
    have hdistance : Exact (b - a % b) := .of_lt (by omega)
    have hdvd : ¬ (b : Int) ∣ a := fun h =>
      hrestPos.ne' (Nat.mod_eq_zero_of_dvd (Int.natCast_dvd_natCast.1 h))
    rw [if_pos (by simpa using (hrest.units_pos hrestPos).ne'),
      hrest.negative_add hb (Nat.le_of_lt hlt), hdistance.ofNat_eq, toExtendedInt,
      hdistance.wholePart_magnitude, if_pos rfl, if_neg Bool.false_ne_true, Int.neg_emod,
      if_neg hdvd, Int.natAbs_natCast, Int.ofNat_sub (Nat.le_of_lt hlt), Int.natCast_mod]
  · have hkeep : ¬ (negative && hrest.magnitude.units != 0) = true := by
      rw [Bool.and_eq_true, bne_iff_ne]
      rintro ⟨htrue, hne⟩
      refine hnegative ⟨htrue, Nat.pos_of_ne_zero fun hzero => hne ?_⟩
      rw [magnitude_units, hzero, Nat.zero_mul]
    rw [if_neg hkeep, toExtendedInt, hrest.wholePart_magnitude]
    cases negative with
    | false => exact congrArg ExtendedInt.ofInt (Int.natCast_mod a b)
    | true =>
        have hzero : a % b = 0 := Nat.eq_zero_of_not_pos fun h => hnegative ⟨rfl, h⟩
        have hdvd : (b : Int) ∣ a := Int.natCast_dvd_natCast.2 (Nat.dvd_of_mod_eq_zero hzero)
        rw [if_pos rfl, if_pos rfl, hzero, Int.neg_emod, if_pos hdvd]
        rfl

theorem sub (ha : Exact a) (hb : Exact b) (hle : b ≤ a) :
    (ofNat a).sub (ofNat b) = ofNat (a - b) := by
  have hunits : b * Magnitude.one ≤ a * Magnitude.one := Nat.mul_le_mul_right _ hle
  rw [ofNat_eq_ofUnits, ofNat_eq_ofUnits, ha.stored.sub hb.stored hunits, ← Nat.sub_mul,
    ofNat_eq_ofUnits]

theorem add (ha : Exact a) (hb : Exact b) : (ofNat a).add (ofNat b) = ofNat (a + b) := by
  rw [ofNat_eq_ofUnits, ofNat_eq_ofUnits, ha.stored.add hb.stored, ← Nat.add_mul,
    ofNat_eq_ofUnits]

theorem mul (ha : Exact a) (hb : Exact b) : (ofNat a).mul (ofNat b) = ofNat (a * b) := by
  rw [ofNat_eq_ofUnits a, ha.stored.mul_ofNat hb.stored, Nat.mul_right_comm, ofNat_eq_ofUnits]

theorem mul_div (hab : Exact (a * b)) (hb : Exact b) (hpos : 0 < b) :
    (ofNat (a * b)).div (ofNat b) = ofNat a := by
  have hunits : 0 < b * Magnitude.one := Nat.mul_pos hpos Magnitude.one_pos
  rw [hab.ofNat_eq, hb.ofNat_eq]
  simp only [Double.div, magnitude, ne_eq, hunits.ne', not_false_eq_true, if_true, Bool.xor_false]
  apply nearest_congr _ hunits Nat.one_pos
  ring

theorem less_iff (ha : Exact a) (hb : Exact b) : (ofNat a).less (ofNat b) = true ↔ a < b := by
  rw [ofNat_eq_ofUnits, ofNat_eq_ofUnits, ha.stored.less_iff hb.stored]
  exact Nat.mul_lt_mul_right Magnitude.one_pos

theorem atMost_iff (ha : Exact a) (hb : Exact b) : (ofNat a).atMost (ofNat b) = true ↔ a ≤ b := by
  rw [ofNat_eq_ofUnits, ofNat_eq_ofUnits, ha.stored.atMost_iff hb.stored]
  exact Nat.mul_le_mul_right_iff Magnitude.one_pos

theorem wholeUnits_eq (h : Exact n) : Radix.wholeUnits (ofNat n) = n := by
  rw [ofNat_eq_ofUnits, h.stored.wholeUnits_eq]
  exact Nat.mul_div_cancel n Magnitude.one_pos

end Exact

/-- A finite double without a fraction is a whole number with a sign. -/
theorem exists_exact_of_trunc_eq {x : Double} (hfinite : x.isFinite = true) (hwhole : x.trunc = x) :
    ∃ negative n, ∃ hn : Exact n, x = .finite negative hn.magnitude := by
  cases x with
  | nan => cases hfinite
  | infinite negative => cases hfinite
  | finite negative m =>
      refine ⟨negative, _, Exact.of_magnitude m, ?_⟩
      rw [← hwhole]
      exact nearest_units negative (Exact.of_magnitude m).magnitude

theorem toNat_toWord {x : Double} {n : Int} (h : x.toExtendedInt = .ofInt n) (hnonneg : 0 ≤ n)
    (hlt : n < 2 ^ (32 : Nat)) : x.toWord.toNat = n := by
  have hmin : min n.toNat (2 ^ (32 : Nat) - 1) = n.toNat := by omega
  rw [toWord, h]
  dsimp only
  rw [hmin, UInt32.toNat_ofNat', Nat.mod_eq_of_lt (by omega)]
  omega

/-- The residue of a double that is read with a sign is that of its whole part. -/
theorem toInt32_finite (negative : Bool) (m : Magnitude) :
    (finite negative m).toInt32 = (wholePart negative m).bmod (2 ^ (32 : Nat)) := by
  have hn := Exact.of_magnitude m
  have hwhole : wholePart negative hn.magnitude = wholePart negative m := hn.wholePart_magnitude _
  have htrunc : (finite negative m).trunc = .finite negative hn.magnitude :=
    nearest_units negative hn.magnitude
  rw [toInt32]
  split
  · next hzero =>
    have hunits : m.units = 0 := by simpa [isFinite, isZero] using hzero
    simp [wholePart, hunits]
  · have hresidue := hn.toExtendedInt_remEuclid (b := 2 ^ (32 : Nat)) (by decide) (by decide) negative
    have hword := toNat_toWord hresidue (Int.emod_nonneg _ (by decide)) (Int.emod_lt_of_pos _ (by decide))
    have hsigned : ∀ w : UInt32, w.toInt32.toInt = (w.toNat : Int).bmod (2 ^ (32 : Nat)) :=
      fun w => w.toBitVec.toInt_eq_toNat_bmod
    rw [htrunc, hsigned, hword, hwhole]
    exact Int.emod_bmod _ _

theorem toInt32_ofInt {base : Nat} (hbase : base < 2 ^ (31 : Nat)) :
    (Double.ofInt base).toInt32 = base := by
  have hexact : Exact base := .of_lt (Nat.lt_trans hbase (by decide))
  have hofInt : Double.ofInt base = .finite false hexact.magnitude := by
    rw [← hexact.ofNat_eq, ofInt, ofNat, decide_eq_false (by omega), Int.natAbs_natCast]
  rw [hofInt, toInt32_finite, hexact.wholePart_magnitude, if_neg Bool.false_ne_true]
  exact Int.bmod_eq_of_le (by omega) (by omega)

end Double

namespace Radix

open Double

/-- In a base that is a power of two the digit loop finds the digits of a whole number: remainder,
difference and quotient are all exact. -/
theorem largeDigits_eq {bits : Nat} (hbits : 0 < bits) (hsmall : bits < 53) (fuel n : Nat)
    (lower : List Nat) (hn : Exact n) (hfuel : n < 2 ^ fuel) :
    largeDigits (.ofNat (2 ^ bits)) fuel (.ofNat n) lower =
      Numeral.digits (2 ^ bits) n ++ lower := by
  have hbase : 2 ≤ 2 ^ bits := Nat.le_pow hbits
  have hbaseLt : 2 ^ bits < 2 ^ (53 : Nat) := Nat.pow_lt_pow_right (by decide) hsmall
  have hone : Exact 1 := .of_lt (by decide)
  induction fuel generalizing n lower with
  | zero =>
      obtain rfl : n = 0 := by simpa using hfuel
      simp [largeDigits, Numeral.digits_eq_reverse hbase]
  | succ fuel ih =>
      by_cases hzero : n = 0
      · subst hzero
        have hstop : ¬ Double.one.atMost (.ofNat 0) = true := by
          rw [Double.one, hone.atMost_iff hn]
          decide
        simp [largeDigits, hstop, Numeral.digits_eq_reverse hbase]
      · have hgo : Double.one.atMost (.ofNat n) = true := (hone.atMost_iff hn).2 (by omega)
        have hdigit := Nat.mod_lt n (show 0 < 2 ^ bits by omega)
        have hdigitExact : Exact (n % 2 ^ bits) := .of_lt (by omega)
        have hbaseExact : Exact (2 ^ bits) := .of_lt hbaseLt
        have hrest : n - n % 2 ^ bits = n / 2 ^ bits * 2 ^ bits := by
          have := Nat.div_add_mod' n (2 ^ bits)
          omega
        have hquot : n / 2 ^ bits < 2 ^ fuel := by
          rw [Nat.pow_succ] at hfuel
          exact Nat.lt_of_le_of_lt (Nat.div_le_div_left hbase (by decide)) (by omega)
        -- remainder, difference and quotient are doubles, so no step rounds
        rw [largeDigits, if_pos hgo]
        dsimp only
        rw [hn.rem hbaseExact (by omega), hn.sub hdigitExact (Nat.mod_le _ _), hrest,
          (hn.div_mul_two_pow bits).mul_div hbaseExact (by omega), hdigitExact.wholeUnits_eq,
          ih _ _ (hn.div_two_pow bits) hquot,
          Numeral.digits_eq_append hbase (Nat.pos_of_ne_zero hzero), List.append_assoc]
        rfl

end Radix

namespace NumericText

open Double

theorem foldDigits_append_singleton (base : Nat) (ds : List Nat) (d : Nat) :
    foldDigits base (ds ++ [d]) = ((foldDigits base ds).mul (.ofNat base)).add (.ofNat d) := by
  rw [foldDigits, List.foldl_append]
  rfl

/-- In a base that is a power of two, digits that stand for a double are put together without
rounding, since so do all shorter runs of the digits from the first on. -/
theorem foldDigits_eq {bits : Nat} (hsmall : bits < 53) {ds : List Nat}
    (hds : ∀ d ∈ ds, d < 2 ^ bits) (hvalue : Exact (Numeral.value (2 ^ bits) ds)) :
    foldDigits (2 ^ bits) ds = .ofNat (Numeral.value (2 ^ bits) ds) := by
  have hbaseLt : 2 ^ bits < 2 ^ (53 : Nat) := Nat.pow_lt_pow_right (by decide) hsmall
  induction ds using List.reverseRecOn with
  | nil => exact ofNat_zero.symm
  | append_singleton ds d ih =>
      have hd : d < 2 ^ bits := hds d (by simp)
      rw [Numeral.value_append_singleton] at hvalue ⊢
      generalize Numeral.value (2 ^ bits) ds = front at *
      have hquot : (front * 2 ^ bits + d) / 2 ^ bits = front := by
        rw [Nat.mul_comm, Nat.mul_add_div (Nat.two_pow_pos bits), Nat.div_eq_of_lt hd,
          Nat.add_zero]
      -- the number before the last digit and its shift are the final number with bits cut off
      have hfront := hvalue.div_two_pow bits
      have hshifted := hvalue.div_mul_two_pow bits
      rw [hquot] at hfront hshifted
      rw [foldDigits_append_singleton, ih (fun e he => hds e (by simp [he])) hfront,
        hfront.mul (.of_lt hbaseLt), hshifted.add (.of_lt (by omega))]

end NumericText

end ScriptValues
