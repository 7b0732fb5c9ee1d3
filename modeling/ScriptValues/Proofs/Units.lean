import ScriptValues.Double.Arithmetic
import ScriptValues.Proofs.Nearest
import ScriptValues.Radix

/-!
Doubles as numbers of units. Rounding never crosses a magnitude, and two magnitudes are at least the
gap between them apart. On numbers of units that are magnitudes the arithmetic of doubles is
arithmetic of natural numbers with one rounding at its end, which does nothing when the result is a
magnitude again.
-/

namespace ScriptValues

namespace Magnitude

variable {units num den : Nat}

theorem one_eq_two_pow : ∃ bits, one = 2 ^ bits := by
  rw [one]
  generalize 1074 = bits
  exact ⟨bits, rfl⟩

theorem two_pow_mul_one_lt_limit : 2 ^ (53 : Nat) * one < limit := by decide +kernel

theorem two_pow_le_one : 2 ^ (53 : Nat) ≤ one := by decide +kernel

theorem gap_dvd_two_pow (bits : Nat) : gap (2 ^ bits) ∣ 2 ^ bits := by
  simpa using @gap_dvd_mul_pow 1 bits (by decide)

/-- The next multiple of the gap is a magnitude again, also when it is a power of two. -/
theorem gap_dvd_next (hgrid : gap units ∣ units) :
    gap (units + gap units) ∣ units + gap units := by
  have hfew : units / gap units < 2 ^ (53 : Nat) :=
    (Nat.div_lt_iff_lt_mul (gap_pos units)).2 (lt_mul_gap units)
  have hnext : units + gap units = (units / gap units + 1) * 2 ^ (units.log2 - 52) := by
    rw [Nat.succ_mul, ← gap, Nat.div_mul_cancel hgrid]
  rw [hnext]
  rcases Nat.lt_or_ge (units / gap units + 1) (2 ^ (53 : Nat)) with hsmall | hcarry
  · exact gap_dvd_mul_pow _ hsmall
  · rw [show units / gap units + 1 = 2 ^ (53 : Nat) by omega, ← Nat.pow_add]
    exact gap_dvd_two_pow _

/-- Cutting the first bits off a magnitude leaves a magnitude. -/
theorem gap_dvd_mod_pow (h : gap units ∣ units) (bits : Nat) :
    gap (units % 2 ^ bits) ∣ units % 2 ^ bits := by
  obtain ⟨significand, shift, hsignificand, hunits⟩ := (gap_dvd_iff units).1 h
  rw [gap_dvd_iff]
  rcases Nat.le_total bits shift with hle | hle
  · refine ⟨0, 0, by decide, ?_⟩
    rw [hunits, Nat.zero_mul]
    exact Nat.mod_eq_zero_of_dvd (Nat.dvd_mul_left_of_dvd (Nat.pow_dvd_pow 2 hle) _)
  · refine ⟨significand % 2 ^ (bits - shift), shift,
      Nat.lt_of_le_of_lt (Nat.mod_le _ _) hsignificand, ?_⟩
    rw [hunits, ← Nat.mul_mod_mul_right, ← Nat.pow_add, Nat.sub_add_cancel hle]

/-- Two multiples of a step are at least the step apart. -/
theorem add_le_of_dvd {step a b : Nat} (ha : step ∣ a) (hb : step ∣ b) (hlt : a < b) :
    a + step ≤ b := by
  have hstep : step ≤ b - a := Nat.le_of_dvd (Nat.sub_pos_of_lt hlt) (Nat.dvd_sub hb ha)
  omega

/-- From the last power of two on, the multiples of the gap are what lies on the grid. -/
private theorem two_pow_log2_le_floor (units : Nat) (hgap : 1 < gap units) :
    gap units ∣ 2 ^ units.log2 ∧ 2 ^ units.log2 ≤ units := by
  have hlog : 52 < units.log2 := by
    by_contra hle
    rw [gap, show units.log2 - 52 = 0 by omega, Nat.pow_zero] at hgap
    exact absurd hgap (by decide)
  have hzero : units ≠ 0 := by
    rintro rfl
    exact absurd hlog (by decide)
  exact ⟨Nat.pow_dvd_pow 2 (by omega), Nat.log2_self_le hzero⟩

/-- The next magnitude is a gap away. -/
theorem add_gap_le {a b : Nat} (ha : gap a ∣ a) (hb : gap b ∣ b) (hlt : a < b) :
    a + gap a ≤ b :=
  add_le_of_dvd ha (Nat.dvd_trans (gap_dvd_gap (Nat.le_of_lt hlt)) hb) hlt

/-- The magnitude before is the gap just below away. -/
theorem add_gap_pred_le {a b : Nat} (ha : gap a ∣ a) (hb : gap b ∣ b) (hlt : a < b) :
    a + gap (b - 1) ≤ b := by
  have hgrid : gap (b - 1) ∣ b := Nat.dvd_trans (gap_pred_dvd b) hb
  rcases Nat.lt_or_ge 1 (gap (b - 1)) with hcoarse | hfine
  · obtain ⟨hdvd, hpow⟩ := two_pow_log2_le_floor (b - 1) hcoarse
    rcases Nat.lt_or_ge a (2 ^ (b - 1).log2) with hsmall | hlarge
    · have := add_le_of_dvd hdvd hgrid (by omega)
      omega
    · have hsame : gap a = gap (b - 1) := by
        apply gap_eq_of_le_of_lt hlarge
        exact Nat.lt_of_le_of_lt (Nat.le_sub_one_of_lt hlt) Nat.lt_log2_self
      rw [hsame] at ha
      exact add_le_of_dvd ha hgrid hlt
  · omega

/-- A magnitude up to a quotient is at most the rounded quotient. -/
theorem le_nearestUnits (hden : 0 < den) (hgrid : gap units ∣ units) (h : units * den ≤ num) :
    units ≤ nearestUnits num den := by
  have hquot : units ≤ num / den := (Nat.le_div_iff_mul_le hden).2 h
  have hround := div_le_roundDiv .toEven num (den * gap (num / den))
  rw [← Nat.div_div_eq_div_mul] at hround
  generalize hq : num / den = quotient at *
  have hfloor : units ≤ quotient / gap quotient * gap quotient := by
    by_contra habove
    rw [Nat.not_le] at habove
    have hsplit := Nat.div_add_mod' quotient (gap quotient)
    have hrest := Nat.mod_lt quotient (gap_pos quotient)
    have hdvd : gap quotient ∣ quotient / gap quotient * gap quotient := Nat.dvd_mul_left _ _
    rcases Nat.lt_or_ge 1 (gap quotient) with hcoarse | hfine
    · obtain ⟨hpowDvd, hpow⟩ := two_pow_log2_le_floor quotient hcoarse
      have hpowFloor : 2 ^ quotient.log2 ≤ quotient / gap quotient * gap quotient := by
        by_contra hlt
        have := add_le_of_dvd hdvd hpowDvd (Nat.not_le.1 hlt)
        omega
      have hsame : gap units = gap quotient :=
        gap_eq_of_le_of_lt (by omega) (Nat.lt_of_le_of_lt hquot Nat.lt_log2_self)
      rw [hsame] at hgrid
      have := add_le_of_dvd hdvd hgrid habove
      omega
    · omega
  rw [nearestUnits, hq]
  exact Nat.le_trans hfloor (Nat.mul_le_mul_right _ hround)

/-- A magnitude from a quotient on is at least the rounded quotient. -/
theorem nearestUnits_le (hden : 0 < den) (hgrid : gap units ∣ units) (h : num ≤ units * den) :
    nearestUnits num den ≤ units := by
  rcases Nat.eq_or_lt_of_le h with rfl | hlt
  · exact Nat.le_of_eq (nearestUnits_mul hgrid hden)
  · have hquot : num / den < units := (Nat.div_lt_iff_lt_mul hden).2 hlt
    have hround := roundDiv_le .toEven num (den * gap (num / den))
    rw [← Nat.div_div_eq_div_mul] at hround
    rw [nearestUnits]
    generalize num / den = quotient at *
    have hstep : gap quotient ∣ units :=
      Nat.dvd_trans (gap_dvd_gap (Nat.le_of_lt hquot)) hgrid
    calc
      roundDiv .toEven num (den * gap quotient) * gap quotient
        ≤ (quotient / gap quotient + 1) * gap quotient := Nat.mul_le_mul_right _ hround
      _ = quotient / gap quotient * gap quotient + gap quotient := Nat.succ_mul _ _
      _ ≤ units :=
        add_le_of_dvd (Nat.dvd_mul_left _ _) hstep
          (Nat.lt_of_le_of_lt (Nat.div_mul_le_self _ _) hquot)

end Magnitude

namespace Double

/-- The double nearest to a number of units. -/
def ofUnits (units : Nat) : Double := nearest false units 1

/-- A number of units that is a magnitude. -/
structure Stored (units : Nat) : Prop where
  onGrid : Magnitude.gap units ∣ units
  bounded : units < Magnitude.limit

theorem ofNat_eq_ofUnits (n : Nat) : ofNat n = ofUnits (n * Magnitude.one) := rfl

/-- Only what has a sign and is not a zero is below zero. -/
theorem less_zero (negative : Bool) (m : Magnitude) :
    (Double.finite negative m).less .zero = (negative && m.units != 0) := by
  have hzero : zero.place? = some 0 := rfl
  have hplace : (Double.finite negative m).place? =
    some (if negative then -m.units else m.units : Int) := rfl
  rw [Bool.eq_iff_iff]
  simp only [less, order?, hzero, hplace, beq_iff_eq, Option.some.injEq, compare_lt_iff_lt,
    Bool.and_eq_true, bne_iff_ne]
  cases negative with
  | false => exact iff_of_false (by rw [if_neg Bool.false_ne_true]; omega) (by simp)
  | true =>
      rw [if_pos rfl]
      constructor
      · exact fun hlt => ⟨rfl, by omega⟩
      · rintro ⟨-, hne⟩
        omega

/-- Sums that are not negative round to the nearest double, zero included. -/
theorem nearest_natAbs {total : Int} {units : Nat} (h : total = units) :
    (if total = 0 then finite false .zero else nearest (decide (total < 0)) total.natAbs 1) =
      ofUnits units := by
  subst h
  by_cases hzero : units = 0
  · subst hzero
    exact (nearest_units false .zero).symm
  · rw [if_neg (by omega), decide_eq_false (by omega), Int.natAbs_natCast]
    rfl

/-- A quotient that is at most some magnitude is rounded to a magnitude. -/
theorem stored_nearestUnits {num den bound : Nat} (hden : 0 < den) (hbound : Stored bound)
    (h : num ≤ bound * den) : Stored (Magnitude.nearestUnits num den) ∧
      nearest false num den = ofUnits (Magnitude.nearestUnits num den) := by
  have hle : Magnitude.nearestUnits num den ≤ bound :=
    Magnitude.nearestUnits_le hden hbound.onGrid h
  have hstored : Stored (Magnitude.nearestUnits num den) :=
    ⟨Magnitude.gap_dvd_nearestUnits num den, Nat.lt_of_le_of_lt hle hbound.bounded⟩
  have hself : nearest false (Magnitude.nearestUnits num den) 1 =
      .finite false ⟨_, hstored.onGrid, hstored.bounded⟩ := nearest_units false ⟨_, _, _⟩
  refine ⟨hstored, ?_⟩
  rw [ofUnits, hself]
  exact nearest_eq_finite false rfl

/-- Rounding any number of units below some magnitude finds a magnitude, on the same side of every
other magnitude. -/
theorem exists_stored_of_le {units bound : Nat} (hbound : Stored bound) (h : units ≤ bound) :
    ∃ rounded, Stored rounded ∧ ofUnits units = ofUnits rounded ∧
      ∀ a, Stored a → (a ≤ units → a ≤ rounded) ∧ (units ≤ a → rounded ≤ a) := by
  obtain ⟨hstored, hround⟩ :=
    stored_nearestUnits Nat.one_pos hbound (show units ≤ bound * 1 by omega)
  refine ⟨_, hstored, hround, fun a ha => ⟨fun hle => ?_, fun hle => ?_⟩⟩
  · exact Magnitude.le_nearestUnits Nat.one_pos ha.onGrid (by omega)
  · exact Magnitude.nearestUnits_le Nat.one_pos ha.onGrid (by omega)

namespace Stored

variable {a b units : Nat}

theorem zero : Stored 0 := ⟨Nat.dvd_zero _, Magnitude.limit_pos⟩

theorem one : Stored 1 := ⟨Magnitude.gap_dvd_two_pow 0, by decide +kernel⟩

theorem mod_two_pow (h : Stored units) (bits : Nat) : Stored (units % 2 ^ bits) where
  onGrid := Magnitude.gap_dvd_mod_pow h.onGrid bits
  bounded := Nat.lt_of_le_of_lt (Nat.mod_le _ _) h.bounded

theorem mod_one (h : Stored units) : Stored (units % Magnitude.one) := by
  obtain ⟨bits, hone⟩ := Magnitude.one_eq_two_pow
  rw [hone]
  exact h.mod_two_pow bits

/-- The magnitude of a number of units. -/
def magnitude (h : Stored units) : Magnitude := ⟨units, h.onGrid, h.bounded⟩

theorem of_magnitude (m : Magnitude) : Stored m.units := ⟨m.onGrid, m.bounded⟩

theorem ofUnits_eq (h : Stored units) : ofUnits units = .finite false h.magnitude :=
  nearest_units false h.magnitude

theorem place?_eq (h : Stored units) : (ofUnits units).place? = some (units : Int) := by
  rw [h.ofUnits_eq]
  rfl

theorem less_iff (ha : Stored a) (hb : Stored b) :
    (ofUnits a).less (ofUnits b) = true ↔ a < b := by
  rw [less, order?, ha.place?_eq, hb.place?_eq, beq_iff_eq, Option.some.injEq, compare_lt_iff_lt,
    Int.ofNat_lt]

/-- A magnitude is below what rounds to a larger magnitude at least. -/
theorem less_ofUnits (ha : Stored a) (hb : Stored b) (hab : a < b) {n : Nat} (hbn : b ≤ n) :
    (ofUnits a).less (ofUnits n) = true := by
  have hround : b ≤ Magnitude.nearestUnits n 1 :=
    Magnitude.le_nearestUnits Nat.one_pos hb.onGrid (by omega)
  have hplace : ∃ place : Int, (ofUnits n).place? = some place ∧ (a : Int) < place := by
    rw [ofUnits, nearest]
    split
    · exact ⟨_, rfl, by simp only [Bool.false_eq_true, if_false]; omega⟩
    · exact ⟨_, rfl, Int.ofNat_lt.2 ha.bounded⟩
  obtain ⟨place, hplace, hlt⟩ := hplace
  rw [less, order?, ha.place?_eq, hplace, beq_iff_eq, Option.some.injEq, compare_lt_iff_lt]
  exact hlt

/-- A magnitude is not below what is at most as large, rounded or not. -/
theorem not_less_ofUnits (ha : Stored a) {n : Nat} (hna : n ≤ a) :
    ¬ (ofUnits a).less (ofUnits n) = true := by
  obtain ⟨rounded, hrounded, heq, hside⟩ := exists_stored_of_le ha hna
  rw [heq, ha.less_iff hrounded]
  exact Nat.not_lt.2 ((hside a ha).2 hna)

theorem equal_iff (ha : Stored a) (hb : Stored b) :
    (ofUnits a).equal (ofUnits b) = true ↔ a = b := by
  rw [equal, ha.place?_eq, hb.place?_eq, beq_iff_eq, Int.ofNat_inj]

theorem atMost_iff (ha : Stored a) (hb : Stored b) :
    (ofUnits a).atMost (ofUnits b) = true ↔ a ≤ b := by
  rw [atMost, Bool.or_eq_true, ha.less_iff hb, ha.equal_iff hb]
  omega

theorem add (ha : Stored a) (hb : Stored b) :
    (ofUnits a).add (ofUnits b) = ofUnits (a + b) := by
  rw [ha.ofUnits_eq, hb.ofUnits_eq]
  exact nearest_natAbs (Int.natCast_add a b).symm

theorem sub (ha : Stored a) (hb : Stored b) (hle : b ≤ a) :
    (ofUnits a).sub (ofUnits b) = ofUnits (a - b) := by
  rw [ha.ofUnits_eq, hb.ofUnits_eq]
  apply nearest_natAbs
  simp only [signedUnits, magnitude, Bool.false_eq_true, if_false, Bool.not_false, if_true]
  omega

/-- A product with a whole number rounds the product of the units. -/
theorem mul_ofNat (ha : Stored a) (hb : Stored (b * Magnitude.one)) :
    (ofUnits a).mul (ofNat b) = ofUnits (a * b) := by
  rw [ofNat_eq_ofUnits, ha.ofUnits_eq, hb.ofUnits_eq]
  apply nearest_congr _ Magnitude.one_pos Nat.one_pos
  simp only [magnitude]
  ring

theorem wholeUnits_eq (h : Stored units) :
    Radix.wholeUnits (ofUnits units) = units / Magnitude.one := by
  rw [h.ofUnits_eq]
  rfl

end Stored

end Double

end ScriptValues
