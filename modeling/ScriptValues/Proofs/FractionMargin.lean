import Mathlib.Algebra.Order.Field.Basic
import Mathlib.Algebra.Order.Field.Rat
import Mathlib.Tactic.Linarith
import Mathlib.Tactic.Ring
import ScriptValues.Proofs.FractionDigits
import ScriptValues.Proofs.RadixText

/-!
Where the fraction digits of a double start and end. The margin is half of the gap to the next
double, except that it is a unit where the gap is one. It divides the fraction, so in a base that is
a power of two the digits are the whole fraction. In another base they are less than the margin away
from it when the base, one and the grid of the double together fit into 53 bits. They never carry
into the whole part then.
-/

namespace ScriptValues

namespace Magnitude

variable {units : Nat}

/-- A magnitude with a fraction lies on a grid that divides one. -/
theorem gap_dvd_one (hgrid : gap units ∣ units) (hfraction : units % one ≠ 0) :
    gap units ∣ one := by
  obtain ⟨top, hone⟩ := one_eq_two_pow
  have hnot : ¬ one ∣ gap units := by
    intro h
    exact hfraction (Nat.mod_eq_zero_of_dvd (Nat.dvd_trans h hgrid))
  rw [gap, hone] at hnot ⊢
  generalize units.log2 - 52 = bits at *
  rcases Nat.le_total bits top with hle | hle
  · exact Nat.pow_dvd_pow 2 hle
  · exact absurd (Nat.pow_dvd_pow 2 hle) hnot

/-- Half of the gap, but one unit at least. -/
def halfGap (units : Nat) : Nat := max (gap units / 2) 1

theorem two_pow_succ_half (bits : Nat) : 2 ^ (bits + 1) / 2 = 2 ^ bits := by
  rw [Nat.pow_succ, Nat.mul_div_cancel _ Nat.two_pos]

/-- The gap is a power of two, and half of the gap is the power before it, if there is one. -/
theorem halfGap_cases (units : Nat) :
    gap units = 1 ∧ halfGap units = 1 ∨
      ∃ shift, gap units = 2 ^ (shift + 1) ∧ halfGap units = 2 ^ shift := by
  rw [halfGap, gap]
  generalize units.log2 - 52 = bits
  cases bits with
  | zero => exact Or.inl ⟨rfl, rfl⟩
  | succ shift =>
      refine Or.inr ⟨shift, rfl, ?_⟩
      rw [two_pow_succ_half]
      exact Nat.max_eq_left (Nat.two_pow_pos shift)

theorem halfGap_pos (units : Nat) : 0 < halfGap units := Nat.le_max_right _ 1

theorem halfGap_eq_two_pow (units : Nat) : ∃ bits, halfGap units = 2 ^ bits := by
  rcases halfGap_cases units with ⟨-, hhalf⟩ | ⟨shift, -, hhalf⟩
  · exact ⟨0, hhalf⟩
  · exact ⟨shift, hhalf⟩

theorem halfGap_dvd_gap (units : Nat) : halfGap units ∣ gap units := by
  rcases halfGap_cases units with ⟨hgap, hhalf⟩ | ⟨shift, hgap, hhalf⟩
  · rw [hgap, hhalf]
  · rw [hgap, hhalf]
    exact Nat.pow_dvd_pow 2 (Nat.le_succ shift)

theorem gap_dvd_fraction (hgrid : gap units ∣ units) (hfraction : units % one ≠ 0) :
    gap units ∣ units % one :=
  (Nat.dvd_mod_iff (gap_dvd_one hgrid hfraction)).2 hgrid

/-- A magnitude with a fraction has at most 53 bits in front of it. -/
theorem div_one_lt (hgrid : gap units ∣ units) (hfraction : units % one ≠ 0) :
    units / one < 2 ^ (53 : Nat) := by
  rw [Nat.div_lt_iff_lt_mul one_pos]
  calc
    units < 2 ^ (53 : Nat) * gap units := lt_mul_gap units
    _ ≤ 2 ^ (53 : Nat) * one :=
      Nat.mul_le_mul_left _ (Nat.le_of_dvd one_pos (gap_dvd_one hgrid hfraction))

/-- The fraction of a magnitude is half of the gap at least, and as much below one. -/
theorem halfGap_bounds (hgrid : gap units ∣ units) (hfraction : units % one ≠ 0) :
    halfGap units ≤ units % one ∧ units % one + halfGap units ≤ one := by
  have hhalf := halfGap_dvd_gap units
  have hdvd := Nat.dvd_trans hhalf (gap_dvd_fraction hgrid hfraction)
  have hone := Nat.dvd_trans hhalf (gap_dvd_one hgrid hfraction)
  exact ⟨Nat.le_of_dvd (Nat.pos_of_ne_zero hfraction) hdvd,
    add_le_of_dvd hdvd hone (Nat.mod_lt units one_pos)⟩

end Magnitude

namespace Double

namespace Stored

variable {a b units : Nat}

/-- The distance from a double with a fraction to the next one is a double, and so is the next
one. -/
theorem add_gap (h : Stored units) (hfraction : units % Magnitude.one ≠ 0) :
    Stored (Magnitude.gap units) ∧ Stored (units + Magnitude.gap units) := by
  have hlimit := Magnitude.two_pow_mul_one_lt_limit
  have hgap := Nat.le_of_dvd Magnitude.one_pos (Magnitude.gap_dvd_one h.onGrid hfraction)
  have htop := Nat.mul_le_mul_left (2 ^ (53 : Nat)) hgap
  have hnext := Magnitude.add_le_of_dvd h.onGrid (Nat.dvd_mul_left _ _) (Magnitude.lt_mul_gap units)
  exact ⟨⟨Magnitude.gap_dvd_two_pow _, by omega⟩, Magnitude.gap_dvd_next h.onGrid, by omega⟩

theorem mul (ha : Stored a) (hb : Stored b) :
    (ofUnits a).mul (ofUnits b) = nearest false (a * b) Magnitude.one := by
  rw [ha.ofUnits_eq, hb.ofUnits_eq]
  rfl

theorem max_leastPositive (h : Stored a) :
    (ofUnits a).max .leastPositive = ofUnits (Max.max a 1) := by
  have hnumber : (ofUnits a).isNaN = false := by
    rw [h.ofUnits_eq]
    rfl
  rw [Double.max, hnumber, if_neg Bool.false_ne_true]
  split
  · next hless =>
    have hlt := (h.less_iff one).1 hless
    rw [Nat.max_eq_right (Nat.le_of_lt hlt)]
    rfl
  · next hless =>
    have hle := Nat.le_of_not_lt fun hlt => hless ((h.less_iff one).2 hlt)
    rw [Nat.max_eq_left hle]

end Stored

end Double

namespace Radix

open Double Numeral

variable {m : Magnitude}

/-- Half of a power of two of units; half of one unit is rounded to nothing. -/
theorem half_mul_two_pow {bits : Nat} (h : Stored (2 ^ bits)) :
    Double.half.mul (ofUnits (2 ^ bits)) = ofUnits (2 ^ bits / 2) ∧ Stored (2 ^ bits / 2) := by
  obtain ⟨half, hone, hstored, -, heq⟩ := exists_half_one
  rw [heq, hstored.mul h]
  cases bits with
  | zero =>
      have hgap : Magnitude.gap 0 = 1 := by decide
      have hvanish : Magnitude.nearestUnits (half * 2 ^ 0) Magnitude.one = 0 := by
        rw [Nat.pow_zero, Nat.mul_one]
        apply Magnitude.nearestUnits_eq Magnitude.one_pos (Nat.dvd_zero _)
        · simp
        · simp [hgap, hone]
        · simp
      exact ⟨(nearest_eq_finite false hvanish).trans (nearest_units false .zero).symm, .zero⟩
  | succ bits =>
      have hbound := h.bounded
      rw [Magnitude.two_pow_succ_half]
      refine ⟨?_, Magnitude.gap_dvd_two_pow bits, ?_⟩
      · apply nearest_congr false Magnitude.one_pos Nat.one_pos
        rw [hone]
        ring
      · rw [Nat.pow_succ] at hbound
        omega

/-- The margin of a double with a fraction is half of the distance to the next double, or a unit
where that is the distance. -/
theorem margin_eq (hfraction : m.units % Magnitude.one ≠ 0) :
    margin (.finite false m) = ofUnits (Magnitude.halfGap m.units) := by
  have hm := Stored.of_magnitude m
  have hself : Double.finite false m = ofUnits m.units := hm.ofUnits_eq.symm
  obtain ⟨hgap, hnext⟩ := hm.add_gap hfraction
  have hdistance : (Double.finite false m).next.sub (.finite false m) =
      ofUnits (Magnitude.gap m.units) := by
    have := hnext.sub hm (Nat.le_add_right _ _)
    rwa [Nat.add_sub_cancel_left, ← hself] at this
  obtain ⟨hhalf, hstored⟩ := half_mul_two_pow hgap
  rw [margin, hdistance]
  exact (congrArg (fun x => x.max .leastPositive) hhalf).trans hstored.max_leastPositive

/-- What is left of a double without its whole part. -/
theorem sub_trunc (m : Magnitude) : (Double.finite false m).sub (Double.finite false m).trunc =
    ofUnits (m.units % Magnitude.one) := by
  have hm := Stored.of_magnitude m
  have hself : Double.finite false m = ofUnits m.units := hm.ofUnits_eq.symm
  have hwhole : (Double.finite false m).trunc =
      ofUnits (m.units / Magnitude.one * Magnitude.one) := rfl
  have hsplit := Nat.div_add_mod' m.units Magnitude.one
  rw [hwhole, hself, hm.sub (Exact.of_magnitude m).stored (Nat.div_mul_le_self _ _),
    Nat.sub_eq_of_eq_add' hsplit.symm]

/-- A fraction is not smaller than the margin. -/
theorem not_fraction_less_margin (hfraction : m.units % Magnitude.one ≠ 0) :
    ¬ ((Double.finite false m).sub (Double.finite false m).trunc).less
      (margin (.finite false m)) = true := by
  rw [sub_trunc, margin_eq hfraction]
  exact (Stored.of_magnitude m).mod_one.not_less_ofUnits
    (Magnitude.halfGap_bounds m.onGrid hfraction).1

theorem fractionDigits?_eq (base : Nat) (hfraction : m.units % Magnitude.one ≠ 0) :
    fractionDigits? base (.finite false m) =
      fractionDigits base maxSteps (ofUnits (m.units % Magnitude.one))
        (ofUnits (Magnitude.halfGap m.units)) [] := by
  have henters := not_fraction_less_margin hfraction
  rw [sub_trunc, margin_eq hfraction] at henters
  rw [fractionDigits?, sub_trunc, margin_eq hfraction]
  exact if_neg henters

theorem one_le_margin_mul_pow {margin : Nat} (hmargin : 0 < margin) :
    Magnitude.one ≤ margin * 2 ^ maxSteps :=
  calc
    Magnitude.one ≤ 2 ^ maxSteps :=
      Nat.le_trans (Nat.le_of_lt stored_one.bounded) limit_le_two_pow_maxSteps
    _ ≤ margin * 2 ^ maxSteps := Nat.le_mul_of_pos_left _ hmargin

private theorem target_nil (base fraction : Nat) :
    target base fraction [] = fraction / Magnitude.one := by
  rw [target, List.reverse_nil, fractionValue_nil, zero_add, List.length_nil, pow_zero, div_one]

/-- Where the loop on doubles loses nothing that matters, its digits are less than the margin away
from the fraction, and they do not carry into the whole part. -/
theorem exists_fractionDigits? {base : Nat} (hbase : 2 ≤ base)
    (hfraction : m.units % Magnitude.one ≠ 0)
    (hexact : fractionDigits base maxSteps (ofUnits (m.units % Magnitude.one))
        (ofUnits (Magnitude.halfGap m.units)) [] =
      exactFractionDigits base maxSteps (m.units % Magnitude.one) (Magnitude.halfGap m.units) []) :
    ∃ ds, fractionDigits? base (.finite false m) = some ds ∧ (∀ d ∈ ds, d < base) ∧
      |fractionValue base ds.reverse - (m.units % Magnitude.one : Nat) / Magnitude.one| <
        (Magnitude.halfGap m.units : ℚ) / Magnitude.one := by
  have hlt := Nat.mod_lt m.units Magnitude.one_pos
  have hnil : ∀ d ∈ ([] : List Nat), d < base := by simp
  have hone : (0 : ℚ) < Magnitude.one := by exact_mod_cast Magnitude.one_pos
  obtain ⟨hmargin, hroom⟩ := Magnitude.halfGap_bounds m.onGrid hfraction
  have hfuel := one_le_margin_mul_pow (Magnitude.halfGap_pos m.units)
  have hnear := near_exactFractionDigits hbase maxSteps hnil hmargin hlt hfuel
  rw [target_nil, List.length_nil, pow_zero, div_one] at hnear
  rw [fractionDigits?_eq base hfraction, hexact]
  cases houtcome : exactFractionDigits base maxSteps (m.units % Magnitude.one)
      (Magnitude.halfGap m.units) [] with
  | none =>
      -- a carry would be the whole margin away from the fraction
      have hfar : (Magnitude.halfGap m.units : ℚ) / Magnitude.one ≤
          1 - (m.units % Magnitude.one : Nat) / Magnitude.one := by
        rw [le_sub_iff_add_le, ← add_div, div_le_one hone, add_comm]
        exact_mod_cast hroom
      rw [houtcome, outcomeValue] at hnear
      exact absurd (lt_of_le_of_lt (le_abs_self _) hnear) (not_lt.2 hfar)
  | some ds =>
      rw [houtcome, outcomeValue] at hnear
      have hdigits := lt_of_mem_exactFractionDigits (by omega) maxSteps hnil hlt houtcome
      exact ⟨ds, rfl, hdigits, hnear⟩

/-- In a base that is a power of two the digits are the fraction. -/
theorem exists_fractionDigits?_two_pow {bits : Nat} (hbits : 0 < bits) (hsmall : bits < 53)
    (hfraction : m.units % Magnitude.one ≠ 0) :
    ∃ ds, fractionDigits? (2 ^ bits) (.finite false m) = some ds ∧ (∀ d ∈ ds, d < 2 ^ bits) ∧
      fractionValue (2 ^ bits) ds.reverse =
        (m.units % Magnitude.one : Nat) / Magnitude.one := by
  have hlt := Nat.mod_lt m.units Magnitude.one_pos
  have hnil : ∀ d ∈ ([] : List Nat), d < 2 ^ bits := by simp
  obtain ⟨hmargin, -⟩ := Magnitude.halfGap_bounds m.onGrid hfraction
  have hscale := Nat.dvd_trans (Magnitude.halfGap_dvd_gap m.units)
    (Magnitude.gap_dvd_fraction m.onGrid hfraction)
  have hfuel := one_le_margin_mul_pow (Magnitude.halfGap_pos m.units)
  rw [fractionDigits?_eq _ hfraction]
  obtain ⟨scale, hpow⟩ := Magnitude.halfGap_eq_two_pow m.units
  rw [hpow] at hmargin hscale hfuel ⊢
  obtain ⟨ds, hds, hvalue⟩ :=
    @exactFractionDigits_two_pow bits scale maxSteps _ [] hbits hscale hmargin hlt hfuel
  rw [target_nil] at hvalue
  rw [fractionDigits_two_pow hsmall (Stored.of_magnitude m).mod_one hscale hmargin hlt, hds]
  exact ⟨ds, rfl, lt_of_mem_exactFractionDigits (Nat.two_pow_pos bits) maxSteps hnil hlt hds, hvalue⟩

/-- From the base on, the loop on doubles loses nothing that matters. -/
theorem coarse_of_le {base : Nat} (hthree : 3 ≤ base) (hbase : base < 2 ^ (53 : Nat))
    (hfraction : m.units % Magnitude.one ≠ 0) (hle : base * Magnitude.one ≤ m.units) :
    ∃ shift, Coarse base shift ∧ Magnitude.gap m.units = 2 ^ (shift + 1) ∧
      Magnitude.halfGap m.units = 2 ^ shift := by
  have hdvd := Magnitude.gap_dvd_one m.onGrid hfraction
  have hlt := Magnitude.lt_mul_gap m.units
  have hlarge := Magnitude.two_pow_le_one
  rcases Magnitude.halfGap_cases m.units with ⟨hgap, -⟩ | ⟨shift, hgap, hhalf⟩
  · have := Nat.mul_le_mul_right Magnitude.one hthree
    omega
  · rw [hgap] at hdvd hlt
    exact ⟨shift, ⟨hthree, hbase, Nat.le_of_lt (Nat.lt_of_le_of_lt hle hlt), hdvd⟩, hgap, hhalf⟩

end Radix

end ScriptValues
