import Mathlib.Tactic.Linarith
import Mathlib.Tactic.Ring
import ScriptValues.Double

/-!
The double nearest to a quotient. A quotient rounds to a magnitude exactly when it lies no farther
from it than half the distance to either neighbour, the ends going to even significands, and the
result depends on the value of the quotient only. Magnitudes themselves, and what is left of them
when their last bits are cut off, need no rounding.
-/

namespace ScriptValues

theorem roundDiv_mul_mul (tie : Tie) {factor : Nat} (hfactor : 0 < factor) (num den : Nat) :
    roundDiv tie (factor * num) (factor * den) = roundDiv tie num den := by
  have hless : ∀ a b : Nat, factor * a < factor * b ↔ a < b :=
    fun a b => Nat.mul_lt_mul_left hfactor
  unfold roundDiv
  simp only [Nat.mul_div_mul_left _ _ hfactor, Nat.mul_mod_mul_left, Nat.mul_left_comm 2 factor,
    hless]

/-- Equal quotients round to the same whole number. -/
theorem roundDiv_congr (tie : Tie) {num den num' den' : Nat} (hden : 0 < den) (hden' : 0 < den')
    (h : num * den' = num' * den) : roundDiv tie num den = roundDiv tie num' den' := by
  calc
    roundDiv tie num den = roundDiv tie (den' * num) (den' * den) :=
      (roundDiv_mul_mul tie hden' num den).symm
    _ = roundDiv tie (den * num') (den * den') := by
      rw [Nat.mul_comm den' num, h, Nat.mul_comm num' den, Nat.mul_comm den' den]
    _ = roundDiv tie num' den' := roundDiv_mul_mul tie hden num' den'

/-- The rounded quotient is at most one half away from the quotient. -/
theorem roundDiv_near (tie : Tie) {num den : Nat} (hden : 0 < den) :
    2 * (roundDiv tie num den * den) ≤ 2 * num + den ∧
      2 * num ≤ 2 * (roundDiv tie num den * den) + den := by
  have hsplit := Nat.div_add_mod' num den
  have hrest := Nat.mod_lt num hden
  have hup : (num / den + 1) * den = num / den * den + den := Nat.succ_mul _ _
  have hcases : (roundDiv tie num den = num / den ∧ 2 * (num % den) ≤ den) ∨
      (roundDiv tie num den = num / den + 1 ∧ den ≤ 2 * (num % den)) := by
    have hlow := div_le_roundDiv tie num den
    have hhigh := roundDiv_le tie num den
    unfold roundDiv at hlow hhigh ⊢
    grind
  rcases hcases with ⟨hwhole, hhalf⟩ | ⟨hwhole, hhalf⟩
  · rw [hwhole]
    omega
  · rw [hwhole, hup]
    omega

/-- The only whole number within one half of a quotient, if even at a distance of one half, is the
quotient rounded to even. -/
theorem roundDiv_toEven_eq {num den whole : Nat} (hden : 0 < den)
    (hlow : 2 * (whole * den) ≤ 2 * num + den) (hhigh : 2 * num ≤ 2 * (whole * den) + den)
    (htie : 2 * (whole * den) = 2 * num + den ∨ 2 * num = 2 * (whole * den) + den →
      whole % 2 = 0) :
    roundDiv .toEven num den = whole := by
  have hsplit := Nat.div_add_mod' num den
  have hrest := Nat.mod_lt num hden
  have hcases : whole = num / den ∨ whole = num / den + 1 := by
    by_contra hne
    rcases (by omega : whole + 1 ≤ num / den ∨ num / den + 2 ≤ whole) with h | h
    · have := Nat.mul_le_mul_right den h
      rw [Nat.add_mul] at this
      omega
    · have := Nat.mul_le_mul_right den h
      rw [Nat.add_mul] at this
      omega
  rcases hcases with rfl | rfl
  · simp only [roundDiv]
    split
    · rfl
    · rw [if_neg (by omega)]
      omega
  · have hup : (num / den + 1) * den = num / den * den + den := Nat.succ_mul _ _
    rw [hup] at hlow hhigh htie
    simp only [roundDiv]
    split
    · omega
    · split
      · rfl
      · omega

namespace Magnitude

theorem one_pos : 0 < one := by
  rw [one]
  generalize 1074 = bits
  exact Nat.two_pow_pos bits

theorem limit_pos : 0 < limit := by
  rw [limit]
  generalize 53 + 2045 = bits
  exact Nat.two_pow_pos bits

theorem gap_pos (units : Nat) : 0 < gap units := Nat.two_pow_pos _

/-- Smaller magnitudes lie on a finer grid. -/
theorem gap_dvd_gap {a b : Nat} (h : a ≤ b) : gap a ∣ gap b := by
  apply Nat.pow_dvd_pow
  by_cases ha : a = 0
  · simp [ha]
  · have : a.log2 ≤ b.log2 :=
      (Nat.le_log2 (by omega)).2 (Nat.le_trans (Nat.log2_self_le ha) h)
    omega

theorem gap_of_lt {units : Nat} (h : units < 2 ^ (53 : Nat)) : gap units = 1 := by
  by_cases hzero : units = 0
  · subst hzero
    decide
  · have := (Nat.log2_lt hzero).2 h
    rw [gap, show units.log2 - 52 = 0 by omega, Nat.pow_zero]

theorem lt_mul_gap (units : Nat) : units < 2 ^ (53 : Nat) * gap units := by
  rw [gap, ← Nat.pow_add]
  exact Nat.lt_of_lt_of_le Nat.lt_log2_self (Nat.pow_le_pow_right (by decide) (by omega))

/-- A number of units is on the grid when it is a significand of 53 bits, shifted. -/
theorem gap_dvd_iff (units : Nat) :
    gap units ∣ units ↔
      ∃ significand shift, significand < 2 ^ (53 : Nat) ∧ units = significand * 2 ^ shift := by
  constructor
  · intro h
    refine ⟨units / gap units, units.log2 - 52, ?_, (Nat.div_mul_cancel h).symm⟩
    exact (Nat.div_lt_iff_lt_mul (gap_pos units)).2 (lt_mul_gap units)
  · rintro ⟨significand, shift, hsignificand, rfl⟩
    exact gap_dvd_mul_pow shift hsignificand

/-- Halving a magnitude with its last bits cut off leaves a magnitude. -/
theorem gap_dvd_div_pow {units : Nat} (h : gap units ∣ units) (bits : Nat) :
    gap (units / 2 ^ bits) ∣ units / 2 ^ bits := by
  obtain ⟨significand, shift, hsignificand, hunits⟩ := (gap_dvd_iff units).1 h
  rw [gap_dvd_iff]
  rcases Nat.le_total bits shift with hle | hle
  · refine ⟨significand, shift - bits, hsignificand, ?_⟩
    rw [hunits, ← Nat.sub_add_cancel hle, Nat.pow_add, ← Nat.mul_assoc, Nat.add_sub_cancel]
    exact Nat.mul_div_cancel _ (Nat.two_pow_pos bits)
  · refine ⟨significand / 2 ^ (bits - shift), 0,
      Nat.lt_of_le_of_lt (Nat.div_le_self _ _) hsignificand, ?_⟩
    rw [hunits, ← Nat.sub_add_cancel hle, Nat.pow_add, Nat.add_sub_cancel, Nat.pow_zero,
      Nat.mul_one]
    exact Nat.mul_div_mul_right _ _ (Nat.two_pow_pos shift)

theorem gap_dvd_mul_two_pow {units : Nat} (h : gap units ∣ units) (bits : Nat) :
    gap (units * 2 ^ bits) ∣ units * 2 ^ bits := by
  obtain ⟨significand, shift, hsignificand, hunits⟩ := (gap_dvd_iff units).1 h
  rw [hunits, Nat.mul_assoc, ← Nat.pow_add]
  exact gap_dvd_mul_pow _ hsignificand

/-- Last bits can be replaced by zeros. -/
theorem gap_dvd_div_mul_pow {units : Nat} (h : gap units ∣ units) (bits : Nat) :
    gap (units / 2 ^ bits * 2 ^ bits) ∣ units / 2 ^ bits * 2 ^ bits :=
  gap_dvd_mul_two_pow (gap_dvd_div_pow h bits) bits

/-- Between a power of two and the next one the grid does not change. -/
theorem gap_eq_of_le_of_lt {units low : Nat} (hle : 2 ^ low.log2 ≤ units)
    (hlt : units < 2 ^ (low.log2 + 1)) : gap units = gap low := by
  have hunits : units ≠ 0 := by
    have := Nat.two_pow_pos low.log2
    omega
  rw [gap, gap, (Nat.log2_eq_iff hunits).2 ⟨hle, hlt⟩]

/-- The distance to the next magnitude is whole steps of the distance to the one before. -/
theorem gap_pred_dvd (units : Nat) : gap (units - 1) ∣ gap units :=
  gap_dvd_gap (Nat.sub_le units 1)

theorem gap_pred_le {units : Nat} (hunits : 0 < units) (hgrid : gap units ∣ units) :
    gap (units - 1) ≤ units :=
  Nat.le_of_dvd hunits (Nat.dvd_trans (gap_pred_dvd units) hgrid)

/-- Above a magnitude and within half of its gap the grid is its own. -/
private theorem gap_above {units quotient : Nat} (hgrid : gap units ∣ units)
    (hle : units ≤ quotient) (hnear : 2 * quotient ≤ 2 * units + gap units) :
    gap quotient = gap units := by
  by_cases hsmall : units.log2 ≤ 52
  · have hgap : gap units = 1 := by rw [gap, show units.log2 - 52 = 0 by omega, Nat.pow_zero]
    rw [show quotient = units by omega]
  · have hzero : units ≠ 0 := by
      rintro rfl
      exact hsmall (by decide)
    have hdvd : gap units ∣ 2 ^ (units.log2 + 1) := Nat.pow_dvd_pow 2 (by omega)
    obtain ⟨k, hk⟩ := hgrid
    obtain ⟨top, htop⟩ := hdvd
    have hlt : units < 2 ^ (units.log2 + 1) := Nat.lt_log2_self
    have hnext : units + gap units ≤ 2 ^ (units.log2 + 1) := by
      have : k < top := by
        by_contra hge
        have := Nat.mul_le_mul_left (gap units) (Nat.le_of_not_lt hge)
        omega
      calc
        units + gap units = gap units * (k + 1) := by rw [Nat.mul_succ, ← hk]
        _ ≤ gap units * top := Nat.mul_le_mul_left _ this
        _ = 2 ^ (units.log2 + 1) := htop.symm
    have hpos := gap_pos units
    exact gap_eq_of_le_of_lt (Nat.le_trans (Nat.log2_self_le hzero) hle) (by omega)

/-- Below a magnitude and within half of the gap there the grid is that of its predecessor. -/
private theorem gap_below {units quotient : Nat} (hgrid : gap units ∣ units)
    (hlt : quotient < units) (hnear : 2 * units ≤ 2 * quotient + 2 + gap (units - 1)) :
    gap quotient = gap (units - 1) := by
  by_cases hsmall : units - 1 < 2 ^ (53 : Nat)
  · rw [gap_of_lt hsmall, gap_of_lt (by omega)]
  · have hzero : units - 1 ≠ 0 := by omega
    have hpow : 2 ^ (units - 1).log2 ≤ units - 1 := Nat.log2_self_le hzero
    have hlog : 52 < (units - 1).log2 := (Nat.le_log2 hzero).2 (by omega)
    obtain ⟨k, hk⟩ := Nat.dvd_trans (gap_pred_dvd units) hgrid
    obtain ⟨bottom, hbottom⟩ : gap (units - 1) ∣ 2 ^ (units - 1).log2 :=
      Nat.pow_dvd_pow 2 (by omega)
    have heven : 2 ∣ gap (units - 1) := by
      have : gap (units - 1) = 2 ^ ((units - 1).log2 - 53) * 2 := by
        rw [gap, ← Nat.pow_succ]
        congr 1
        omega
      omega
    have hprev : 2 ^ (units - 1).log2 + gap (units - 1) ≤ units := by
      have : bottom < k := by
        by_contra hge
        have := Nat.mul_le_mul_left (gap (units - 1)) (Nat.le_of_not_lt hge)
        omega
      calc
        2 ^ (units - 1).log2 + gap (units - 1) = gap (units - 1) * (bottom + 1) := by
          rw [Nat.mul_succ, ← hbottom]
        _ ≤ gap (units - 1) * k := Nat.mul_le_mul_left _ this
        _ = units := hk.symm
    have hpos := gap_pos (units - 1)
    have hupper : units - 1 < 2 ^ ((units - 1).log2 + 1) := Nat.lt_log2_self
    exact gap_eq_of_le_of_lt (by omega) (by omega)

/-- A quotient rounds to a magnitude when it lies within half of the gaps around it; the ends of
this interval belong to even significands. -/
theorem nearestUnits_eq {num den units : Nat} (hden : 0 < den) (hgrid : gap units ∣ units)
    (hlow : (2 * units - gap (units - 1)) * den ≤ 2 * num)
    (hhigh : 2 * num ≤ (2 * units + gap units) * den)
    (htie : (2 * units - gap (units - 1)) * den = 2 * num ∨
      2 * num = (2 * units + gap units) * den → units / gap units % 2 = 0) :
    nearestUnits num den = units := by
  have hquot := Nat.div_mul_le_self num den
  have hquotLt : num < (num / den + 1) * den := by
    rw [Nat.succ_mul]
    exact Nat.lt_div_mul_add hden
  rcases Nat.lt_or_ge (num / den) units with hlt | hle
  · have hnear : 2 * units ≤ 2 * (num / den) + 2 + gap (units - 1) := by
      have : 2 * units - gap (units - 1) < 2 * (num / den + 1) := by
        apply Nat.lt_of_mul_lt_mul_right (a := den)
        rw [Nat.mul_assoc]
        omega
      omega
    have hcoarse := gap_pred_dvd units
    have hdvd := Nat.dvd_trans hcoarse hgrid
    have hbelow : num < units * den := Nat.lt_of_lt_of_le hquotLt (Nat.mul_le_mul_right den hlt)
    rw [Nat.sub_mul, Nat.mul_assoc] at hlow htie
    rw [nearestUnits, gap_below hgrid hlt hnear]
    suffices roundDiv .toEven num (den * gap (units - 1)) = units / gap (units - 1) by
      rw [this, Nat.div_mul_cancel hdvd]
    apply roundDiv_toEven_eq (Nat.mul_pos hden (gap_pos _)) <;>
      rw [Nat.mul_comm den, ← Nat.mul_assoc (units / _), Nat.div_mul_cancel hdvd]
    · omega
    · omega
    · intro hend
      have heven := htie (Or.inl (by omega))
      -- the finer grid below a power of two doubles the significand
      have hfiner : units / gap (units - 1) =
          units / gap units * (gap units / gap (units - 1)) := by
        rw [← Nat.mul_div_assoc _ hcoarse, Nat.div_mul_cancel hgrid]
      rw [hfiner, Nat.mul_mod, heven, Nat.zero_mul, Nat.zero_mod]
  · have hnear : 2 * (num / den) ≤ 2 * units + gap units := by
      apply Nat.le_of_mul_le_mul_right (c := den) _ hden
      rw [Nat.mul_assoc]
      omega
    have habove : units * den ≤ num := Nat.le_trans (Nat.mul_le_mul_right den hle) hquot
    rw [Nat.add_mul, Nat.mul_assoc] at hhigh htie
    rw [nearestUnits, gap_above hgrid hle hnear]
    suffices roundDiv .toEven num (den * gap units) = units / gap units by
      rw [this, Nat.div_mul_cancel hgrid]
    have hstep := Nat.mul_pos hden (gap_pos units)
    apply roundDiv_toEven_eq hstep <;>
      rw [Nat.mul_comm den, ← Nat.mul_assoc (units / _), Nat.div_mul_cancel hgrid]
    · omega
    · omega
    · rw [Nat.mul_comm] at hstep
      intro hend
      exact htie (Or.inr (by omega))

theorem nearestUnits_congr {num den num' den' : Nat} (hden : 0 < den) (hden' : 0 < den')
    (h : num * den' = num' * den) : nearestUnits num den = nearestUnits num' den' := by
  have hquot : num / den = num' / den' := by
    rw [← Nat.mul_div_mul_right num den hden', h, Nat.mul_comm den,
      Nat.mul_div_mul_right num' den' hden]
  have hstep := gap_pos (num' / den')
  rw [nearestUnits, nearestUnits, hquot]
  rw [roundDiv_congr .toEven (Nat.mul_pos hden hstep) (Nat.mul_pos hden' hstep)]
  rw [← Nat.mul_assoc, h, Nat.mul_assoc]

/-- A magnitude is its own nearest one. -/
theorem nearestUnits_mul {units : Nat} (hgrid : gap units ∣ units) {den : Nat} (hden : 0 < den) :
    nearestUnits (units * den) den = units := by
  have hexact : units * den % (den * gap units) = 0 := by
    rw [Nat.mul_comm units, Nat.mul_mod_mul_left, Nat.mod_eq_zero_of_dvd hgrid, Nat.mul_zero]
  rw [nearestUnits, Nat.mul_div_cancel _ hden,
    roundDiv_of_mod_eq_zero _ (Nat.mul_pos hden (gap_pos units)) hexact,
    Nat.mul_comm units, Nat.mul_div_mul_left _ _ hden, Nat.div_mul_cancel hgrid]

/-- Quotients from the limit on round to the limit at least. -/
theorem limit_le_nearestUnits {num den : Nat} (hden : 0 < den) (h : limit * den ≤ num) :
    limit ≤ nearestUnits num den := by
  have hquot : limit ≤ num / den := (Nat.le_div_iff_mul_le hden).2 h
  generalize hq : num / den = quotient at hquot
  have hzero : quotient ≠ 0 := by
    have := limit_pos
    omega
  have hlog : 53 + 2045 ≤ quotient.log2 := by
    rw [Nat.le_log2 hzero, ← limit]
    exact hquot
  have htop : 2 ^ (52 : Nat) ≤ quotient / gap quotient := by
    rw [Nat.le_div_iff_mul_le (gap_pos quotient), gap, ← Nat.pow_add]
    exact Nat.le_trans (Nat.pow_le_pow_right (by decide) (by omega)) (Nat.log2_self_le hzero)
  have hround := div_le_roundDiv .toEven num (den * gap quotient)
  rw [← Nat.div_div_eq_div_mul, hq] at hround
  have hshift : quotient.log2 = 52 + (quotient.log2 - 52) := by omega
  rw [nearestUnits, hq]
  calc
    limit ≤ 2 ^ quotient.log2 := by
      rw [limit]
      generalize 53 + 2045 = top at hlog
      exact Nat.pow_le_pow_right (by decide) hlog
    _ = 2 ^ (52 : Nat) * gap quotient := by rw [gap, ← Nat.pow_add, ← hshift]
    _ ≤ roundDiv .toEven num (den * gap quotient) * gap quotient :=
      Nat.mul_le_mul_right _ (Nat.le_trans htop hround)

/-- Quotients of less than half a unit vanish. -/
theorem nearestUnits_eq_zero {num den : Nat} (h : 2 * num < den) : nearestUnits num den = 0 := by
  have hone : gap 0 = 1 := by decide
  apply nearestUnits_eq (by omega) (Nat.dvd_zero _)
  · simp [hone]
  · rw [hone]
    omega
  · simp

end Magnitude

namespace Double

theorem nearest_congr (negative : Bool) {num den num' den' : Nat} (hden : 0 < den)
    (hden' : 0 < den') (h : num * den' = num' * den) :
    nearest negative num den = nearest negative num' den' := by
  unfold nearest
  simp only [Magnitude.nearestUnits_congr hden hden' h]

theorem nearest_eq_finite (negative : Bool) {num den : Nat} {m : Magnitude}
    (h : Magnitude.nearestUnits num den = m.units) :
    nearest negative num den = .finite negative m := by
  have hlt : Magnitude.nearestUnits num den < Magnitude.limit := h ▸ m.bounded
  rw [nearest, dif_pos hlt]
  exact congrArg (Double.finite negative) (Magnitude.ext h)

/-- A magnitude given as a quotient is not changed by rounding. -/
theorem nearest_mul (negative : Bool) (m : Magnitude) {den : Nat} (hden : 0 < den) :
    nearest negative (m.units * den) den = .finite negative m :=
  nearest_eq_finite negative (Magnitude.nearestUnits_mul m.onGrid hden)

theorem nearest_units (negative : Bool) (m : Magnitude) :
    nearest negative m.units 1 = .finite negative m := by
  simpa using nearest_mul negative m Nat.one_pos

theorem nearest_eq_infinite (negative : Bool) {num den : Nat} (hden : 0 < den)
    (h : Magnitude.limit * den ≤ num) : nearest negative num den = .infinite negative := by
  rw [nearest, dif_neg (Nat.not_lt.2 (Magnitude.limit_le_nearestUnits hden h))]

theorem nearest_eq_zero (negative : Bool) {num den : Nat} (h : 2 * num < den) :
    nearest negative num den = .finite negative .zero :=
  nearest_eq_finite negative (Magnitude.nearestUnits_eq_zero h)

end Double

end ScriptValues
