import Mathlib.Tactic.Linarith
import ScriptValues.Proofs.FractionMargin
import ScriptValues.Proofs.NearestDouble
import ScriptValues.Proofs.TrailingBits

/-!
The digit loops on doubles come to an end. Each loop is a step from state to state and a test that
stops it, and a run is any number of steps up to the test. Every step may round. In the loop for
whole digits the remainder is exact and the quotient is at most half of what was left; in the loop
for fraction digits what is left is exact and the margin at least doubles. Rounding never crosses a
magnitude, so every digit is below the base, and the loops do not stop at a zero in front or at the
end.
-/

namespace ScriptValues

namespace Magnitude

variable {num num' den units : Nat}

/-- Rounding keeps the order. -/
theorem nearestUnits_le_nearestUnits (h : num ≤ num') :
    nearestUnits num 1 ≤ nearestUnits num' 1 := by
  have hself : ∀ n : Nat, (n : ℚ) * (1 : Nat) = n := fun n => by rw [Nat.cast_one, mul_one]
  have hgrid := gap_dvd_nearestUnits num 1
  have hcast : (num : ℚ) ≤ num' := Nat.cast_le.2 h
  apply (le_nearestUnits_iff Nat.one_pos (hself num') hgrid).2
  rcases (le_nearestUnits_iff Nat.one_pos (hself num) hgrid).1 (Nat.le_refl _) with
    hbelow | ⟨hend, heven⟩
  · exact .inl (by linarith)
  · rcases eq_or_lt_of_le hcast with heq | hlt
    · exact .inr ⟨by linarith, heven⟩
    · exact .inl (by linarith)

theorem two_pow_mul_gap_le (h : 2 ^ (52 : Nat) ≤ units) : 2 ^ (52 : Nat) * gap units ≤ units := by
  have hzero : units ≠ 0 := by omega
  have hlog : 52 ≤ units.log2 := (Nat.le_log2 hzero).2 h
  calc
    2 ^ (52 : Nat) * gap units = 2 ^ units.log2 := by
      rw [gap, ← Nat.pow_add, Nat.add_sub_cancel' hlog]
    _ ≤ units := Nat.log2_self_le hzero

/-- The product of a number below one and a base rounds to less than the base: below one a magnitude
is a gap away from it at least, and below the base half a gap is less than that for every unit of
the base. -/
theorem nearestUnits_mul_lt {base fraction : Nat} (hpos : 0 < base) (hbase : base < 2 ^ (53 : Nat))
    (hgrid : gap fraction ∣ fraction) (hlt : fraction < one) :
    nearestUnits (fraction * base) 1 < one * base := by
  have hone := Radix.stored_one.onGrid
  have htop : gap (one * base) ∣ one * base := by
    rw [Nat.mul_comm]
    exact (Radix.stored_mul_one hbase).onGrid
  have hfine : one ≤ 2 ^ (53 : Nat) * gap (one - 1) := by
    have := lt_mul_gap (one - 1)
    omega
  have hroom := Nat.mul_le_mul_right base (add_gap_pred_le hgrid hone hlt)
  have hbelow := Nat.mul_le_mul_right base hfine
  rw [Nat.add_mul] at hroom
  rw [Nat.mul_assoc] at hbelow
  have hlarge : 2 ^ (53 : Nat) ≤ one * base :=
    Nat.le_trans two_pow_le_one (Nat.le_mul_of_pos_right one hpos)
  have hcoarse := two_pow_mul_gap_le (show 2 ^ (52 : Nat) ≤ one * base - 1 by omega)
  have hle : nearestUnits (fraction * base) 1 ≤ one * base :=
    nearestUnits_le Nat.one_pos htop (by omega)
  rcases Nat.lt_or_eq_of_le hle with hless | heq
  · exact hless
  · have hlow := (@withinHalf_nearestUnits (fraction * base) 1 Nat.one_pos).low
    rw [heq] at hlow
    omega

end Magnitude

namespace Double.Stored

open Magnitude

variable {a b base : Nat}

/-- A remainder by a whole number is a double, also when the dividend has fewer places. -/
theorem mod_mul_one (h : Stored a) (hpos : 0 < base) (hbase : base < 2 ^ (53 : Nat)) :
    Stored (a % (base * Magnitude.one)) := by
  refine ⟨?_, Nat.lt_of_le_of_lt (Nat.mod_le _ _) h.bounded⟩
  obtain ⟨significand, shift, hfew, rfl⟩ := (gap_dvd_iff a).1 h.onGrid
  obtain ⟨top, hone⟩ := one_eq_two_pow
  rw [hone]
  rcases Nat.le_total shift top with hle | hle
  · obtain ⟨more, rfl⟩ := Nat.exists_eq_add_of_le' hle
    rw [Nat.pow_add, ← Nat.mul_assoc, Nat.mul_mod_mul_right]
    exact gap_dvd_mul_pow shift (Nat.lt_of_le_of_lt (Nat.mod_le _ _) hfew)
  · obtain ⟨more, rfl⟩ := Nat.exists_eq_add_of_le' hle
    rw [Nat.pow_add, ← Nat.mul_assoc, Nat.mul_mod_mul_right]
    exact gap_dvd_mul_pow top (Nat.lt_trans (Nat.mod_lt _ hpos) hbase)

theorem rem (ha : Stored a) (hb : Stored b) (hpos : 0 < b) :
    (ofUnits a).rem (ofUnits b) = ofUnits (a % b) := by
  rw [ha.ofUnits_eq, hb.ofUnits_eq]
  exact if_neg hpos.ne'

theorem div (ha : Stored a) (hb : Stored b) (hpos : 0 < b) :
    (ofUnits a).div (ofUnits b) = nearest false (a * Magnitude.one) b := by
  rw [ha.ofUnits_eq, hb.ofUnits_eq]
  exact if_pos hpos.ne'

end Double.Stored

namespace Radix

open Double

variable {base : Nat}

/-- A state of the loop for the digits of a large whole number. -/
structure WholeState where
  /-- What is left of the number. -/
  rest : Double
  /-- The digits behind it. -/
  digits : List Nat

namespace WholeState

/-- The state before the first step. -/
def start (n : Double) : WholeState := ⟨n, []⟩

/-- A step takes the last digit off and divides the rest by the base. -/
def next (base : Nat) (s : WholeState) : WholeState :=
  let digit := s.rest.rem (.ofNat base)
  ⟨(s.rest.sub digit).div (.ofNat base), wholeUnits digit :: s.digits⟩

/-- A run of the loop, which ends when less than one is left. -/
inductive Run (base : Nat) : WholeState → WholeState → Prop
  | stop {s : WholeState} (h : Double.one.atMost s.rest = false) : Run base s s
  | step {s last : WholeState} (h : Double.one.atMost s.rest = true)
      (later : Run base (s.next base) last) : Run base s last

theorem largeDigits_succ (base fuel : Nat) (s : WholeState) :
    largeDigits (.ofNat base) (fuel + 1) s.rest s.digits =
      if Double.one.atMost s.rest then
        largeDigits (.ofNat base) fuel (s.next base).rest (s.next base).digits
      else s.digits := rfl

/-- A large number gets its digits from the loop. -/
theorem integerDigits_eq {n : Double} (h : ¬ n.less (.ofNat exactLimit) = true) :
    integerDigits base n = largeDigits (.ofNat base) maxSteps (start n).rest (start n).digits :=
  if_neg h

variable {s : WholeState} {units : Nat}

/-- The number without its last digit, divided by the base, is rounded to at most half of it, and
to one at least when the number has more digits. -/
theorem exists_quotient (htwo : 2 ≤ base) (hbase : base < 2 ^ (53 : Nat)) (hunits : Stored units)
    (hone : Magnitude.one ≤ units) : ∃ left,
      ((ofUnits units).sub (ofUnits (units % (base * Magnitude.one)))).div (.ofNat base) =
        ofUnits left ∧ Stored left ∧ 2 * left ≤ units ∧
      (base * Magnitude.one ≤ units → Magnitude.one ≤ left) := by
  have hpos : 0 < base := by omega
  have htop : Stored (base * Magnitude.one) := stored_mul_one hbase
  have htopPos : 0 < base * Magnitude.one := Nat.mul_pos hpos Magnitude.one_pos
  have hdigit := hunits.mod_mul_one hpos hbase
  have hhalf : Stored (units / 2) :=
    ⟨Magnitude.gap_dvd_div_pow hunits.onGrid 1,
      Nat.lt_of_le_of_lt (Nat.div_le_self _ _) hunits.bounded⟩
  have heven : 2 ∣ units := by
    have hgap := Magnitude.gap_even (Nat.le_trans Magnitude.two_pow_le_one hone)
    exact Nat.dvd_trans (Nat.dvd_of_mod_eq_zero hgap) hunits.onGrid
  obtain ⟨rounded, hrounded, hsub, hside⟩ :=
    exists_stored_of_le hunits (Nat.sub_le units (units % (base * Magnitude.one)))
  have hquot : rounded * Magnitude.one ≤ units / 2 * (base * Magnitude.one) :=
    calc
      rounded * Magnitude.one ≤ units * Magnitude.one :=
        Nat.mul_le_mul_right _ ((hside units hunits).2 (Nat.sub_le _ _))
      _ = units / 2 * (2 * Magnitude.one) := by
        rw [← Nat.mul_assoc, Nat.div_mul_cancel heven]
      _ ≤ units / 2 * (base * Magnitude.one) :=
        Nat.mul_le_mul_left _ (Nat.mul_le_mul_right _ htwo)
  obtain ⟨hleft, hdiv⟩ := stored_nearestUnits htopPos hhalf hquot
  have hhalved := Magnitude.nearestUnits_le htopPos hhalf.onGrid hquot
  refine ⟨_, ?_, hleft, by omega, fun hlong => ?_⟩
  · rw [hunits.sub hdigit (Nat.mod_le _ _), hsub, ofNat_eq_ofUnits, hrounded.div htop htopPos, hdiv]
  · have hcut : base * Magnitude.one ≤ units - units % (base * Magnitude.one) := by
      have hsplit := Nat.div_add_mod' units (base * Magnitude.one)
      have := Nat.mul_le_mul_right (base * Magnitude.one) (Nat.div_pos hlong htopPos)
      omega
    have hstays := Nat.mul_le_mul_right Magnitude.one ((hside _ htop).1 hcut)
    rw [Nat.mul_comm] at hstays
    exact Magnitude.le_nearestUnits htopPos stored_one.onGrid hstays

/-- A step leaves at most half of the number, and its digit is below the base, and not zero when
less than one is left. -/
theorem exists_next (htwo : 2 ≤ base) (hbase : base < 2 ^ (53 : Nat))
    (hs : s.rest = ofUnits units) (hunits : Stored units) (hone : Magnitude.one ≤ units) :
    ∃ left digit, (s.next base).rest = ofUnits left ∧ (s.next base).digits = digit :: s.digits ∧
      Stored left ∧ 2 * left ≤ units ∧ digit < base ∧ (left < Magnitude.one → 0 < digit) := by
  have hpos : 0 < base := by omega
  have htop : Stored (base * Magnitude.one) := stored_mul_one hbase
  have htopPos : 0 < base * Magnitude.one := Nat.mul_pos hpos Magnitude.one_pos
  have hless := Nat.mod_lt units htopPos
  have htaken : s.rest.rem (.ofNat base) = ofUnits (units % (base * Magnitude.one)) := by
    rw [hs, ofNat_eq_ofUnits, hunits.rem htop htopPos]
  obtain ⟨left, hquot, hleft, hhalved, hlong⟩ := exists_quotient htwo hbase hunits hone
  refine ⟨left, units % (base * Magnitude.one) / Magnitude.one, ?_, ?_, hleft, hhalved, ?_, ?_⟩
  · rw [next, htaken, hs, hquot]
  · rw [next, htaken, (hunits.mod_mul_one hpos hbase).wholeUnits_eq]
  · exact Nat.div_lt_of_lt_mul (Nat.lt_of_lt_of_eq hless (Nat.mul_comm base Magnitude.one))
  · intro hlast
    have hshort : units < base * Magnitude.one :=
      Nat.not_le.1 fun h => Nat.not_le.2 hlast (hlong h)
    rw [Nat.mod_eq_of_lt hshort]
    exact Nat.div_pos hone Magnitude.one_pos

/-- The loop ends, as what is left is halved with every step. All its digits are below the base, and
the first one is not zero. -/
theorem exists_run (htwo : 2 ≤ base) (hbase : base < 2 ^ (53 : Nat)) (fuel : Nat)
    (hs : s.rest = ofUnits units) (hunits : Stored units)
    (hfuel : units < Magnitude.one * 2 ^ fuel) (hdigits : ∀ d ∈ s.digits, d < base)
    (hfirst : units < Magnitude.one → ∃ d ∈ s.digits.head?, 0 < d) :
    ∃ last, Run base s last ∧ largeDigits (.ofNat base) fuel s.rest s.digits = last.digits ∧
      (∀ d ∈ last.digits, d < base) ∧ ∃ d ∈ last.digits.head?, 0 < d := by
  induction fuel generalizing s units with
  | zero =>
      rw [Nat.pow_zero, Nat.mul_one] at hfuel
      have hstop : Double.one.atMost s.rest = false := by
        rw [hs, one_eq_ofUnits, Bool.eq_false_iff, ne_eq, stored_one.atMost_iff hunits]
        exact Nat.not_le.2 hfuel
      exact ⟨s, .stop hstop, rfl, hdigits, hfirst hfuel⟩
  | succ fuel ih =>
      rw [largeDigits_succ]
      by_cases hone : Magnitude.one ≤ units
      · have hgo : Double.one.atMost s.rest = true := by
          rw [hs, one_eq_ofUnits, stored_one.atMost_iff hunits]
          exact hone
        obtain ⟨left, digit, hrest, hnext, hleft, hhalf, hdigit, hnonzero⟩ :=
          exists_next htwo hbase hs hunits hone
        rw [Nat.pow_succ, ← Nat.mul_assoc] at hfuel
        have hall : ∀ d ∈ (s.next base).digits, d < base := by
          rw [hnext]
          exact List.forall_mem_cons.2 ⟨hdigit, hdigits⟩
        have hhead : left < Magnitude.one → ∃ d ∈ (s.next base).digits.head?, 0 < d := by
          intro hlast
          rw [hnext]
          exact ⟨digit, rfl, hnonzero hlast⟩
        obtain ⟨last, hrun, hlast⟩ := ih hrest hleft (by omega) hall hhead
        rw [if_pos hgo]
        exact ⟨last, .step hgo hrun, hlast⟩
      · have hstop : ¬ Double.one.atMost s.rest = true := by
          rw [hs, one_eq_ofUnits, stored_one.atMost_iff hunits]
          exact hone
        rw [if_neg hstop]
        exact ⟨s, .stop (Bool.eq_false_iff.2 hstop), rfl, hdigits, hfirst (Nat.not_le.1 hone)⟩

end WholeState

/-- A state of the loop for fraction digits, after a digit is taken off. -/
structure FractionState where
  /-- What is left of the fraction, scaled so that the next digit is its whole part in the base. -/
  fraction : Double
  /-- Half the distance to the next double, scaled like the fraction. -/
  margin : Double
  /-- The digits so far, the last one first. -/
  written : List Nat

namespace FractionState

/-- The state before the first step. -/
def start (x : Double) : FractionState := ⟨x.sub x.trunc, Radix.margin x, []⟩

/-- A step scales the fraction and the margin and takes a digit off. -/
def next (base : Nat) (s : FractionState) : FractionState :=
  let scaled := s.fraction.mul (.ofNat base)
  let digit := wholeUnits scaled
  ⟨scaled.sub (.ofNat digit), s.margin.mul (.ofNat base), digit :: s.written⟩

/-- The digits are rounded up when this is nearer and within the margin. -/
def roundsUp (s : FractionState) : Bool :=
  (half.less s.fraction || (s.fraction.equal half && s.written.headD 0 % 2 == 1)) &&
    Double.one.less (s.fraction.add s.margin)

/-- The loop ends when the digits are rounded up or what is left is smaller than the margin. -/
def ends (s : FractionState) : Bool := s.roundsUp || s.fraction.less s.margin

/-- What the digits come to; nothing when rounding up carries into the whole part. -/
def outcome (base : Nat) (s : FractionState) : Option (List Nat) :=
  if s.roundsUp then carryInto? base s.written else some s.written

/-- A run of the loop, from before its first step to the step that ends it. -/
inductive Run (base : Nat) : FractionState → FractionState → Prop
  | stop {s : FractionState} (h : (s.next base).ends = true) : Run base s (s.next base)
  | step {s last : FractionState} (h : (s.next base).ends = false)
      (later : Run base (s.next base) last) : Run base s last

theorem fractionDigits_succ (base fuel : Nat) (s : FractionState) :
    fractionDigits base (fuel + 1) s.fraction s.margin s.written =
      if (s.next base).ends then (s.next base).outcome base
      else fractionDigits base fuel (s.next base).fraction (s.next base).margin
        (s.next base).written := by
  have hstep : fractionDigits base (fuel + 1) s.fraction s.margin s.written =
      if (s.next base).roundsUp then carryInto? base (s.next base).written
      else if (s.next base).fraction.less (s.next base).margin then some (s.next base).written
      else fractionDigits base fuel (s.next base).fraction (s.next base).margin
        (s.next base).written := rfl
  rw [hstep, ends, outcome]
  cases (s.next base).roundsUp <;> simp

/-- A fraction that is not smaller than the margin gets its digits from the loop. -/
theorem fractionDigits?_eq {x : Double} (h : ¬ (x.sub x.trunc).less (Radix.margin x) = true) :
    fractionDigits? base x =
      fractionDigits base maxSteps (start x).fraction (start x).margin (start x).written := by
  rw [fractionDigits?, if_neg h, start]

variable {s : FractionState} {fraction margin : Nat}

/-- What is left of a fraction, below one and not below the margin, so that there is a digit more to
write. -/
structure Unfinished (s : FractionState) (fraction margin : Nat) : Prop where
  fraction_eq : s.fraction = ofUnits fraction
  margin_eq : s.margin = ofUnits margin
  storedFraction : Stored fraction
  storedMargin : Stored margin
  margin_le : margin ≤ fraction
  fraction_lt : fraction < Magnitude.one

/-- Scaling rounds the fraction to less than the base and keeps it from falling below the margin,
which at least doubles. -/
theorem Unfinished.exists_scaled (h : Unfinished s fraction margin) (htwo : 2 ≤ base)
    (hbase : base < 2 ^ (53 : Nat)) : ∃ scaled grown,
      s.fraction.mul (.ofNat base) = ofUnits scaled ∧ s.margin.mul (.ofNat base) = ofUnits grown ∧
      Stored scaled ∧ Stored grown ∧ scaled < base * Magnitude.one ∧ grown ≤ scaled ∧
      2 * margin ≤ grown := by
  have htop : Stored (base * Magnitude.one) := stored_mul_one hbase
  have hbelow := Magnitude.nearestUnits_mul_lt (by omega) hbase h.storedFraction.onGrid
    h.fraction_lt
  have hmarginLe := Nat.mul_le_mul_right base h.margin_le
  have hfractionLe := Nat.mul_le_mul_right base h.fraction_lt.le
  rw [Nat.mul_comm Magnitude.one] at hbelow hfractionLe
  obtain ⟨hscaled, hroundFraction⟩ := stored_nearestUnits Nat.one_pos htop
    (show fraction * base ≤ base * Magnitude.one * 1 by omega)
  obtain ⟨hgrown, hroundMargin⟩ := stored_nearestUnits Nat.one_pos htop
    (show margin * base ≤ base * Magnitude.one * 1 by omega)
  have hdoubled : margin * 2 ^ 1 ≤ Magnitude.nearestUnits (margin * base) 1 := by
    apply Magnitude.le_nearestUnits Nat.one_pos
      (Magnitude.gap_dvd_mul_two_pow h.storedMargin.onGrid 1)
    rw [Nat.mul_one]
    exact Nat.mul_le_mul_left margin htwo
  refine ⟨_, _, ?_, ?_, hscaled, hgrown, hbelow,
    Magnitude.nearestUnits_le_nearestUnits hmarginLe, by omega⟩
  · rw [h.fraction_eq, h.storedFraction.mul_ofNat htop]
    exact hroundFraction
  · rw [h.margin_eq, h.storedMargin.mul_ofNat htop]
    exact hroundMargin

/-- A step at least doubles the margin. What it leaves is below one, and its digit below the base,
and not zero when what is left is below the margin. -/
theorem Unfinished.exists_next (h : Unfinished s fraction margin) (htwo : 2 ≤ base)
    (hbase : base < 2 ^ (53 : Nat)) : ∃ left grown digit,
      (s.next base).fraction = ofUnits left ∧ (s.next base).margin = ofUnits grown ∧
      (s.next base).written = digit :: s.written ∧ Stored left ∧ Stored grown ∧
      left < Magnitude.one ∧ 2 * margin ≤ grown ∧ digit < base ∧ (left < grown → 0 < digit) := by
  obtain ⟨scaled, grown, hmul, hgrow, hscaled, hgrown, hbelow, horder, hdoubled⟩ :=
    h.exists_scaled htwo hbase
  have hdigit : scaled / Magnitude.one < base :=
    Nat.div_lt_of_lt_mul (Nat.lt_of_lt_of_eq hbelow (Nat.mul_comm base Magnitude.one))
  have hwhole : Stored (scaled / Magnitude.one * Magnitude.one) :=
    stored_mul_one (Nat.lt_trans hdigit hbase)
  have hsplit : scaled - scaled / Magnitude.one * Magnitude.one = scaled % Magnitude.one :=
    Nat.sub_eq_of_eq_add' (Nat.div_add_mod' scaled Magnitude.one).symm
  refine ⟨scaled % Magnitude.one, grown, scaled / Magnitude.one, ?_, ?_, ?_, hscaled.mod_one,
    hgrown, Nat.mod_lt scaled Magnitude.one_pos, hdoubled, hdigit, fun hless => ?_⟩
  · rw [next, hmul, hscaled.wholeUnits_eq, ofNat_eq_ofUnits,
      hscaled.sub hwhole (Nat.div_mul_le_self _ _), hsplit]
  · rw [next, hgrow]
  · rw [next, hmul, hscaled.wholeUnits_eq]
  · -- without a digit nothing is taken off, and the margin is still the smaller one
    apply Nat.pos_of_ne_zero
    intro hzero
    have hsmall : scaled < Magnitude.one :=
      (Nat.div_eq_zero_iff.1 hzero).resolve_left Magnitude.one_pos.ne'
    rw [Nat.mod_eq_of_lt hsmall] at hless
    omega

/-- The loop ends, as the margin doubles with every step. All its digits are below the base, and the
last one is not zero, unless it is rounded up. -/
theorem Unfinished.exists_run (h : Unfinished s fraction margin) (htwo : 2 ≤ base)
    (hbase : base < 2 ^ (53 : Nat)) (fuel : Nat) (hfuel : Magnitude.one ≤ margin * 2 ^ fuel)
    (hwritten : ∀ d ∈ s.written, d < base) :
    ∃ last, Run base s last ∧
      fractionDigits base fuel s.fraction s.margin s.written = last.outcome base ∧
      (∀ d ∈ last.written, d < base) ∧
      (last.roundsUp = false → ∃ d ∈ last.written.head?, 0 < d) := by
  induction fuel generalizing s fraction margin with
  | zero =>
      have hmargin := h.margin_le
      have hfraction := h.fraction_lt
      rw [Nat.pow_zero, Nat.mul_one] at hfuel
      omega
  | succ fuel ih =>
      obtain ⟨left, grown, digit, hleft, hgrown, hdigits, hstoredLeft, hstoredGrown, hlt, hdouble,
        hdigit, hnonzero⟩ := h.exists_next htwo hbase
      have hall : ∀ d ∈ (s.next base).written, d < base := by
        rw [hdigits]
        exact List.forall_mem_cons.2 ⟨hdigit, hwritten⟩
      rw [fractionDigits_succ]
      by_cases hends : (s.next base).ends = true
      · rw [if_pos hends]
        refine ⟨s.next base, .stop hends, rfl, hall, fun hcut => ?_⟩
        rw [ends, hcut, Bool.false_or, hleft, hgrown, hstoredLeft.less_iff hstoredGrown] at hends
        rw [hdigits]
        exact ⟨digit, rfl, hnonzero hends⟩
      · have hgo : ¬ left < grown := by
          rw [ends, Bool.or_eq_true, hleft, hgrown, hstoredLeft.less_iff hstoredGrown] at hends
          exact fun hless => hends (.inr hless)
        have hunfinished : Unfinished (s.next base) left grown :=
          ⟨hleft, hgrown, hstoredLeft, hstoredGrown, Nat.not_lt.1 hgo, hlt⟩
        have hroom : Magnitude.one ≤ grown * 2 ^ fuel :=
          calc
            Magnitude.one ≤ margin * 2 ^ (fuel + 1) := hfuel
            _ = 2 * margin * 2 ^ fuel := by ring
            _ ≤ grown * 2 ^ fuel := Nat.mul_le_mul_right _ hdouble
        obtain ⟨last, hrun, hlast⟩ := ih hunfinished hroom hall
        rw [if_neg hends]
        exact ⟨last, .step (Bool.eq_false_iff.2 hends) hrun, hlast⟩

end FractionState

end Radix

end ScriptValues
