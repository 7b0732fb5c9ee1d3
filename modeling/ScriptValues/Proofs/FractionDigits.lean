import Mathlib.Algebra.Order.Field.Basic
import Mathlib.Algebra.Order.Field.Rat
import Mathlib.Tactic.FieldSimp
import Mathlib.Tactic.Linarith
import Mathlib.Tactic.Positivity
import Mathlib.Tactic.Ring
import ScriptValues.Proofs.Numeral
import ScriptValues.Proofs.WholeNumber
import ScriptValues.Radix

/-!
Fraction digits without rounding. On numbers of units the digit loop keeps one thing: what is
written, together with what is left, is the fraction. So the digits differ from the fraction by less
than the margin when the loop ends, and not at all when the margin is a power of two that divides
the fraction and the base is a power of two. The loop on doubles is this loop as long as a step
loses nothing that matters, and then so do its digits.
-/

namespace ScriptValues

namespace Numeral

variable {base : Nat}

/-- The value of digits after the point. -/
def fractionValue (base : Nat) (ds : List Nat) : ℚ := value base ds / (base : ℚ) ^ ds.length

@[simp] theorem fractionValue_nil (base : Nat) : fractionValue base [] = 0 := by
  simp [fractionValue]

/-- A further digit counts for its place. -/
theorem fractionValue_append_singleton (hbase : 0 < base) (ds : List Nat) (d : Nat) :
    fractionValue base (ds ++ [d]) = fractionValue base ds + d / (base : ℚ) ^ (ds.length + 1) := by
  have hpos : (base : ℚ) ≠ 0 := by exact_mod_cast hbase.ne'
  have hone : value base [d] = d := by simp [value]
  rw [fractionValue, value_append, hone, fractionValue, List.length_append, List.length_singleton]
  push_cast
  field_simp
  ring

end Numeral

namespace Radix

open Numeral

variable {base : Nat}

/-- Where the digits of a fraction end up: digits after the point, or a one before it. -/
def outcomeValue (base : Nat) : Option (List Nat) → ℚ
  | some written => fractionValue base written.reverse
  | none => 1

/-- Adding one to the last digit adds one in its place, however far it carries. -/
theorem outcomeValue_carryInto? (hbase : 0 < base) (written : List Nat)
    (hwritten : ∀ d ∈ written, d < base) :
    outcomeValue base (carryInto? base written) =
      fractionValue base written.reverse + 1 / (base : ℚ) ^ written.length := by
  have hpos : (base : ℚ) ≠ 0 := by exact_mod_cast hbase.ne'
  induction written with
  | nil => simp [carryInto?, outcomeValue]
  | cons d higher ih =>
      rw [List.reverse_cons, fractionValue_append_singleton hbase, List.length_reverse,
        List.length_cons, carryInto?]
      split
      · rw [outcomeValue, List.reverse_cons, fractionValue_append_singleton hbase,
          List.length_reverse]
        push_cast
        ring
      · next hlast =>
        have hd := hwritten d (by simp)
        have hdigit : (d : ℚ) = base - 1 := by
          have : d + 1 = base := by omega
          rw [← this]
          push_cast
          ring
        rw [ih fun e he => hwritten e (by simp [he]), hdigit]
        field_simp
        ring

/-- The digits that `carryInto?` leaves are digits. -/
theorem lt_of_mem_carryInto? {written carried : List Nat} (hwritten : ∀ d ∈ written, d < base)
    (h : carryInto? base written = some carried) : ∀ d ∈ carried, d < base := by
  induction written with
  | nil => cases h
  | cons d higher ih =>
      rw [carryInto?] at h
      split at h
      · next hnext =>
        cases h
        simpa [hnext] using fun e he => hwritten e (by simp [he])
      · exact ih (fun e he => hwritten e (by simp [he])) h

/-- The digit loop on numbers of units, without any rounding. -/
def exactFractionDigits (base : Nat) :
    (fuel fraction margin : Nat) → (written : List Nat) → Option (List Nat)
  | 0, _, _, written => some written
  | fuel + 1, fraction, margin, written =>
    let scaled := fraction * base
    let margin := margin * base
    let digit := scaled / Magnitude.one
    let rest := scaled % Magnitude.one
    let roundsUp := Magnitude.one < 2 * rest ∨ 2 * rest = Magnitude.one ∧ digit % 2 = 1
    if roundsUp ∧ Magnitude.one < rest + margin then carryInto? base (digit :: written)
    else if rest < margin then some (digit :: written)
    else exactFractionDigits base fuel rest margin (digit :: written)

/-- The number that digits written so far and what is left of the fraction make up together. -/
def target (base fraction : Nat) (written : List Nat) : ℚ :=
  fractionValue base written.reverse +
    fraction / Magnitude.one / (base : ℚ) ^ written.length

/-- A step moves the next digit from what is left to what is written. -/
theorem target_step (hbase : 0 < base) (fraction : Nat) (written : List Nat) :
    target base (fraction * base % Magnitude.one)
        (fraction * base / Magnitude.one :: written) =
      target base fraction written := by
  have hpos : (base : ℚ) ≠ 0 := by exact_mod_cast hbase.ne'
  have hone : (Magnitude.one : ℚ) ≠ 0 := by exact_mod_cast Magnitude.one_pos.ne'
  have hsplit : ((fraction * base % Magnitude.one : Nat) : ℚ) =
      fraction * base - (fraction * base / Magnitude.one : Nat) * Magnitude.one := by
    rw [eq_sub_iff_add_eq]
    exact_mod_cast Nat.mod_add_div' (fraction * base) Magnitude.one
  rw [target, target, hsplit, List.reverse_cons, fractionValue_append_singleton hbase,
    List.length_reverse, List.length_cons]
  generalize ((fraction * base / Magnitude.one : Nat) : ℚ) = digit
  generalize (Magnitude.one : ℚ) = one at *
  field_simp
  ring

/-- What rounding up adds to the digits is what is missing to one in their last place. -/
theorem outcomeValue_roundedUp (hbase : 0 < base) {fraction digit : Nat} {written : List Nat}
    (hwritten : ∀ d ∈ digit :: written, d < base) :
    outcomeValue base (carryInto? base (digit :: written)) -
        target base fraction (digit :: written) =
      (1 - fraction / Magnitude.one) / (base : ℚ) ^ (written.length + 1) := by
  rw [outcomeValue_carryInto? hbase _ hwritten, target, List.length_cons]
  ring

theorem outcomeValue_cutOff (fraction : Nat) (written : List Nat) :
    outcomeValue base (some written) - target base fraction written =
      -(fraction / Magnitude.one / (base : ℚ) ^ written.length) := by
  rw [outcomeValue, target]
  ring

private theorem digit_lt {fraction : Nat} (hfraction : fraction < Magnitude.one)
    (hbase : 0 < base) : fraction * base / Magnitude.one < base :=
  Nat.div_lt_of_lt_mul (Nat.mul_lt_mul_of_pos_right hfraction hbase)

/-- The digits of the loop are digits. -/
theorem lt_of_mem_exactFractionDigits (hbase : 0 < base) (fuel : Nat) {fraction margin : Nat}
    {written ds : List Nat} (hwritten : ∀ d ∈ written, d < base)
    (hfraction : fraction < Magnitude.one)
    (h : exactFractionDigits base fuel fraction margin written = some ds) : ∀ d ∈ ds, d < base := by
  induction fuel generalizing fraction margin written with
  | zero =>
      cases h
      exact hwritten
  | succ fuel ih =>
      have hnext : ∀ d ∈ fraction * base / Magnitude.one :: written, d < base := by
        simpa using ⟨digit_lt hfraction hbase, hwritten⟩
      rw [exactFractionDigits] at h
      split at h
      · exact lt_of_mem_carryInto? hnext h
      · split at h
        · cases h
          exact hnext
        · exact ih hnext (Nat.mod_lt _ Magnitude.one_pos) h

/-- When the loop ends, the digits are less than the margin away from the fraction. -/
theorem near_exactFractionDigits (hbase : 2 ≤ base) (fuel : Nat) {fraction margin : Nat}
    {written : List Nat} (hwritten : ∀ d ∈ written, d < base) (hmargin : margin ≤ fraction)
    (hfraction : fraction < Magnitude.one) (hfuel : Magnitude.one ≤ margin * 2 ^ fuel) :
    |outcomeValue base (exactFractionDigits base fuel fraction margin written) -
        target base fraction written| <
      margin / Magnitude.one / (base : ℚ) ^ written.length := by
  have hpos : 0 < base := by omega
  have hone : (0 : ℚ) < Magnitude.one := by exact_mod_cast Magnitude.one_pos
  induction fuel generalizing fraction margin written with
  | zero =>
      rw [Nat.pow_zero] at hfuel
      omega
  | succ fuel ih =>
      have hnext : ∀ d ∈ fraction * base / Magnitude.one :: written, d < base := by
        simpa using ⟨digit_lt hfraction hpos, hwritten⟩
      have hscale : (margin : ℚ) / Magnitude.one / (base : ℚ) ^ written.length =
          (margin * base : Nat) / Magnitude.one / (base : ℚ) ^ (written.length + 1) := by
        have : (base : ℚ) ≠ 0 := by exact_mod_cast hpos.ne'
        push_cast
        field_simp
        ring
      have hplace : (0 : ℚ) < (base : ℚ) ^ (written.length + 1) := by positivity
      rw [← target_step hpos fraction written, hscale, exactFractionDigits]
      have hrest := Nat.mod_lt (fraction * base) Magnitude.one_pos
      have hgrown : Magnitude.one ≤ margin * base * 2 ^ fuel :=
        calc
          Magnitude.one ≤ margin * 2 ^ (fuel + 1) := hfuel
          _ = margin * 2 * 2 ^ fuel := by ring
          _ ≤ margin * base * 2 ^ fuel :=
            Nat.mul_le_mul_right _ (Nat.mul_le_mul_left _ hbase)
      generalize fraction * base / Magnitude.one = digit at *
      generalize fraction * base % Magnitude.one = rest at *
      generalize margin * base = margin at *
      have hrestRat : (rest : ℚ) / Magnitude.one < 1 := by
        rw [div_lt_one hone]
        exact_mod_cast hrest
      split
      · next hup =>
        have hreach : (1 : ℚ) - rest / Magnitude.one < margin / Magnitude.one := by
          rw [sub_lt_iff_lt_add, ← add_div, one_lt_div hone]
          exact_mod_cast (by omega : Magnitude.one < margin + rest)
        rw [outcomeValue_roundedUp hpos hnext, abs_of_pos (div_pos (by linarith) hplace)]
        exact div_lt_div_of_pos_right hreach hplace
      · split
        · next hstop =>
          have hreach : (rest : ℚ) / Magnitude.one < margin / Magnitude.one :=
            div_lt_div_of_pos_right (by exact_mod_cast hstop) hone
          have hleft : (0 : ℚ) ≤ rest / Magnitude.one := div_nonneg (Nat.cast_nonneg _) hone.le
          rw [outcomeValue_cutOff, abs_neg, List.length_cons,
            abs_of_nonneg (div_nonneg hleft hplace.le)]
          exact div_lt_div_of_pos_right hreach hplace
        · next hgo =>
          have := ih hnext (Nat.le_of_not_lt hgo) hrest hgrown
          rwa [List.length_cons] at this

/-- After a step in a base that is a power of two, what is left is a multiple of the margin as
before, until nothing is left. -/
private theorem rest_of_dvd (bits : Nat) {scale fraction : Nat} (hscale : 2 ^ scale ∣ fraction) :
    fraction * 2 ^ bits % Magnitude.one = 0 ∨
      (2 ^ (scale + bits) ∣ fraction * 2 ^ bits % Magnitude.one ∧
        2 ^ (scale + bits) ∣ Magnitude.one) := by
  obtain ⟨top, hone⟩ := Magnitude.one_eq_two_pow
  have hscaled : 2 ^ (scale + bits) ∣ fraction * 2 ^ bits := by
    rw [Nat.pow_add]
    exact Nat.mul_dvd_mul_right hscale _
  rw [hone]
  rcases Nat.le_total (scale + bits) top with hle | hle
  · have hdvd : 2 ^ (scale + bits) ∣ 2 ^ top := Nat.pow_dvd_pow 2 hle
    exact Or.inr ⟨(Nat.dvd_mod_iff hdvd).2 hscaled, hdvd⟩
  · exact Or.inl (Nat.mod_eq_zero_of_dvd (Nat.dvd_trans (Nat.pow_dvd_pow 2 hle) hscaled))

/-- In a base that is a power of two, with a margin that divides the fraction, the digits are those
of the fraction to its end. -/
theorem exactFractionDigits_two_pow {bits scale : Nat} (fuel : Nat) {fraction : Nat}
    {written : List Nat} (hbits : 0 < bits) (hscale : 2 ^ scale ∣ fraction)
    (hmargin : 2 ^ scale ≤ fraction) (hfraction : fraction < Magnitude.one)
    (hfuel : Magnitude.one ≤ 2 ^ scale * 2 ^ fuel) :
    ∃ ds, exactFractionDigits (2 ^ bits) fuel fraction (2 ^ scale) written = some ds ∧
      fractionValue (2 ^ bits) ds.reverse = target (2 ^ bits) fraction written := by
  induction fuel generalizing scale fraction written with
  | zero =>
      rw [Nat.pow_zero] at hfuel
      omega
  | succ fuel ih =>
      have hstep := target_step (Nat.two_pow_pos bits) fraction written
      have hrest := Nat.mod_lt (fraction * 2 ^ bits) Magnitude.one_pos
      have haligned := rest_of_dvd bits hscale
      have hpos := Magnitude.one_pos
      rw [exactFractionDigits, ← Nat.pow_add]
      generalize fraction * 2 ^ bits / Magnitude.one = digit at *
      generalize fraction * 2 ^ bits % Magnitude.one = rest at *
      -- rounding up would have to reach past a multiple of the margin
      have hnoCarry : rest = 0 ∨ rest + 2 ^ (scale + bits) ≤ Magnitude.one :=
        haligned.imp_right fun h => Magnitude.add_le_of_dvd h.1 h.2 hrest
      rw [if_neg (by omega)]
      split
      · next hstop =>
        have hzero : rest = 0 := by
          rcases haligned with hzero | ⟨hdvd, -⟩
          · exact hzero
          · exact Nat.eq_zero_of_dvd_of_lt hdvd hstop
        refine ⟨_, rfl, ?_⟩
        rw [← hstep, target, hzero, Nat.cast_zero, zero_div, zero_div, add_zero]
      · next hgo =>
        have hdvd : 2 ^ (scale + bits) ∣ rest := by
          rcases haligned with rfl | ⟨hdvd, -⟩
          · exact Nat.dvd_zero _
          · exact hdvd
        have hgrown : Magnitude.one ≤ 2 ^ (scale + bits) * 2 ^ fuel := by
          rw [← Nat.pow_add] at hfuel ⊢
          exact Nat.le_trans hfuel (Nat.pow_le_pow_right (by decide) (by omega))
        rw [← hstep]
        exact ih hdvd (Nat.le_of_not_lt hgo) hrest hgrown

open Double

/-- A state of the loop on doubles, with the numbers of units of its fraction and its margin, whose
next step loses nothing that matters: the scaled fraction is a double, and the scaled margin is one
as long as it is below one. What is left and the margin then do not round to one unless they are one
at most. -/
structure Faithful (base fraction margin : Nat) : Prop where
  margin_le : margin ≤ fraction
  fraction_lt : fraction < Magnitude.one
  storedFraction : Stored fraction
  storedMargin : Stored margin
  storedScaled : Stored (fraction * base)
  storedGrown : margin * base < Magnitude.one → Stored (margin * base)
  apart : margin * base < Magnitude.one →
    Magnitude.one < fraction * base % Magnitude.one + margin * base →
    ∃ bound, Stored bound ∧ Magnitude.one < bound ∧
      bound ≤ fraction * base % Magnitude.one + margin * base

theorem exists_half_one : ∃ half, Magnitude.one = 2 * half ∧ Stored half ∧
    Stored (Magnitude.one + half) ∧ Double.half = ofUnits half := by
  obtain ⟨bits, hone⟩ : ∃ bits, Magnitude.one = 2 * 2 ^ bits := by
    have hlarge : Magnitude.one ≠ 1 := by decide +kernel
    obtain ⟨bits, hone⟩ := Magnitude.one_eq_two_pow
    cases bits with
    | zero => exact absurd hone hlarge
    | succ bits => exact ⟨bits, hone.trans Nat.pow_succ'⟩
  have hlimit := Magnitude.two_pow_mul_one_lt_limit
  refine ⟨2 ^ bits, hone, ⟨Magnitude.gap_dvd_two_pow bits, by omega⟩, ⟨?_, by omega⟩, ?_⟩
  · have := @Magnitude.gap_dvd_mul_pow 3 bits (by decide)
    rwa [show Magnitude.one + 2 ^ bits = 3 * 2 ^ bits by omega]
  · exact nearest_congr false Nat.two_pos Nat.one_pos (by omega)

theorem stored_mul_one {n : Nat} (hn : n < 2 ^ (53 : Nat)) : Stored (n * Magnitude.one) :=
  (Exact.of_lt hn).stored

theorem stored_one : Stored Magnitude.one := by
  simpa using stored_mul_one (show 1 < 2 ^ (53 : Nat) by decide)

theorem one_eq_ofUnits : Double.one = ofUnits Magnitude.one := by
  rw [Double.one, ofNat_eq_ofUnits, Nat.one_mul]

namespace Faithful

variable {fraction margin : Nat}

/-- The margin grows by the base, or past one. -/
theorem grown (h : Faithful base fraction margin) (hbase : base < 2 ^ (53 : Nat)) :
    ∃ grown, Stored grown ∧ (ofUnits margin).mul (.ofNat base) = ofUnits grown ∧
      (grown = margin * base ∨ Magnitude.one ≤ margin * base ∧ Magnitude.one ≤ grown) := by
  have hmul := h.storedMargin.mul_ofNat (stored_mul_one hbase)
  rcases Nat.lt_or_ge (margin * base) Magnitude.one with hsmall | hlarge
  · exact ⟨_, h.storedGrown hsmall, hmul, Or.inl rfl⟩
  · have hle : margin * base ≤ base * Magnitude.one := by
      rw [Nat.mul_comm base]
      exact Nat.mul_le_mul_right _
        (Nat.le_of_lt (Nat.lt_of_le_of_lt h.margin_le h.fraction_lt))
    obtain ⟨grown, hgrown, hround, hside⟩ := exists_stored_of_le (stored_mul_one hbase) hle
    exact ⟨grown, hgrown, hmul.trans hround,
      Or.inr ⟨hlarge, (hside _ stored_one).1 hlarge⟩⟩

/-- What is left after a step is below one and exact. -/
theorem rest_eq (h : Faithful base fraction margin) (hpos : 0 < base)
    (hbase : base < 2 ^ (53 : Nat)) :
    Stored (fraction * base % Magnitude.one) ∧
      wholeUnits ((ofUnits fraction).mul (.ofNat base)) = fraction * base / Magnitude.one ∧
      ((ofUnits fraction).mul (.ofNat base)).sub (.ofNat (fraction * base / Magnitude.one)) =
        ofUnits (fraction * base % Magnitude.one) := by
  have hdigit := digit_lt h.fraction_lt hpos
  have hwhole : fraction * base / Magnitude.one * Magnitude.one ≤ fraction * base :=
    Nat.div_mul_le_self _ _
  have hsplit := Nat.div_add_mod' (fraction * base) Magnitude.one
  rw [h.storedFraction.mul_ofNat (stored_mul_one hbase)]
  refine ⟨h.storedScaled.mod_one, h.storedScaled.wholeUnits_eq, ?_⟩
  rw [ofNat_eq_ofUnits,
    h.storedScaled.sub (stored_mul_one (Nat.lt_trans hdigit hbase)) hwhole,
    Nat.sub_eq_of_eq_add' hsplit.symm]

/-- The step rounds up on doubles when it does on numbers of units. -/
theorem roundsUp_iff {rest : Nat} (hrest : Stored rest) (digit : Nat) :
    (Double.half.less (ofUnits rest) || ((ofUnits rest).equal .half && digit % 2 == 1)) = true ↔
      Magnitude.one < 2 * rest ∨ 2 * rest = Magnitude.one ∧ digit % 2 = 1 := by
  obtain ⟨half, hone, hhalf, -, heq⟩ := exists_half_one
  rw [Bool.or_eq_true, Bool.and_eq_true, heq, hhalf.less_iff hrest, hrest.equal_iff hhalf,
    beq_iff_eq]
  generalize Magnitude.one = one at *
  omega

/-- Rounding up reaches past the margin on doubles when it does on numbers of units. -/
theorem reaches_iff (h : Faithful base fraction margin) {grown : Nat} (hgrown : Stored grown)
    (hcase : grown = margin * base ∨ Magnitude.one ≤ margin * base ∧ Magnitude.one ≤ grown)
    (hup : Magnitude.one ≤ 2 * (fraction * base % Magnitude.one)) :
    Double.one.less ((ofUnits (fraction * base % Magnitude.one)).add (ofUnits grown)) = true ↔
      Magnitude.one < fraction * base % Magnitude.one + margin * base := by
  obtain ⟨half, hone, -, hbound, -⟩ := exists_half_one
  have hpos := Magnitude.one_pos
  have hapart := h.apart
  rw [one_eq_ofUnits, h.storedScaled.mod_one.add hgrown]
  have hstored := stored_one
  generalize fraction * base % Magnitude.one = rest at *
  generalize margin * base = margin at *
  generalize Magnitude.one = one at *
  have hpast (hlarge : one ≤ grown) : (ofUnits one).less (ofUnits (rest + grown)) = true := by
    clear hapart
    exact hstored.less_ofUnits hbound (by omega) (by omega)
  rcases hcase with rfl | ⟨hlarge, hgrownLarge⟩
  · constructor
    · intro hless
      by_contra hle
      exact hstored.not_less_ofUnits (Nat.le_of_not_lt hle) hless
    · intro hlt
      rcases Nat.lt_or_ge grown one with hsmall | hlarge
      · obtain ⟨bound, hbound, hltBound, hle⟩ := hapart hsmall hlt
        exact hstored.less_ofUnits hbound hltBound hle
      · exact hpast hlarge
  · clear hapart
    exact iff_of_true (hpast hgrownLarge) (by omega)

/-- The loop ends on doubles when it does on numbers of units. -/
theorem stops_iff (h : Faithful base fraction margin) {grown : Nat} (hgrown : Stored grown)
    (hcase : grown = margin * base ∨ Magnitude.one ≤ margin * base ∧ Magnitude.one ≤ grown) :
    (ofUnits (fraction * base % Magnitude.one)).less (ofUnits grown) = true ↔
      fraction * base % Magnitude.one < margin * base := by
  have hrest := Nat.mod_lt (fraction * base) Magnitude.one_pos
  rw [h.storedScaled.mod_one.less_iff hgrown]
  generalize fraction * base % Magnitude.one = rest at *
  generalize margin * base = margin at *
  generalize Magnitude.one = one at *
  omega

end Faithful

/-- While its steps lose nothing that matters, the loop on doubles is the loop on numbers of
units. -/
theorem fractionDigits_eq (hpos : 0 < base) (hbase : base < 2 ^ (53 : Nat))
    (Keeps : Nat → Nat → Prop)
    (hfaithful : ∀ fraction margin, Keeps fraction margin → Faithful base fraction margin)
    (hstep : ∀ fraction margin, Keeps fraction margin →
      margin * base ≤ fraction * base % Magnitude.one →
        Keeps (fraction * base % Magnitude.one) (margin * base))
    (fuel : Nat) {fraction margin : Nat} (written : List Nat) (h : Keeps fraction margin) :
    fractionDigits base fuel (ofUnits fraction) (ofUnits margin) written =
      exactFractionDigits base fuel fraction margin written := by
  induction fuel generalizing fraction margin written with
  | zero => rfl
  | succ fuel ih =>
      have hstate := hfaithful _ _ h
      obtain ⟨hrest, hdigit, hleft⟩ := hstate.rest_eq hpos hbase
      obtain ⟨grown, hgrown, hmargin, hcase⟩ := hstate.grown hbase
      have hstops := hstate.stops_iff hgrown hcase
      have hrestLt := Nat.mod_lt (fraction * base) Magnitude.one_pos
      rw [fractionDigits, exactFractionDigits, hdigit, hleft, hmargin]
      simp only [Bool.and_eq_true, Faithful.roundsUp_iff hrest, hstops]
      split
      · next hup =>
        have hreach := (hstate.reaches_iff hgrown hcase (by omega)).1 hup.2
        rw [if_pos ⟨hup.1, hreach⟩]
      · next hdown =>
        have hnot : ¬ (_ ∧ _) := fun hup =>
          hdown ⟨hup.1, (hstate.reaches_iff hgrown hcase (by omega)).2 hup.2⟩
        rw [if_neg hnot]
        split
        · rfl
        · next hgo =>
          obtain rfl : grown = margin * base := by omega
          exact ih _ (hstep _ _ h (Nat.le_of_not_lt hgo))

private theorem lt_limit_of_lt_one {units : Nat} (h : units < Magnitude.one) :
    units < Magnitude.limit := by
  have := Magnitude.two_pow_mul_one_lt_limit
  omega

private theorem mul_lt_limit {fraction : Nat} (hfraction : fraction < Magnitude.one)
    (hbase : base < 2 ^ (53 : Nat)) : fraction * base < Magnitude.limit :=
  calc
    fraction * base ≤ Magnitude.one * 2 ^ (53 : Nat) :=
      Nat.mul_le_mul (Nat.le_of_lt hfraction) (Nat.le_of_lt hbase)
    _ < Magnitude.limit := by
      rw [Nat.mul_comm]
      exact Magnitude.two_pow_mul_one_lt_limit

/-- In a base that is a power of two, with a margin that divides the fraction, the loop on doubles
loses nothing. -/
theorem fractionDigits_two_pow {bits scale fraction : Nat} (hsmall : bits < 53)
    (hstored : Stored fraction) (hscale : 2 ^ scale ∣ fraction) (hmargin : 2 ^ scale ≤ fraction)
    (hfraction : fraction < Magnitude.one) (fuel : Nat) (written : List Nat) :
    fractionDigits (2 ^ bits) fuel (ofUnits fraction) (ofUnits (2 ^ scale)) written =
      exactFractionDigits (2 ^ bits) fuel fraction (2 ^ scale) written := by
  have hbase : 2 ^ bits < 2 ^ (53 : Nat) := Nat.pow_lt_pow_right (by decide) hsmall
  have hstoredPow (scale : Nat) (h : 2 ^ scale < Magnitude.one) : Stored (2 ^ scale) :=
    ⟨Magnitude.gap_dvd_two_pow scale, lt_limit_of_lt_one h⟩
  have hscaled {fraction : Nat} (h : Stored fraction) (hlt : fraction < Magnitude.one) :
      Stored (fraction * 2 ^ bits) :=
    ⟨Magnitude.gap_dvd_mul_two_pow h.onGrid bits, mul_lt_limit hlt hbase⟩
  apply fractionDigits_eq (Nat.two_pow_pos bits) hbase fun fraction margin =>
    Stored fraction ∧ fraction < Magnitude.one ∧ margin ≤ fraction ∧
      ∃ scale, margin = 2 ^ scale ∧ 2 ^ scale ∣ fraction
  · rintro fraction _ ⟨hstored, hfraction, hmargin, scale, rfl, hscale⟩
    refine ⟨hmargin, hfraction, hstored, hstoredPow _ (Nat.lt_of_le_of_lt hmargin hfraction),
      hscaled hstored hfraction, ?_, ?_⟩
    · rw [← Nat.pow_add]
      exact hstoredPow _
    · rw [← Nat.pow_add]
      intro hgrown hreach
      rcases rest_of_dvd bits hscale with hzero | ⟨hdvd, hone⟩
      · rw [hzero, Nat.zero_add] at hreach
        exact absurd hreach (Nat.lt_asymm hgrown)
      · have hrest := Nat.mod_lt (fraction * 2 ^ bits) Magnitude.one_pos
        exact absurd hreach (Nat.not_lt.2 (Magnitude.add_le_of_dvd hdvd hone hrest))
  · rintro fraction _ ⟨hstored, hfraction, hmargin, scale, rfl, hscale⟩ hgo
    refine ⟨(hscaled hstored hfraction).mod_one, Nat.mod_lt _ Magnitude.one_pos, hgo, scale + bits,
      (Nat.pow_add 2 scale bits).symm, ?_⟩
    rcases rest_of_dvd bits hscale with hzero | ⟨hdvd, -⟩
    · rw [hzero]
      exact Nat.dvd_zero _
    · exact hdvd
  · exact ⟨hstored, hfraction, hmargin, scale, rfl, hscale⟩

/-- A grid of steps of `2 ^ (shift + 1)` units that is coarse for a base: one times the base is at
most 2^53 steps. -/
structure Coarse (base shift : Nat) : Prop where
  three_le : 3 ≤ base
  base_lt : base < 2 ^ (53 : Nat)
  few : base * Magnitude.one ≤ 2 ^ (53 : Nat) * 2 ^ (shift + 1)
  dvd_one : 2 ^ (shift + 1) ∣ Magnitude.one

namespace Coarse

variable {shift fraction margin : Nat}

theorem half_dvd_one (h : Coarse base shift) : 2 ^ shift ∣ Magnitude.one :=
  Nat.dvd_trans (Nat.pow_dvd_pow 2 (Nat.le_succ shift)) h.dvd_one

/-- Up to one there are fewer half steps than significands. -/
theorem succ_lt (h : Coarse base shift) {halves : Nat} (hle : halves * 2 ^ shift ≤ Magnitude.one) :
    halves + 1 < 2 ^ (53 : Nat) := by
  have hscaled : base * halves * 2 ^ shift ≤ 2 ^ (54 : Nat) * 2 ^ shift :=
    calc
      base * halves * 2 ^ shift ≤ base * Magnitude.one := by
        rw [Nat.mul_assoc]
        exact Nat.mul_le_mul_left _ hle
      _ ≤ 2 ^ (53 : Nat) * 2 ^ (shift + 1) := h.few
      _ = 2 ^ (54 : Nat) * 2 ^ shift := by ring
  have hfew := Nat.le_of_mul_le_mul_right hscaled (Nat.two_pow_pos shift)
  have := Nat.mul_le_mul_right halves h.three_le
  omega

theorem stored_of_dvd (h : Coarse base shift) {units : Nat} (hdvd : 2 ^ shift ∣ units)
    (hlt : units < Magnitude.one) : Stored units := by
  obtain ⟨halves, rfl⟩ := hdvd
  refine ⟨?_, lt_limit_of_lt_one hlt⟩
  rw [Nat.mul_comm] at hlt ⊢
  have := h.succ_lt (Nat.le_of_lt hlt)
  exact Magnitude.gap_dvd_mul_pow _ (by omega)

theorem stored_one_add (h : Coarse base shift) : Stored (Magnitude.one + 2 ^ shift) := by
  obtain ⟨half, -, -, hbound, -⟩ := exists_half_one
  obtain ⟨halves, hone⟩ := h.half_dvd_one
  constructor
  · have hlt := h.succ_lt (Nat.le_of_eq ((Nat.mul_comm _ _).trans hone.symm))
    rw [hone, Nat.mul_comm, ← Nat.succ_mul]
    exact Magnitude.gap_dvd_mul_pow _ hlt
  · have hlimit := Magnitude.two_pow_mul_one_lt_limit
    have hle := Nat.le_of_dvd Magnitude.one_pos h.half_dvd_one
    omega

theorem stored_scaled (h : Coarse base shift) (hgrid : 2 ^ (shift + 1) ∣ fraction)
    (hlt : fraction < Magnitude.one) : Stored (fraction * base) := by
  obtain ⟨steps, rfl⟩ := hgrid
  have hthree := h.three_le
  have hscaled : steps * base * 2 ^ (shift + 1) < 2 ^ (53 : Nat) * 2 ^ (shift + 1) :=
    calc
      steps * base * 2 ^ (shift + 1) = base * (2 ^ (shift + 1) * steps) := by ring
      _ < base * Magnitude.one := Nat.mul_lt_mul_of_pos_left hlt (by omega)
      _ ≤ 2 ^ (53 : Nat) * 2 ^ (shift + 1) := h.few
  refine ⟨?_, mul_lt_limit hlt h.base_lt⟩
  rw [Nat.mul_comm (2 ^ (shift + 1)), Nat.mul_right_comm]
  exact Magnitude.gap_dvd_mul_pow _ (Nat.lt_of_mul_lt_mul_right hscaled)

theorem rest_dvd (h : Coarse base shift) (hgrid : 2 ^ (shift + 1) ∣ fraction) :
    2 ^ (shift + 1) ∣ fraction * base % Magnitude.one :=
  (Nat.dvd_mod_iff h.dvd_one).2 (Nat.dvd_mul_right_of_dvd hgrid base)

/-- With a fraction on the grid and a margin of half steps, a step loses nothing: what is left and
the margin are half a step past one when they are past it. -/
theorem faithful (h : Coarse base shift) (hgrid : 2 ^ (shift + 1) ∣ fraction)
    (hhalves : 2 ^ shift ∣ margin) (hmargin : margin ≤ fraction)
    (hfraction : fraction < Magnitude.one) : Faithful base fraction margin where
  margin_le := hmargin
  fraction_lt := hfraction
  storedFraction :=
    h.stored_of_dvd (Nat.dvd_trans (Nat.pow_dvd_pow 2 (Nat.le_succ shift)) hgrid) hfraction
  storedMargin := h.stored_of_dvd hhalves (Nat.lt_of_le_of_lt hmargin hfraction)
  storedScaled := h.stored_scaled hgrid hfraction
  storedGrown := h.stored_of_dvd (Nat.dvd_mul_right_of_dvd hhalves base)
  apart := by
    intro _ hreach
    have hrest := Nat.dvd_trans (Nat.pow_dvd_pow 2 (Nat.le_succ shift)) (h.rest_dvd hgrid)
    have hsum := Nat.dvd_add hrest (Nat.dvd_mul_right_of_dvd hhalves base)
    exact ⟨_, h.stored_one_add, Nat.lt_add_of_pos_right (Nat.two_pow_pos shift),
      Magnitude.add_le_of_dvd h.half_dvd_one hsum hreach⟩

/-- On a grid that is coarse for the base the loop on doubles loses nothing that matters. -/
theorem fractionDigits_eq (h : Coarse base shift) (hgrid : 2 ^ (shift + 1) ∣ fraction)
    (hhalves : 2 ^ shift ∣ margin) (hmargin : margin ≤ fraction)
    (hfraction : fraction < Magnitude.one) (fuel : Nat) (written : List Nat) :
    fractionDigits base fuel (ofUnits fraction) (ofUnits margin) written =
      exactFractionDigits base fuel fraction margin written := by
  have hthree := h.three_le
  apply Radix.fractionDigits_eq (by omega) h.base_lt fun fraction margin =>
    2 ^ (shift + 1) ∣ fraction ∧ 2 ^ shift ∣ margin ∧ margin ≤ fraction ∧ fraction < Magnitude.one
  · rintro fraction margin ⟨hgrid, hhalves, hmargin, hfraction⟩
    exact h.faithful hgrid hhalves hmargin hfraction
  · rintro fraction margin ⟨hgrid, hhalves, -, -⟩ hgo
    exact ⟨h.rest_dvd hgrid, Nat.dvd_mul_right_of_dvd hhalves base, hgo,
      Nat.mod_lt _ Magnitude.one_pos⟩
  · exact ⟨hgrid, hhalves, hmargin, hfraction⟩

end Coarse

end Radix

end ScriptValues
