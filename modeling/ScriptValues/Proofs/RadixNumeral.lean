import ScriptValues.Proofs.DigitLoops
import ScriptValues.Proofs.ExponentialText
import ScriptValues.Proofs.RadixValue

/-!
The numeral of a double in a base. The digit loops run to their ends, whatever is rounded on the
way, and what they leave is a numeral without a zero too many: its digits are below the base, none
of them stands for nothing in front or after the point, and a carry into the whole part leaves no
fraction digits. The sign of the number is the only thing that its sign changes.
-/

namespace ScriptValues

namespace Radix

open Double

variable {base : Nat}

/-- The loop for the fraction digits of a number is entered, and comes to an end. -/
structure FractionLoop (base : Nat) (x : Double) (last : FractionState) : Prop where
  enters : (x.sub x.trunc).less (margin x) = false
  run : FractionState.Run base (.start x) last
  /-- Every digit that is taken off is below the base. -/
  digits_lt : ∀ d ∈ last.written, d < base

/-- How the fraction digits of a number come about, and whether they carry into the whole part. -/
inductive FractionEnds (base : Nat) (x : Double) : (carry : Bool) → (fraction : List Nat) → Prop
  /-- The fraction is smaller than the margin. -/
  | skipped (h : (x.sub x.trunc).less (margin x) = true) : FractionEnds base x false []
  /-- The digits of the loop are left as they are. -/
  | cutOff {last : FractionState} (hloop : FractionLoop base x last)
      (hcut : last.roundsUp = false) : FractionEnds base x false last.written.reverse
  /-- One is added to the last digit that is not the largest, and the digits after it are left
  off. -/
  | raised {last : FractionState} {largest higher : List Nat} {d : Nat}
      (hloop : FractionLoop base x last) (hup : last.roundsUp = true)
      (hwritten : last.written = largest ++ d :: higher) (hlargest : ∀ e ∈ largest, e + 1 = base)
      (hd : d + 1 < base) : FractionEnds base x false ((d + 1) :: higher).reverse
  /-- One is added to the whole part, since all digits are the largest. -/
  | carried {last : FractionState} (hloop : FractionLoop base x last) (hup : last.roundsUp = true)
      (hlargest : ∀ d ∈ last.written, d + 1 = base) : FractionEnds base x true []

/-- How the digits of a whole number come about. -/
inductive WholeEnds (base : Nat) (n : Double) : (whole : List Nat) → Prop
  /-- The number is small enough to be written from its exact value. -/
  | exact (h : n.less (.ofNat exactLimit) = true) :
      WholeEnds base n (Numeral.shownDigits base (wholeUnits n))
  /-- The loop comes to an end, and every digit that is taken off is below the base. -/
  | looped {last : WholeState} (h : n.less (.ofNat exactLimit) = false)
      (run : WholeState.Run base (.start n) last) (digits_lt : ∀ d ∈ last.digits, d < base) :
      WholeEnds base n last.digits

/-- Adding one carries into the whole part only from digits that all are the largest. -/
theorem carryInto?_cases {written : List Nat} (hwritten : ∀ d ∈ written, d < base) :
    carryInto? base written = none ∧ (∀ d ∈ written, d + 1 = base) ∨
      ∃ largest d higher, written = largest ++ d :: higher ∧ (∀ e ∈ largest, e + 1 = base) ∧
        d + 1 < base ∧ carryInto? base written = some ((d + 1) :: higher) := by
  induction written with
  | nil => exact .inl ⟨rfl, List.forall_mem_nil _⟩
  | cons e written ih =>
      obtain ⟨he, hwritten⟩ := List.forall_mem_cons.1 hwritten
      by_cases hnext : e + 1 < base
      · exact .inr ⟨[], e, written, rfl, List.forall_mem_nil _, hnext, if_pos hnext⟩
      · have hlast : e + 1 = base := by omega
        have hcarry : carryInto? base (e :: written) = carryInto? base written := if_neg hnext
        rw [hcarry]
        rcases ih hwritten with ⟨hnone, hall⟩ | ⟨largest, d, higher, rfl, hall, hd, hsome⟩
        · exact .inl ⟨hnone, List.forall_mem_cons.2 ⟨hlast, hall⟩⟩
        · exact .inr ⟨e :: largest, d, higher, rfl, List.forall_mem_cons.2 ⟨hlast, hall⟩, hd, hsome⟩

/-- The loop is entered for every fraction, and does not stop at a zero. -/
theorem exists_fractionLoop (htwo : 2 ≤ base) (hbase : base < 2 ^ (53 : Nat)) {m : Magnitude}
    (hfraction : m.units % Magnitude.one ≠ 0) :
    ∃ last, FractionLoop base (.finite false m) last ∧
      fractionDigits? base (.finite false m) = last.outcome base ∧
      (last.roundsUp = false → ∃ d ∈ last.written.head?, 0 < d) := by
  have henters := not_fraction_less_margin hfraction
  have hlt := Nat.mod_lt m.units Magnitude.one_pos
  obtain ⟨hmargin, -⟩ := Magnitude.halfGap_bounds m.onGrid hfraction
  obtain ⟨bits, hpow⟩ := Magnitude.halfGap_eq_two_pow m.units
  have hstored : Stored (Magnitude.halfGap m.units) := by
    refine ⟨?_, Nat.lt_trans (Nat.lt_of_le_of_lt hmargin hlt) stored_one.bounded⟩
    rw [hpow]
    exact Magnitude.gap_dvd_two_pow bits
  have hunfinished : FractionState.Unfinished (.start (.finite false m))
      (m.units % Magnitude.one) (Magnitude.halfGap m.units) := by
    refine ⟨?_, ?_, (Stored.of_magnitude m).mod_one, hstored, hmargin, hlt⟩
    · rw [FractionState.start, sub_trunc]
    · rw [FractionState.start, margin_eq hfraction]
  obtain ⟨last, hrun, hdigits, hlast, hnonzero⟩ := hunfinished.exists_run htwo hbase maxSteps
    (one_le_margin_mul_pow (Magnitude.halfGap_pos m.units)) (List.forall_mem_nil _)
  refine ⟨last, ⟨Bool.eq_false_iff.2 henters, hrun, hlast⟩, ?_, hnonzero⟩
  rw [FractionState.fractionDigits?_eq henters, hdigits]

/-- The fraction digits of a magnitude come to an end without a zero, and carry only from a
fraction. -/
theorem exists_fractionEnds (htwo : 2 ≤ base) (hbase : base < 2 ^ (53 : Nat)) (m : Magnitude) :
    ∃ carry fraction, FractionEnds base (.finite false m) carry fraction ∧
      fractionDigits? base (.finite false m) = (if carry then none else some fraction.reverse) ∧
      (∀ d ∈ fraction, d < base) ∧ fraction.getLast? ≠ some 0 ∧
      (carry = true → fraction = [] ∧ m.units % Magnitude.one ≠ 0) := by
  rcases exists_exact_or_fraction m with ⟨n, hn, rfl⟩ | hfraction
  · have hskipped : ((Double.finite false hn.magnitude).sub
        (Double.finite false hn.magnitude).trunc).less (margin (.finite false hn.magnitude)) =
          true := by
      rw [sub_trunc, hn.magnitude_units, Nat.mul_mod_left, ← Nat.zero_mul Magnitude.one,
        ← ofNat_eq_ofUnits, ofNat_zero]
      exact zero_less_margin _
    exact ⟨false, [], .skipped hskipped, fractionDigits?_whole hn, List.forall_mem_nil _, nofun,
      nofun⟩
  · obtain ⟨last, hloop, houtcome, hnonzero⟩ := exists_fractionLoop htwo hbase hfraction
    have hdigits := hloop.digits_lt
    rw [houtcome, FractionState.outcome]
    by_cases hup : last.roundsUp = true
    · rw [if_pos hup]
      rcases carryInto?_cases hdigits with
        ⟨hnone, hlargest⟩ | ⟨largest, d, higher, hwritten, hlargest, hd, hsome⟩
      · exact ⟨true, [], .carried hloop hup hlargest, hnone, List.forall_mem_nil _, nofun,
          fun _ => ⟨rfl, hfraction⟩⟩
      · refine ⟨false, _, .raised hloop hup hwritten hlargest hd, ?_, ?_, ?_, nofun⟩
        · rw [hsome, List.reverse_reverse]
          rfl
        · intro e he
          rcases List.mem_cons.1 (List.mem_reverse.1 he) with rfl | he
          · exact hd
          · exact hdigits e (by simp [hwritten, he])
        · rw [List.getLast?_reverse]
          simp
    · rw [if_neg hup]
      have hcut := Bool.eq_false_iff.2 hup
      obtain ⟨d, hd, hpos⟩ := hnonzero hcut
      refine ⟨false, _, .cutOff hloop hcut, ?_, fun d hd => hdigits d (List.mem_reverse.1 hd), ?_,
        nofun⟩
      · rw [List.reverse_reverse]
        rfl
      · rw [List.getLast?_reverse, hd]
        simpa using hpos.ne'

/-- The loop for a large number runs to its end, and the first digit is not zero. -/
theorem exists_wholeLoop {n : Nat} (hn : Exact n) (htwo : 2 ≤ base) (hbase : base < 2 ^ (53 : Nat))
    (hlarge : 2 ^ (53 : Nat) ≤ n) : ∃ last, WholeState.Run base (.start (.ofNat n)) last ∧
      integerDigits base (.ofNat n) = last.digits ∧ (∀ d ∈ last.digits, d < base) ∧
      ∃ d ∈ last.digits.head?, 0 < d := by
  have hless : ¬ (Double.ofNat n).less (.ofNat exactLimit) = true :=
    mt (hn.less_iff .exactLimit).1 (Nat.not_lt.2 hlarge)
  have hstart : (WholeState.start (.ofNat n)).rest = ofUnits (n * Magnitude.one) := by
    rw [WholeState.start, ofNat_eq_ofUnits]
  have hfuel : n * Magnitude.one < Magnitude.one * 2 ^ maxSteps := by
    rw [Nat.mul_comm]
    exact Nat.mul_lt_mul_of_pos_left hn.lt_maxSteps Magnitude.one_pos
  have hone : ¬ n * Magnitude.one < Magnitude.one := by
    have := Nat.mul_le_mul_right Magnitude.one (show 1 ≤ n by omega)
    omega
  rw [WholeState.integerDigits_eq hless]
  exact WholeState.exists_run htwo hbase maxSteps hstart hn.stored hfuel (List.forall_mem_nil _)
    fun hlt => absurd hlt hone

/-- The digits of a whole double come to an end, without a zero in front unless they are zero. -/
theorem wholeEnds_integerDigits {n : Nat} (hn : Exact n) (htwo : 2 ≤ base)
    (hbase : base < 2 ^ (53 : Nat)) :
    WholeEnds base (.ofNat n) (integerDigits base (.ofNat n)) ∧
      integerDigits base (.ofNat n) ≠ [] ∧ (∀ d ∈ integerDigits base (.ofNat n), d < base) ∧
      ((integerDigits base (.ofNat n)).head? = some 0 → n = 0) ∧
      (n = 0 → integerDigits base (.ofNat n) = [0]) := by
  rcases Nat.lt_or_ge n (2 ^ (53 : Nat)) with hsmall | hlarge
  · have hless : (Double.ofNat n).less (.ofNat exactLimit) = true :=
      (hn.less_iff .exactLimit).2 hsmall
    have hends : WholeEnds base (.ofNat n) (Numeral.shownDigits base (wholeUnits (.ofNat n))) :=
      .exact hless
    rw [hn.wholeUnits_eq] at hends
    rw [integerDigits_ofNat hn (.inl hsmall) htwo]
    refine ⟨hends, Numeral.shownDigits_ne_nil htwo n, fun d hd => Numeral.shownDigits_lt htwo hd,
      fun hhead => ?_, fun hzero => if_pos hzero⟩
    by_contra hzero
    rw [Numeral.shownDigits, if_neg hzero] at hhead
    exact Numeral.head?_digits_ne_zero htwo n hhead
  · have hless : ¬ (Double.ofNat n).less (.ofNat exactLimit) = true :=
      mt (hn.less_iff .exactLimit).1 (Nat.not_lt.2 hlarge)
    obtain ⟨last, hrun, hdigits, hlt, d, hhead, hpos⟩ := exists_wholeLoop hn htwo hbase hlarge
    rw [hdigits]
    refine ⟨.looped (Bool.eq_false_iff.2 hless) hrun hlt, ?_, hlt, fun hzero => ?_,
      fun hzero => ?_⟩
    · intro hnil
      rw [hnil] at hhead
      cases hhead
    · rw [hzero] at hhead
      cases hhead
      exact absurd rfl hpos.ne
    · rw [hzero] at hlarge
      exact absurd hlarge (by decide)

/-- The digits before and after the point, as they are laid out. -/
theorem magnitudeChars_eq {writer : IntegerWriter} {x : Double} {carry : Bool} {fraction : List Nat}
    (hdigits : fractionDigits? base x = if carry then none else some fraction.reverse)
    (hcarry : carry = true → fraction = []) : magnitudeChars base x writer =
      integerChars base (if carry then x.trunc.add .one else x.trunc) writer ++
        Numeral.pointChars fraction := by
  rw [magnitudeChars, hdigits]
  cases carry with
  | true => simp [hcarry rfl, Numeral.pointChars]
  | false =>
      by_cases hnil : fraction = []
      · simp [hnil, Numeral.pointChars]
      · simp [hnil, Numeral.pointChars]

/-- The whole part of a number, with a carry from its fraction, is a whole double: where there is a
fraction the whole part is small. -/
theorem exists_integral {m : Magnitude} {carry : Bool}
    (hcarry : carry = true → m.units % Magnitude.one ≠ 0) :
    ∃ n, Exact n ∧ (if carry then (Double.finite false m).trunc.add .one
        else (Double.finite false m).trunc) = .ofNat n ∧
      (n = 0 ↔ (Double.finite false m).trunc = .zero ∧ carry = false) := by
  have hn : Exact (m.units / Magnitude.one) := .of_magnitude m
  have hwhole : (Double.finite false m).trunc = .ofNat (m.units / Magnitude.one) := rfl
  have hzero : Double.ofNat (m.units / Magnitude.one) = .zero ↔ m.units / Magnitude.one = 0 := by
    rw [← ofNat_zero]
    refine ⟨fun h => ?_, fun h => congrArg Double.ofNat h⟩
    have hsame := congrArg wholeUnits h
    rwa [hn.wholeUnits_eq, (Exact.of_lt (Nat.two_pow_pos 53)).wholeUnits_eq] at hsame
  rw [hwhole, hzero]
  cases carry with
  | false => exact ⟨_, hn, if_neg Bool.false_ne_true, by simp⟩
  | true =>
      have hbelow : m.units / Magnitude.one + 1 ≤ 2 ^ (53 : Nat) :=
        Magnitude.div_one_lt m.onGrid (hcarry rfl)
      have hnext : Exact (m.units / Magnitude.one + 1) := by
        rcases Nat.lt_or_eq_of_le hbelow with hlt | heq
        · exact .of_lt hlt
        · rw [heq]
          exact .exactLimit
      refine ⟨_, hnext, ?_, by simp⟩
      rw [if_pos rfl]
      exact hn.add (.of_lt (by decide))

end Radix

namespace Double

open Numeral Radix

/-- A number and its negative in a base, as the digit loops leave them. -/
structure WrittenInBase (printer : DecimalPrinter) (writer : IntegerWriter) (x : Double)
    (base : Nat) (carry : Bool) (whole fraction : List Nat) : Prop where
  fractionEnds : FractionEnds base x.abs carry fraction
  wholeEnds : WholeEnds base (if carry then x.abs.trunc.add .one else x.abs.trunc) whole
  canonical : Canonical base whole fraction
  /-- There is a zero in front exactly when nothing else is. -/
  whole_eq_zero : whole = [0] ↔ x.abs.trunc = .zero ∧ carry = false
  fraction_of_carry : carry = true → fraction = []
  text_eq : (x.textInBase base printer writer).toList =
    signed (x.less .zero) (whole.map digitChar ++ pointChars fraction)
  neg_text_eq : (x.neg.textInBase base printer writer).toList =
    signed (!x.less .zero) (whole.map digitChar ++ pointChars fraction)

/-- In every base but ten the text of a double that is finite and not zero is a numeral, with a minus
sign exactly below zero: both digit loops come to an end, all digits that they take off are below the
base, and there is no zero too many. The text of the negative differs in the sign only. -/
theorem textInBase_numeral (printer : DecimalPrinter) {writer : IntegerWriter}
    (hwriter : writer.Documented) {x : Double} {base : Nat} (hfinite : x.isFinite = true)
    (hzero : x.isZero = false) (hbase : 2 ≤ base) (hle : base ≤ 36) (hten : base ≠ 10) :
    ∃ carry whole fraction, WrittenInBase printer writer x base carry whole fraction := by
  obtain ⟨negative, m, rfl⟩ := exists_of_isFinite hfinite
  have hunits : m.units ≠ 0 := fun h => by simp [isZero, h] at hzero
  have hsmall : base < 2 ^ (53 : Nat) := Nat.lt_of_le_of_lt hle (by decide)
  obtain ⟨carry, fraction, hfraction, hdigits, hlt, hlast, hcarry⟩ :=
    exists_fractionEnds hbase hsmall m
  obtain ⟨n, hn, hintegral, hnzero⟩ := exists_integral fun h => (hcarry h).2
  obtain ⟨hwholeEnds, hnonempty, hwholeLt, hleading, hzeroDigit⟩ :=
    wholeEnds_integerDigits hn hbase hsmall
  have hchars := @magnitudeChars_eq base writer _ _ _ hdigits fun h => (hcarry h).1
  rw [hintegral, integerChars_ofNat hwriter hbase hle hn] at hchars
  have htext : ∀ sign, ((Double.finite sign m).textInBase base printer writer).toList =
      signed sign ((integerDigits base (.ofNat n)).map digitChar ++ pointChars fraction) := by
    intro sign
    rw [textInBase, if_neg hten, if_neg hunits, String.toList_ofList, hchars]
  refine ⟨carry, integerDigits base (.ofNat n), fraction, hfraction, ?_, ⟨hnonempty, hwholeLt, hlt,
    fun hhead => hzeroDigit (hleading hhead), hlast⟩, ?_, fun h => (hcarry h).1, ?_, ?_⟩
  · rw [abs, hintegral]
    exact hwholeEnds
  · rw [abs, ← hnzero]
    refine ⟨fun h => hleading ?_, hzeroDigit⟩
    rw [h, List.head?_cons]
  · rw [htext, less_zero, bne_iff_ne.2 hunits, Bool.and_true]
  · rw [neg, htext, less_zero, bne_iff_ne.2 hunits, Bool.and_true]

/-- The least positive double, with a subnormal margin, has a numeral in base three. -/
theorem textInBase_numeral_leastPositive :
    IntegerWriter.standard.Documented ∧ leastPositive.isFinite = true ∧
      leastPositive.isZero = false ∧ ∃ carry whole fraction,
        WrittenInBase .standard .standard leastPositive 3 carry whole fraction := by
  have hfinite : leastPositive.isFinite = true := by decide +kernel
  have hzero : leastPositive.isZero = false := by decide +kernel
  have hwriter := IntegerWriter.standard_documented
  exact ⟨hwriter, hfinite, hzero,
    textInBase_numeral .standard hwriter hfinite hzero (by decide) (by decide) (by decide)⟩

end Double

end ScriptValues
