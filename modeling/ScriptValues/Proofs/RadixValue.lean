import Mathlib.Algebra.Order.Field.Basic
import Mathlib.Algebra.Order.Field.Rat
import Mathlib.Data.Nat.Prime.Basic
import ScriptValues.Proofs.FractionMargin

/-!
What the text of a double in a base stands for: an exact rational number, with a sign and digits
before and after the point. In a base that is a power of two it is the double itself, for every
finite double.
-/

namespace ScriptValues

namespace Numeral

variable {base : Nat}

/-- Fraction digits with the point in front of them; nothing when there are none. -/
def pointChars (ds : List Nat) : List Char := if ds = [] then [] else '.' :: ds.map digitChar

/-- The value of a point and digits to the end of a text, or of no text at all. -/
def exactFraction? (base : Nat) : List Char → Option ℚ
  | [] => some 0
  | '.' :: cs =>
    match span base cs with
    | ([], _) => none
    | (ds, []) => some (fractionValue base ds)
    | _ => none
  | _ => none

/-- A number with a minus sign in front when `negative`. -/
def withSign (negative : Bool) (q : ℚ) : ℚ := if negative then -q else q

/-- Numbers with the same sign and the same whole part are as far apart as their fractions. -/
theorem abs_withSign_sub (negative : Bool) (whole p q : ℚ) :
    |withSign negative (whole + p) - withSign negative (whole + q)| = |p - q| := by
  cases negative with
  | true => rw [withSign, withSign, if_pos rfl, if_pos rfl, neg_sub_neg, add_sub_add_left_eq_sub,
      abs_sub_comm]
  | false => rw [withSign, withSign, if_neg Bool.false_ne_true, if_neg Bool.false_ne_true,
      add_sub_add_left_eq_sub]

/-- The number that a text stands for as a numeral: an optional sign, digits, and an optional point
with digits after it. -/
def exactValue? (base : Nat) (cs : List Char) : Option ℚ :=
  let (negative, afterSign) := DecimalLiteral.scanSign cs
  match span base afterSign with
  | ([], _) => none
  | (whole, rest) =>
    (exactFraction? base rest).map fun fraction =>
      withSign negative (value base whole + fraction)

theorem exactFraction?_pointChars (hbase : base ≤ 36) {ds : List Nat} (hds : ∀ d ∈ ds, d < base) :
    exactFraction? base (pointChars ds) = some (fractionValue base ds) := by
  have hspan : span base (ds.map digitChar) = (ds, []) := by
    simpa using span_digitChars hbase hds (stopsDigits_nil base)
  cases ds with
  | nil => simp [pointChars, exactFraction?]
  | cons d ds => rw [pointChars, if_neg (List.cons_ne_nil d ds), exactFraction?, hspan]

private theorem stopsDigits_pointChars (ds : List Nat) : StopsDigits base (pointChars ds) := by
  unfold pointChars
  split
  · exact stopsDigits_nil base
  · exact stopsDigits_cons (by simp [isDigit, digitValue?]) _

/-- A numeral stands for the value of its digits before and after the point, with its sign. -/
theorem exactValue?_signed (hbase : base ≤ 36) {ds es : List Nat} (hnil : ds ≠ [])
    (hds : ∀ d ∈ ds, d < base) (hes : ∀ d ∈ es, d < base) (negative : Bool) :
    exactValue? base (Double.signed negative (ds.map digitChar ++ pointChars es)) =
      some (withSign negative (value base ds + fractionValue base es)) := by
  have hspan := span_digitChars hbase hds (stopsDigits_pointChars es)
  have hfraction := exactFraction?_pointChars hbase hes
  cases ds with
  | nil => exact absurd rfl hnil
  | cons d ds =>
      have hfirst : isDigit base (digitChar d) = true := isDigit_digitChar hbase (hds d (by simp))
      have hsign : DecimalLiteral.scanSign
          (Double.signed negative ((d :: ds).map digitChar ++ pointChars es)) =
            (negative, (d :: ds).map digitChar ++ pointChars es) :=
        Decimal.scanSign_signed hfirst negative _
      rw [exactValue?, hsign]
      dsimp only
      rw [hspan]
      dsimp only
      rw [hfraction]
      rfl

end Numeral

namespace Double

open Numeral Radix

variable {base : Nat} (printer : DecimalPrinter) {writer : IntegerWriter}

/-- The number a finite double is. -/
def exactValue? : Double → Option ℚ
  | .finite negative m => some ((signedUnits negative m : ℚ) / Magnitude.one)
  | _ => none

theorem exists_of_exactValue? {x : Double} {value : ℚ} (h : x.exactValue? = some value) :
    ∃ negative m, x = .finite negative m ∧
      value = (signedUnits negative m : ℚ) / Magnitude.one := by
  cases x with
  | nan => cases h
  | infinite negative => cases h
  | finite negative m => exact ⟨negative, m, rfl, (Option.some.inj h).symm⟩

theorem exactValue?_finite (negative : Bool) (m : Magnitude) :
    exactValue? (.finite negative m) =
      some (Numeral.withSign negative (m.units / Magnitude.one)) := by
  cases negative with
  | true =>
      rw [exactValue?, signedUnits, if_pos rfl, withSign, if_pos rfl, Int.cast_neg,
        Int.cast_natCast, neg_div]
  | false =>
      rw [exactValue?, signedUnits, if_neg Bool.false_ne_true, withSign,
        if_neg Bool.false_ne_true, Int.cast_natCast]

/-- The text of a whole number stands for it. -/
theorem exactValue?_textInBase_whole (hwriter : writer.Documented) {n : Nat} (hbase : 2 ≤ base)
    (hle : base ≤ 36) (hten : base ≠ 10) (hn : Exact n)
    (hexact : n < 2 ^ (53 : Nat) ∨ ∃ bits < 53, base = 2 ^ bits) (negative : Bool) :
    Numeral.exactValue? base
        (textInBase (.finite negative hn.magnitude) base printer writer).toList =
      exactValue? (.finite negative hn.magnitude) := by
  obtain ⟨cs, ⟨ds, hnil, hds, hvalue, rfl⟩, htext⟩ :=
    textInBase_whole hwriter (absurd · hten) hbase hle hn hexact negative
  have hread := exactValue?_signed hle hnil hds (List.forall_mem_nil _)
    (negative && hn.magnitude.units != 0)
  have hone : (Magnitude.one : ℚ) ≠ 0 := by exact_mod_cast Magnitude.one_pos.ne'
  rw [pointChars, if_pos rfl, List.append_nil, fractionValue_nil, add_zero,
    hvalue] at hread
  rw [htext, hread, exactValue?_finite, hn.magnitude_units]
  push_cast
  rw [mul_div_cancel_right₀ _ hone]
  cases negative with
  | false => rfl
  | true =>
      rcases Nat.eq_zero_or_pos n with rfl | hpos
      · simp [withSign]
      · have hunits : n * Magnitude.one ≠ 0 := (Nat.mul_pos hpos Magnitude.one_pos).ne'
        rw [Bool.true_and, bne_iff_ne.2 hunits]

/-- The text of a double with a fraction stands for its whole part and its fraction digits. -/
theorem exactValue?_textInBase_fraction (hwriter : writer.Documented) {m : Magnitude}
    (hbase : 2 ≤ base) (hle : base ≤ 36) (hten : base ≠ 10)
    (hfraction : m.units % Magnitude.one ≠ 0) {ds : List Nat}
    (h : fractionDigits? base (.finite false m) = some ds) (hds : ∀ d ∈ ds, d < base)
    (negative : Bool) :
    Numeral.exactValue? base (textInBase (.finite negative m) base printer writer).toList =
      some (withSign negative ((m.units / Magnitude.one : Nat) + fractionValue base ds.reverse)) := by
  have hzero : m.units ≠ 0 := by
    intro h
    rw [h] at hfraction
    exact hfraction (Nat.zero_mod _)
  have hn : Exact (m.units / Magnitude.one) := .of_magnitude m
  have hwhole : integerChars base (Double.finite false m).trunc writer =
      (shownDigits base (m.units / Magnitude.one)).map digitChar := by
    rw [show (Double.finite false m).trunc = .ofNat (m.units / Magnitude.one) from rfl,
      integerChars_ofNat hwriter hbase hle hn,
      integerDigits_ofNat hn (.inl (Magnitude.div_one_lt m.onGrid hfraction)) hbase]
  have hchars : magnitudeChars base (.finite false m) writer =
      (shownDigits base (m.units / Magnitude.one)).map digitChar ++ pointChars ds.reverse := by
    rw [magnitudeChars, h, hwhole, pointChars]
    by_cases hnil : ds = []
    · simp [hnil]
    · simp [hnil]
  have hfront : ∀ d ∈ shownDigits base (m.units / Magnitude.one), d < base :=
    fun _ hd => shownDigits_lt hbase hd
  have hback : ∀ d ∈ ds.reverse, d < base := fun d hd => hds d (List.mem_reverse.1 hd)
  have hread := exactValue?_signed hle (shownDigits_ne_nil hbase _) hfront hback negative
  rw [value_shownDigits hbase] at hread
  rw [textInBase, if_neg hten, if_neg hzero, String.toList_ofList, hchars, hread]

theorem exists_of_isFinite {x : Double} (h : x.isFinite = true) :
    ∃ negative m, x = .finite negative m := by
  cases x with
  | nan => cases h
  | infinite negative => cases h
  | finite negative m => exact ⟨negative, m, rfl⟩

/-- A finite double is a whole number or has a fraction. -/
theorem exists_exact_or_fraction (m : Magnitude) :
    (∃ n, ∃ hn : Exact n, m = hn.magnitude) ∨ m.units % Magnitude.one ≠ 0 := by
  by_cases hfraction : m.units % Magnitude.one = 0
  · left
    refine ⟨_, .of_magnitude m, Magnitude.ext ?_⟩
    exact (Nat.div_mul_cancel (Nat.dvd_of_mod_eq_zero hfraction)).symm
  · exact Or.inr hfraction

theorem fractionDigits?_whole {n : Nat} (hn : Exact n) :
    fractionDigits? base (.finite false hn.magnitude) = some [] := by
  rw [← hn.ofNat_eq]
  apply fractionDigits?_of_trunc_eq base hn.trunc
  rw [hn.sub hn (Nat.le_refl n), Nat.sub_self, ofNat_zero]

theorem exactValue?_split (negative : Bool) (m : Magnitude) :
    exactValue? (.finite negative m) =
      some (withSign negative
        ((m.units / Magnitude.one : Nat) + (m.units % Magnitude.one : Nat) / Magnitude.one)) := by
  have hone : (Magnitude.one : ℚ) ≠ 0 := by exact_mod_cast Magnitude.one_pos.ne'
  have hsplit : (m.units : ℚ) / Magnitude.one =
      (m.units / Magnitude.one : Nat) + (m.units % Magnitude.one : Nat) / Magnitude.one := by
    rw [div_eq_iff hone, add_mul, div_mul_cancel₀ _ hone]
    exact_mod_cast (Nat.div_add_mod' m.units Magnitude.one).symm
  rw [exactValue?_finite, hsplit]

theorem exactValue?_textInBase_two_pow (hwriter : writer.Documented) {x : Double}
    (hfinite : x.isFinite = true) {bits : Nat} (hbits : 0 < bits) (hfew : bits < 6) :
    Numeral.exactValue? (2 ^ bits) (x.textInBase (2 ^ bits) printer writer).toList =
        x.exactValue? ∧
      fractionDigits? (2 ^ bits) x.abs ≠ none := by
  have htwo : 2 ≤ 2 ^ bits := Nat.le_pow hbits
  have hle : 2 ^ bits ≤ 36 :=
    Nat.le_trans (Nat.pow_le_pow_right Nat.two_pos (Nat.le_of_lt_succ hfew)) (by decide)
  have hten : 2 ^ bits ≠ 10 := by
    intro hten
    have hdvd : 5 ∣ 2 ^ bits := hten ▸ (by decide)
    exact absurd (Nat.prime_five.dvd_of_dvd_pow hdvd) (by decide)
  have hsmall : bits < 53 := by omega
  obtain ⟨negative, m, rfl⟩ := exists_of_isFinite hfinite
  rcases exists_exact_or_fraction m with ⟨n, hn, rfl⟩ | hfraction
  · refine ⟨exactValue?_textInBase_whole printer hwriter htwo hle hten hn
      (.inr ⟨bits, hsmall, rfl⟩) negative, ?_⟩
    rw [abs, fractionDigits?_whole hn]
    exact Option.some_ne_none _
  · obtain ⟨ds, hdigits, hds, hvalue⟩ := exists_fractionDigits?_two_pow hbits hsmall hfraction
    constructor
    · rw [exactValue?_textInBase_fraction printer hwriter htwo hle hten hfraction hdigits hds,
        hvalue, exactValue?_split]
    · rw [abs, hdigits]
      exact Option.some_ne_none _

/-- In a base that is a power of two the text of every finite double stands for the double itself:
no digit is rounded, and none carries into the whole part. -/
theorem textInBase_exact (hwriter : writer.Documented) {x : Double} (hfinite : x.isFinite = true)
    (hbase : base ∈ [2, 4, 8, 16, 32]) :
    Numeral.exactValue? base (x.textInBase base printer writer).toList = x.exactValue? ∧
      fractionDigits? base x.abs ≠ none := by
  obtain ⟨bits, hbits, hfew, rfl⟩ := exists_two_pow_of_mem hbase
  exact exactValue?_textInBase_two_pow printer hwriter hfinite hbits hfew

/-- The least positive double has 215 digits after the point in base 32. -/
theorem textInBase_exact_leastPositive :
    IntegerWriter.standard.Documented ∧
    Numeral.exactValue? 32 (leastPositive.textInBase 32).toList = some (1 / Magnitude.one : ℚ) ∧
      fractionDigits? 32 leastPositive.abs ≠ none := by
  have hfinite : leastPositive.isFinite = true := by decide +kernel
  have hvalue : leastPositive.exactValue? = some (1 / Magnitude.one : ℚ) := by
    rw [show leastPositive = .finite false Stored.one.magnitude from Stored.one.ofUnits_eq, exactValue?_finite,
      withSign, if_neg Bool.false_ne_true]
    exact congrArg (fun units : ℚ => some (units / Magnitude.one)) Nat.cast_one
  have hwriter := IntegerWriter.standard_documented
  rw [← hvalue]
  exact ⟨hwriter, textInBase_exact .standard hwriter hfinite (by decide)⟩

end Double

end ScriptValues
