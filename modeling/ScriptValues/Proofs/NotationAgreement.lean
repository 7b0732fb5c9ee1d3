import ScriptValues.Proofs.PrecisionText
import ScriptValues.Proofs.WholeDigits

/-!
The two notations with significant digits agree. From one on a double shows the same digits with a
number of significant digits and in exponential notation with one place less, and both texts are
numerals of the same number. Where exponential notation is chosen they are the same text.
-/

namespace ScriptValues

namespace Decimal

open DecimalLiteral

variable {count n : Nat} {e : Int} {v : ℚ}

/-- Rounding does not take a number below one. -/
theorem IsRounding.exponent_nonneg (h : IsRounding count v n e) (hcount : 0 < count) (hv : 1 ≤ v) :
    0 ≤ e := by
  have hone : HasDigits count (10 ^ (count - 1)) :=
    ⟨Nat.le_refl _, Nat.pow_lt_pow_right (by decide) (by omega)⟩
  have hscaled : scaled count (10 ^ (count - 1)) 0 = 1 := by
    rw [scaled, cast_pow_mul_zpow (by omega : ((count - 1 : Nat) : Int) + (0 - count + 1) = 0),
      zpow_zero]
  have hnear := h.nearest _ 0 hone
  rw [hscaled, abs_of_nonpos (by linarith : (1 : ℚ) - v ≤ 0)] at hnear
  have hleast : 1 ≤ scaled count n e := by
    have := neg_le_abs (scaled count n e - v)
    linarith
  have hmost := hleast.trans_lt (scaled_bounds hcount h.hasDigits e).2
  rw [← zpow_zero (10 : ℚ)] at hmost
  have := (zpow_lt_zpow_iff_right₀ (by norm_num)).1 hmost
  omega

/-- Digits that reach to the point are a numeral of their value in their places. -/
theorem readsAs_positionalChars {d : Decimal} (hd : d.WellFormed) (hleast : 0 ≤ d.exponent)
    (hmost : d.exponent < d.digits.length) (negative : Bool) :
    ReadsAs (Double.signed negative d.positionalChars) negative d.digits d.number := by
  have hread := readsAs_withPoint hd.nonempty hd.lt_ten (Nat.succ_pos d.exponent.toNat)
    (.inl ⟨rfl, rfl⟩) negative
  have hfill : d.exponent.toNat + 1 - d.digits.length = 0 := by omega
  rw [positionalChars, if_pos hleast]
  dsimp only
  rw [hfill, List.replicate_zero, List.append_nil, number, place,
    show d.exponent + 1 - d.digits.length = 0 - (d.digits.length - d.exponent.toNat.succ : Nat) by
      omega]
  rw [List.append_nil] at hread
  exact hread

/-- Digits with a point have no exponent. -/
theorem not_mem_withPoint {ds : List Nat} (hds : ∀ d ∈ ds, d < 10) (whole : Nat) :
    'e' ∉ withPoint ds whole := by
  have hdigits : ∀ es : List Nat, (∀ d ∈ es, d < 10) → 'e' ∉ digitChars es := by
    intro es hes hmem
    obtain ⟨d, hd, hchar⟩ := List.mem_map.1 hmem
    have hdigit := Numeral.isDigit_digitChar (by decide : 10 ≤ 36) (hes d hd)
    rw [hchar] at hdigit
    exact absurd hdigit (by decide)
  intro hmem
  unfold withPoint at hmem
  split at hmem
  · exact hdigits ds hds hmem
  · rcases List.mem_append.1 hmem with hfront | hback
    · exact hdigits _ (fun d hd => hds d (List.mem_of_mem_take hd)) hfront
    · rcases List.mem_cons.1 hback with hpoint | hback
      · exact absurd hpoint (by decide)
      · exact hdigits _ (fun d hd => hds d (List.mem_of_mem_drop hd)) hback

theorem mem_exponentialChars (d : Decimal) : 'e' ∈ d.exponentialChars := by
  simp [exponentialChars]

theorem not_mem_positionalChars {d : Decimal} (hd : d.WellFormed) : 'e' ∉ d.positionalChars := by
  have hzeros := fun zeros => Numeral.zeros_lt (by decide : 2 ≤ 10) zeros
  unfold positionalChars
  split
  · exact not_mem_withPoint (List.forall_mem_append.2 ⟨hd.lt_ten, hzeros _⟩) _
  · exact not_mem_withPoint (List.forall_mem_append.2 ⟨hzeros _, hd.lt_ten⟩) _

/-- The text with significant digits of a number from one on is a numeral with these digits. -/
theorem readsAs_precisionText (hcount : 0 < count) (hn : n < 10 ^ count) (he : 0 ≤ e)
    (negative : Bool) :
    ReadsAs (Double.signed negative (precisionText count n e)) negative
      (Numeral.padded count (Numeral.digits 10 n)) (scaled count n e) := by
  have hformed := wellFormed_padded hcount hn e
  have hlen := length_padded_digits hn
  rw [precisionText_eq hcount hn e, ← number_padded hn e]
  split
  · exact readsAs_exponentialChars hformed negative
  · next hplain =>
    have hmost : e < (Numeral.padded count (Numeral.digits 10 n)).length := by omega
    exact readsAs_positionalChars hformed he hmost negative

/-- It has an exponent when its digits do not reach to the point. -/
theorem mem_precisionText_iff (hcount : 0 < count) (hn : n < 10 ^ count) (he : 0 ≤ e) :
    'e' ∈ precisionText count n e ↔ count ≤ e := by
  rw [precisionText_eq hcount hn e]
  split
  · next hchosen => exact iff_of_true (mem_exponentialChars _) (by omega)
  · next hplain =>
    exact iff_of_false (not_mem_positionalChars (wellFormed_padded hcount hn e)) (by omega)

end Decimal

namespace Double

open Decimal DecimalLiteral
open Magnitude (value_eq_zero_iff)

theorem mem_signed_iff (negative : Bool) (cs : List Char) :
    'e' ∈ signed negative cs ↔ 'e' ∈ cs := by
  cases negative with
  | true => simp [signed]
  | false => rfl

/-- Far enough from zero both notations have the digits and the exponent of one rounding. -/
theorem exists_rounding {m : Magnitude} (hlarge : 10 ^ (-41 : Int) ≤ m.value) {count : Nat}
    (hcount : 0 < count) (hmost : count ≤ 21) :
    ∃ n e, IsRounding count m.value n e ∧
      significant count m = ⟨Numeral.padded count (Numeral.digits 10 n), e⟩ ∧
      (roundDecimal count (exactDecimal m)).exponentialChars = exponentialText count n e := by
  have hpos : m.value ≠ 0 := ((ten_zpow_pos _).trans_le hlarge).ne'
  obtain ⟨n, e, hwritten, hchars⟩ := roundDecimal_exactDecimal m hcount
  obtain ⟨shown, exponent, -, hshown, hdecimal⟩ := exists_significant m hcount
  have hn : IsWritten count m.value n e := (hwritten n e).2 ⟨rfl, rfl⟩
  obtain ⟨rfl, rfl⟩ := (hshown n e).1 (isShown_of_isWritten (.inr hlarge) hcount hmost hn)
  rw [IsWritten, if_neg hpos] at hn
  exact ⟨n, e, hn, hdecimal, hchars⟩

/-- With one place less than significant digits, exponential notation has as many digits. -/
theorem toExponential_pred (negative : Bool) (m : Magnitude) {precision : Int}
    (hleast : 1 ≤ precision) (hmost : precision ≤ 21) :
    (Double.finite negative m).toExponential (some (precision - 1)) =
      String.ofList (signed ((Double.finite negative m).less .zero)
        (roundDecimal precision.toNat (exactDecimal m)).exponentialChars) := by
  have hplaces : (if 0 ≤ precision - 1 ∧ precision - 1 ≤ 20 then (precision - 1).toNat
      else 20) + 1 = precision.toNat := by
    rw [if_pos (by omega)]
    omega
  rw [less_zero, ← hplaces]
  rfl

/-- From one on, the text with `precision` significant digits and the exponential text with one
place less are numerals of the same number, with the same sign and the same significant digits, as
many as were asked for. The first of them has an exponent exactly from `10 ^ precision` on, and then
it is the second one. -/
theorem toPrecision_agrees (negative : Bool) {m : Magnitude} (hlarge : 1 ≤ m.value)
    {precision : Int} (hleast : 1 ≤ precision) (hmost : precision ≤ 21) :
    let x := Double.finite negative m
    let fixed := x.toPrecision (some precision)
    let exponential := x.toExponential (some (precision - 1))
    ∃ ds v, ReadsAs fixed.toList negative ds v ∧ ReadsAs exponential.toList negative ds v ∧
      ds.length = precision.toNat ∧ HasDigits precision.toNat (Numeral.value 10 ds) ∧
      ('e' ∈ fixed.toList ↔ 10 ^ precision ≤ v) ∧ ('e' ∈ fixed.toList → fixed = exponential) := by
  intro x fixed exponential
  have hcount : 0 < precision.toNat := by omega
  have hcast : (precision.toNat : Int) = precision := by omega
  have hpos : m.value ≠ 0 := (zero_lt_one.trans_le hlarge).ne'
  have hvisible : (10 : ℚ) ^ (-41 : Int) ≤ m.value := by
    apply le_trans _ hlarge
    norm_num
  obtain ⟨n, e, hn, hdecimal, hchars⟩ := exists_rounding hvisible hcount (by omega)
  have hbound := hn.hasDigits.2
  have he := hn.exponent_nonneg hcount hlarge
  have hsign : x.less .zero = negative := by
    rw [less_zero, bne_iff_ne.2 (mt value_eq_zero_iff.2 hpos), Bool.and_true]
  have hfixed : fixed = String.ofList (signed negative (precisionText precision.toNat n e)) := by
    have hshows := showsAs_of_significant negative hleast hmost hbound hdecimal
    rw [ShowsAs, hsign] at hshows
    exact hshows
  have hexponential :
      exponential = String.ofList (signed negative (exponentialText precision.toNat n e)) := by
    rw [← hchars, ← hsign]
    exact toExponential_pred negative m hleast hmost
  have hmem : 'e' ∈ fixed.toList ↔ precision ≤ e := by
    rw [hfixed, String.toList_ofList, mem_signed_iff, mem_precisionText_iff hcount hbound he, hcast]
  refine ⟨_, scaled precision.toNat n e, ?_, ?_, length_padded_digits hbound, ?_, ?_,
    fun hchosen => ?_⟩
  · rw [hfixed, String.toList_ofList]
    exact readsAs_precisionText hcount hbound he negative
  · rw [hexponential, String.toList_ofList, ← exponentialChars_eq hbound, ← number_padded hbound e]
    exact readsAs_exponentialChars (wellFormed_padded hcount hbound e) negative
  · rw [Numeral.value_padded, Numeral.value_digits (by decide)]
    exact hn.hasDigits
  · rw [hmem]
    obtain ⟨hlow, hhigh⟩ := scaled_bounds hcount hn.hasDigits e
    constructor
    · intro hle
      exact (zpow_le_zpow_right₀ (by norm_num) hle).trans hlow
    · intro hle
      have hlt := (zpow_lt_zpow_iff_right₀ (by norm_num)).1 (hle.trans_lt hhigh)
      omega
  · have hlong := hmem.1 hchosen
    rw [hfixed, hexponential, precisionText, if_pos (.inr (by omega))]

/-- Rounding 9999 to two digits carries into a fifth place, which two digits do not reach. -/
theorem toPrecision_agrees_carry :
    let m := (Exact.of_lt (by decide : 9999 < 2 ^ (53 : Nat))).magnitude
    1 ≤ m.value ∧ 1 ≤ (2 : Int) ∧ (2 : Int) ≤ 21 ∧
      (Double.finite true m).toPrecision (some 2) = "-1.0e+4" ∧
      (Double.finite true m).toExponential (some 1) = "-1.0e+4" := by
  intro m
  have hlarge : 1 ≤ m.value := by
    rw [Exact.value_magnitude]
    norm_num
  have hfixed : (Double.finite true m).toPrecision (some 2) = "-1.0e+4" := by decide +kernel
  have hchosen : 'e' ∈ ((Double.finite true m).toPrecision (some 2)).toList := by
    rw [hfixed]
    decide
  obtain ⟨ds, v, -, -, -, -, -, hsame⟩ :=
    toPrecision_agrees true hlarge (by decide : 1 ≤ (2 : Int)) (by decide)
  exact ⟨hlarge, by decide, by decide, hfixed, (hsame hchosen).symm.trans hfixed⟩

end Double

end ScriptValues
