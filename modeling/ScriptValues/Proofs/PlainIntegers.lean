import ScriptValues.Globals
import ScriptValues.Proofs.NumberText
import ScriptValues.Proofs.RadixText

/-!
Integers read from numbers. A whole number below 10^21 is taken as its own integer, and every other
number goes through its text. The shorter way cannot be told from the longer one: the text of such a
number is a numeral, which past 2^53 need not be that of the number itself but rounds back to it, and
a zero is written without a sign. No number has a text that starts with a base marker, so it does not
matter whether base ten is requested.
-/

namespace ScriptValues

namespace NumericText

open Numeral

/-- Without a base marker after the sign, digits are decimal whether or not base ten is requested. -/
theorem integerStart_zero_eq_ten {text : List Char}
    (h : ∀ digits, ¬ HexMarked (DecimalLiteral.scanSign (Text.trimStart text)).2 digits) :
    integerStart text 0 = integerStart text 10 := by
  unfold integerStart
  generalize DecimalLiteral.scanSign (Text.trimStart text) = scanned at *
  obtain ⟨negative, unsigned⟩ := scanned
  have hten : chooseBase? 10 unsigned = some (10, unsigned) := rfl
  dsimp only at h ⊢
  rw [(LeadingBase.decimal rfl h).chooseBase?_eq, hten]

end NumericText

namespace Double

open NumericText Numeral

variable {printer : DecimalPrinter}

/-- No text of a number starts with a base marker. -/
theorem integerStart_plain_zero (hprinter : printer.Documented) (x : Double) :
    integerStart (printer.plain x) 0 = integerStart (printer.plain x) 10 := by
  cases x with
  | nan =>
      rw [hprinter.nan]
      decide +kernel
  | infinite negative =>
      rw [hprinter.infinite]
      cases negative <;> decide +kernel
  | finite negative m =>
      obtain ⟨d, hwell, -, hplain⟩ := hprinter.plain_finite negative m
      have hspells := Decimal.spells_plainChars hwell
      obtain ⟨c, rest, hcs, hc⟩ := hspells.starts
      apply integerStart_zero_eq_ten
      rw [hplain, Text.trimStart_eq_self fun c hc =>
        Decimal.not_trimmable_of_isLayoutChar (hspells.signed_isLayoutChar _ c hc), hcs,
        Decimal.scanSign_signed hc, ← hcs]
      have hchars := hspells.chars
      generalize d.plainChars = cs at hchars
      rintro digits (_ | _)
      · exact absurd (hchars 'x' (by simp)) (by decide)
      · exact absurd (hchars 'X' (by simp)) (by decide)

/-- A double that is equal to its whole part is its whole part. -/
theorem trunc_eq_of_equal {x : Double} (h : x.trunc.equal x = true) : x.trunc = x := by
  cases x with
  | nan => rfl
  | infinite negative => rfl
  | finite negative m =>
      have hwhole : (finite negative m).trunc =
          .finite negative (Exact.of_magnitude m).magnitude :=
        nearest_units negative (Exact.of_magnitude m).magnitude
      rw [hwhole] at h ⊢
      generalize (Exact.of_magnitude m).magnitude = whole at *
      have hunits : whole.units = m.units := by
        cases negative <;> simpa [equal, place?] using h
      rw [Magnitude.ext hunits]

/-- Adding zero only takes away the sign of a zero. -/
theorem add_zero_eq (negative : Bool) (m : Magnitude) :
    (finite negative m).add .zero = (finite negative m).unsignedZero := by
  have hunits : Magnitude.zero.units = 0 := by decide
  have htotal : signedUnits negative m + signedUnits false .zero = signedUnits negative m := by
    rw [signedUnits, signedUnits, hunits, if_neg Bool.false_ne_true, Int.natCast_zero, Int.add_zero]
  rw [unsignedZero_finite, zero, add, htotal]
  by_cases hzero : m.units = 0
  · have hm : m = .zero := Magnitude.ext hzero
    subst hm
    cases negative <;> rfl
  · have hsign : decide (signedUnits negative m < 0) = negative := by
      cases negative with
      | false => simp [signedUnits]
      | true =>
          simp [signedUnits]
          omega
    have hnatAbs : (signedUnits negative m).natAbs = m.units := by
      cases negative <;> simp [signedUnits]
    rw [if_neg (by omega), hsign, hnatAbs, nearest_units, bne_iff_ne.2 hzero, Bool.and_true]

/-- The integer at the start of the text of a whole number below 10^21 is the number. -/
theorem integerStart_plain (hprinter : printer.Documented) {n : Nat} (hn : Exact n)
    (hlt : n < 10 ^ (21 : Nat)) (negative : Bool) :
    integerStart (printer.plain (finite negative hn.magnitude)) 10 =
      (finite negative hn.magnitude).unsignedZero := by
  obtain ⟨written, hsmall, hvalue, -, hplain⟩ := exists_plain hprinter hn hlt negative
  have hread := integerStart_digitChars (by decide : 2 ≤ 10) (by decide)
    (shownDigits_ne_nil (by decide) written) (fun d hd => shownDigits_lt (by decide) hd)
    (negative && hn.magnitude.units != 0)
  have hshown : value 10 (shownDigits 10 written) = written := value_shownDigits (by decide) written
  have hbound : value 10 (shownDigits 10 written) < 2 ^ (127 : Nat) := by
    rw [hshown]
    exact Nat.lt_trans hsmall (by decide)
  rw [← natChars_eq, integerValue_of_lt hbound, hshown, hvalue, hn.ofNat_eq] at hread
  rw [hplain, unsignedZero_finite]
  refine hread.trans ?_
  split
  · next hnegative => rw [hnegative, neg, Bool.not_false]
  · next hpositive => rw [Bool.eq_false_iff.2 hpositive]

end Double

namespace Value

open NumericText

theorem toInt32_ten : (Value.ofInt 10).toInt32 = 10 := by
  have hten : ∀ base : Nat, base < 2 ^ (31 : Nat) → (Value.ofInt base).toInt32 = base :=
    fun base hbase => Double.toInt32_ofInt hbase
  exact hten 10 (by decide)

variable {printer : DecimalPrinter}

/-- A number that is its own integer has it at the start of its text as well. -/
theorem integerStart_of_isPlainInteger (hprinter : printer.Documented) {x : Double}
    (h : isPlainInteger x = true) : integerStart (printer.plain x) 10 = x.add .zero := by
  rw [isPlainInteger, Bool.and_eq_true, Bool.and_eq_true] at h
  obtain ⟨⟨hfinite, hwhole⟩, hsmall⟩ := h
  obtain ⟨negative, n, hn, rfl⟩ :=
    Double.exists_exact_of_trunc_eq hfinite (Double.trunc_eq_of_equal hwhole)
  rw [Double.abs, ← hn.ofNat_eq, hn.less_iff Double.exact_positional] at hsmall
  rw [Double.integerStart_plain hprinter hn hsmall, Double.add_zero_eq]

/-- A number has the same integer in base ten, without a requested base, and as the text of the
number, to the sign of a zero. -/
theorem parseInt_number (hprinter : printer.Documented) (x : Double) :
    let written := (Value.string ((Value.number x).text printer)).parseInt (.ofInt 10)
    (Value.number x).parseInt (.ofInt 10) printer = written ∧
      (Value.number x).parseInt .undefined printer = written := by
  intro written
  have htext := toList_text_number x printer
  have hread : ∀ radix : Value, (Value.string ((Value.number x).text printer)).parseInt radix =
      integerStart (printer.plain x) radix.toInt32 := fun radix => by
    rw [← htext]
    rfl
  have hwritten : written = integerStart (printer.plain x) 10 := by
    rw [← toInt32_ten]
    exact hread (.ofInt 10)
  have hundefined : (Value.number x).parseInt .undefined printer =
      integerStart (printer.plain x) 0 := by
    have hzero : Value.undefined.toInt32 = 0 := by decide
    rw [← htext]
    exact congrArg (integerStart ((Value.number x).text printer).toList) hzero
  refine ⟨?_, ?_⟩
  · have hten : (Double.ofInt 10).equal (.ofNat 10) = true := by decide +kernel
    have hfast : (Value.number x).parseInt (.ofInt 10) printer =
        if isPlainInteger x = true then x.add .zero
        else integerStart ((Value.number x).text printer).toList (Value.ofInt 10).toInt32 := by
      rw [ofInt, parseInt, hten, Bool.true_and]
    rw [hfast, hwritten, htext, toInt32_ten]
    split
    · next hplain => exact (integerStart_of_isPlainInteger hprinter hplain).symm
    · rfl
  · rw [hundefined, hwritten, Double.integerStart_plain_zero hprinter]

/-- Past 2^53 the digits that are read can be those of another number, which is rounded back. -/
theorem parseInt_number_past_exact :
    let x := Double.ofNat 9007199254740994048
    DecimalPrinter.standard.Documented ∧ (Value.number x).text = "9007199254740994000" ∧
      (Value.number x).parseInt .undefined =
        (Value.string "9007199254740994000").parseInt (.ofInt 10) := by
  intro x
  have hprinter := DecimalPrinter.standard_documented
  have htext : (Value.number x).text = "9007199254740994000" := by decide +kernel
  obtain ⟨-, hundefined⟩ := parseInt_number hprinter x
  rw [htext] at hundefined
  exact ⟨hprinter, htext, hundefined⟩

/-- From 10^21 on a number is written with an exponent, and its integer is the digit before it. -/
example : (Value.number (.ofNat (10 ^ (21 : Nat)))).parseInt (.ofInt 10) = .ofNat 1 := by
  decide +kernel

end Value

end ScriptValues
