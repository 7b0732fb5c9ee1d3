import ScriptValues.Proofs.IntegerText
import ScriptValues.Proofs.IntegerWriter
import ScriptValues.Proofs.WholeDigits

/-!
Whole numbers written in a base are read back from it. The writer puts down the digits of the exact
value, whichever of its loops it takes, and the reader gives the double that the digits stand for.
Below 2^53 every base keeps the value; above that a base that is a power of two does.
-/

namespace ScriptValues

namespace NumericText

open Numeral

/-- A signed numeral is read to its end, in the base it is written in. -/
theorem integerStart_digitChars {base : Nat} (hbase : 2 ≤ base) (hle : base ≤ 36) {ds : List Nat}
    (hnil : ds ≠ []) (hds : ∀ d ∈ ds, d < base) (negative : Bool) :
    integerStart (Double.signed negative (ds.map digitChar)) base =
      if negative then (integerValue base ds).neg else integerValue base ds := by
  have hparts := leadingInteger_signed hbase hle (spelled_digitChars hle hds) negative
  rw [hparts.integerStart_eq, if_neg hnil]

/-- Digits that stand for a double have its value, put together at once or one by one. -/
theorem integerValue_eq {base : Nat} {ds : List Nat} (hds : ∀ d ∈ ds, d < base)
    (hvalue : Double.Exact (Numeral.value base ds))
    (hexact : Numeral.value base ds < 2 ^ (53 : Nat) ∨ ∃ bits < 53, base = 2 ^ bits) :
    integerValue base ds = .ofNat (Numeral.value base ds) := by
  unfold integerValue
  split
  · rfl
  · next hlarge =>
    rcases hexact with hsmall | ⟨bits, hbits, rfl⟩
    · exact absurd (Nat.lt_trans hsmall (by decide)) hlarge
    · exact foldDigits_eq hbits hds hvalue

end NumericText

namespace Radix

open Double Numeral

variable {n : Nat} {writer : IntegerWriter}

/-- A margin is positive, so without a fraction there are no fraction digits. -/
theorem zero_less_margin (x : Double) : Double.zero.less (margin x) = true := by
  have hzero : Double.zero.place? = some 0 := rfl
  have hleast : leastPositive.place? = some 1 := by decide +kernel
  have hpositive : Double.zero.less leastPositive = true := by
    rw [less, order?, hzero, hleast]
    rfl
  unfold margin
  generalize half.mul (x.next.sub x) = distance
  unfold Double.max
  split
  · exact hpositive
  · split
    · exact hpositive
    · next hnumber hsmall =>
      cases hplace : distance.place? with
      | none => exact absurd ((place?_eq_none_iff distance).1 hplace) hnumber
      | some place =>
          simp only [less, order?, hplace, hleast, hzero, beq_iff_eq, Option.some.injEq,
            compare_lt_iff_lt] at hsmall ⊢
          omega

theorem integerDigits_ofNat {base : Nat} (hn : Exact n)
    (hexact : n < 2 ^ (53 : Nat) ∨ ∃ bits < 53, base = 2 ^ bits) (hbase : 2 ≤ base) :
    integerDigits base (.ofNat n) = shownDigits base n := by
  unfold integerDigits
  rw [hn.wholeUnits_eq]
  split
  · rfl
  · next hlarge =>
    rw [exactLimit, hn.less_iff .exactLimit] at hlarge
    obtain ⟨bits, hbits, rfl⟩ := hexact.resolve_left hlarge
    have hpos : 0 < bits := by
      apply Nat.pos_of_ne_zero
      rintro rfl
      omega
    rw [largeDigits_eq hpos hbits _ _ _ hn hn.lt_maxSteps, List.append_nil, shownDigits,
      if_neg (by omega)]

/-- A double without a fraction has no fraction digits. -/
theorem fractionDigits?_of_trunc_eq (base : Nat) {x : Double} (hwhole : x.trunc = x)
    (hfraction : x.sub x = .zero) : fractionDigits? base x = some [] := by
  simp only [fractionDigits?, hwhole, hfraction, zero_less_margin, if_true]

theorem magnitudeChars_of_trunc_eq (base : Nat) {x : Double} (hwhole : x.trunc = x)
    (hfraction : x.sub x = .zero) : magnitudeChars base x writer = integerChars base x writer := by
  rw [magnitudeChars, fractionDigits?_of_trunc_eq base hwhole hfraction]
  simp only [hwhole, if_true]

theorem magnitudeChars_ofNat (hwriter : writer.Documented) {base : Nat} (hn : Exact n)
    (hexact : n < 2 ^ (53 : Nat) ∨ ∃ bits < 53, base = 2 ^ bits) (hbase : 2 ≤ base)
    (hle : base ≤ 36) :
    magnitudeChars base (.ofNat n) writer = (shownDigits base n).map digitChar := by
  have hfraction : (Double.ofNat n).sub (.ofNat n) = .zero := by
    rw [hn.sub hn (Nat.le_refl n), Nat.sub_self, ofNat_zero]
  rw [magnitudeChars_of_trunc_eq base hn.trunc hfraction, integerChars_ofNat hwriter hbase hle hn,
    integerDigits_ofNat hn hexact hbase]

end Radix

namespace Double

open Numeral

variable {n : Nat} {printer : DecimalPrinter} {writer : IntegerWriter}

/-- The text of a whole number in a base is its numeral there, with a minus sign below zero. -/
theorem textInBase_whole (hwriter : writer.Documented) {base : Nat}
    (hprinter : base = 10 → printer.Documented) (hbase : 2 ≤ base) (hle : base ≤ 36) (hn : Exact n)
    (hexact : n < 2 ^ (53 : Nat) ∨ ∃ bits < 53, base = 2 ^ bits) (negative : Bool) :
    ∃ cs, Writes base n cs ∧
      (textInBase (.finite negative hn.magnitude) base printer writer).toList =
        signed (negative && hn.magnitude.units != 0) cs := by
  by_cases hten : base = 10
  · subst hten
    have hlt : n < 2 ^ (53 : Nat) := by
      rcases hexact with hlt | ⟨bits, -, hpow⟩
      · exact hlt
      · rcases Nat.lt_or_ge bits 4 with hfew | hmany
        · have := Nat.pow_le_pow_right (show 0 < 2 by decide) (Nat.le_of_lt_succ hfew)
          omega
        · have := Nat.pow_le_pow_right (show 0 < 2 by decide) hmany
          omega
    obtain ⟨written, -, -, hwritten, hplain⟩ :=
      exists_plain (hprinter rfl) hn (Nat.lt_trans hlt (by decide)) negative
    refine ⟨_, writes_shownDigits hbase n, ?_⟩
    rw [textInBase, if_pos rfl, text, String.toList_ofList, hplain, hwritten hlt.le, natChars_eq]
  · refine ⟨_, writes_shownDigits hbase n, ?_⟩
    rw [textInBase, if_neg hten]
    by_cases hzero : hn.magnitude.units = 0
    · have hn0 : n = 0 := by
        by_contra hne
        have := hn.units_pos (Nat.pos_of_ne_zero hne)
        omega
      rw [if_pos hzero, hzero, hn0, bne_self_eq_false, Bool.and_false]
      exact String.toList_ofList
    · rw [if_neg hzero, String.toList_ofList, ← hn.ofNat_eq,
        Radix.magnitudeChars_ofNat hwriter hn hexact hbase hle, bne_iff_ne.2 hzero, Bool.and_true]

end Double

namespace Value

/-- A whole double is read back from its text in a base, in the same base, when it is below 2^53 or
the base is a power of two; only a negative zero loses its sign. -/
theorem parseInt_toRadix {printer : DecimalPrinter} {writer : IntegerWriter}
    (hprinter : printer.Documented) (hwriter : writer.Documented) {x : Double} {radix : Int}
    (hfinite : x.isFinite = true)
    (hwhole : x.trunc = x) (hradix : 2 ≤ radix ∧ radix ≤ 36)
    (hexact : x.abs.less (.ofNat (2 ^ (53 : Nat))) = true ∨ radix ∈ [2, 4, 8, 16, 32]) :
    (Value.string (x.toRadix (some radix) printer writer)).parseInt (.ofInt radix) =
      x.unsignedZero := by
  obtain ⟨negative, n, hn, rfl⟩ := Double.exists_exact_of_trunc_eq hfinite hwhole
  obtain ⟨base, rfl⟩ : ∃ base : Nat, radix = base := ⟨radix.toNat, by omega⟩
  have hbase : 2 ≤ base := by omega
  have hle : base ≤ 36 := by omega
  have hcase : n < 2 ^ (53 : Nat) ∨ ∃ bits < 53, base = 2 ^ bits := by
    rcases hexact with hsmall | hpower
    · left
      rw [Double.abs, ← hn.ofNat_eq] at hsmall
      exact (hn.less_iff .exactLimit).1 hsmall
    · right
      simp only [List.mem_cons, List.not_mem_nil, or_false] at hpower
      rcases hpower with h | h | h | h | h
      · exact ⟨1, by decide, by omega⟩
      · exact ⟨2, by decide, by omega⟩
      · exact ⟨3, by decide, by omega⟩
      · exact ⟨4, by decide, by omega⟩
      · exact ⟨5, by decide, by omega⟩
  obtain ⟨cs, ⟨ds, hnil, hds, rfl, rfl⟩, htext⟩ :=
    Double.textInBase_whole hwriter (fun _ => hprinter) hbase hle hn hcase negative
  have hread := NumericText.integerStart_digitChars hbase hle hnil hds
    (negative && hn.magnitude.units != 0)
  rw [NumericText.integerValue_eq hds hn hcase, hn.ofNat_eq] at hread
  have hargument : (Value.ofInt base).toInt32 = base :=
    Double.toInt32_ofInt (Nat.lt_of_le_of_lt hle (by decide))
  calc
    (Value.string (Double.toRadix (.finite negative hn.magnitude) (some base) printer
        writer)).parseInt (.ofInt base)
      = NumericText.integerStart (Double.textInBase (.finite negative hn.magnitude) base printer
          writer).toList base := by
        rw [Double.toRadix, if_pos hradix, Int.toNat_natCast]
        conv_rhs => rw [← hargument]
        rfl
    _ = .finite (negative && hn.magnitude.units != 0) hn.magnitude := by
        rw [htext, hread]
        split
        · next hnegative => rw [hnegative, Double.neg, Bool.not_false]
        · next hpositive => rw [Bool.eq_false_iff.2 hpositive]
    _ = Double.unsignedZero (.finite negative hn.magnitude) :=
        (Double.unsignedZero_finite negative hn.magnitude).symm

/-- The double of the greatest magnitude below zero, far above 2^53, is read back in base 32. -/
theorem parseInt_toRadix_least :
    let x : Double :=
      .finite true (.ofSignificand (2 ^ (53 : Nat) - 1) 2045 (by decide) (by decide))
    DecimalPrinter.standard.Documented ∧ IntegerWriter.standard.Documented ∧
      x.isFinite = true ∧ x.trunc = x ∧
      (Value.string (x.toRadix (some 32))).parseInt (.ofInt 32) = x := by
  intro x
  have hwhole : x.trunc = x := by decide +kernel
  have hsign : x.unsignedZero = x := by decide +kernel
  have hprinter := DecimalPrinter.standard_documented
  have hwriter := IntegerWriter.standard_documented
  have hread := @parseInt_toRadix _ _ hprinter hwriter x 32 rfl hwhole (by decide)
    (Or.inr (by decide))
  exact ⟨hprinter, hwriter, rfl, hwhole, hread.trans hsign⟩

end Value

end ScriptValues
