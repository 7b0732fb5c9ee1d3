import ScriptValues.Decimal.Printer
import ScriptValues.Proofs.FewestDigits

/-!
What the library that prints doubles promises: words for what is not a number, one zero for both
zeros, and otherwise digits that are read as the double again, as few as possible and the nearest of
those, in the layout for plain texts. Which digits it takes when two are as near is left open, and so
is everything about texts with a number of places. The standard library keeps the promise.
-/

namespace ScriptValues

namespace DecimalPrinter

open Double (signed)

/-- What is documented of the library. -/
structure Documented (printer : DecimalPrinter) : Prop where
  nan : printer.plain .nan = "NaN".toList
  infinite (negative : Bool) :
    printer.plain (.infinite negative) = signed negative "Infinity".toList
  /-- Both zeros have the same text. -/
  zero (negative : Bool) : printer.plain (.finite negative .zero) = ['0']
  /-- The shortest digits of a number other than zero are laid out behind its sign. -/
  nonzero (negative : Bool) {m : Magnitude} (h : 0 < m.units) :
    ∃ d, m.IsShortest d ∧ printer.plain (.finite negative m) = signed negative d.plainChars

theorem standard_documented : standard.Documented where
  nan := rfl
  infinite _ := rfl
  zero negative := by
    have hzero : Magnitude.zero.units = 0 := by decide
    have hdigits : (⟨[0], 0⟩ : Decimal).plainChars = ['0'] := by decide
    simp [standard, plainChars, Magnitude.shortest, hzero, hdigits, signed]
  nonzero negative m h := by
    refine ⟨m.shortest .toEven, Magnitude.isShortest_shortest h .toEven, ?_⟩
    have hsign : (m.units != 0) = true := bne_iff_ne.2 h.ne'
    simp only [standard, plainChars, hsign, Bool.and_true]

/-- Every finite double is written with digits that are read as it, zero without a sign. -/
theorem Documented.plain_finite {printer : DecimalPrinter} (h : printer.Documented)
    (negative : Bool) (m : Magnitude) :
    ∃ d : Decimal, d.WellFormed ∧ (∀ sign, d.toDouble sign = .finite sign m) ∧
      printer.plain (.finite negative m) =
        signed (negative && m.units != 0) d.plainChars := by
  by_cases hzero : m.units = 0
  · obtain rfl : m = .zero := Magnitude.ext hzero
    have hdigits : (⟨[0], 0⟩ : Decimal).plainChars = ['0'] := by decide
    obtain ⟨hwell, hread⟩ := Decimal.toDouble_zero
    refine ⟨_, hwell, hread, ?_⟩
    rw [h.zero, hzero, hdigits, bne_self_eq_false, Bool.and_false]
    rfl
  · obtain ⟨d, hd, hplain⟩ := h.nonzero negative (Nat.pos_of_ne_zero hzero)
    refine ⟨d, hd.normalized.toWellFormed, hd.toDouble, ?_⟩
    rw [hplain, bne_iff_ne.2 hzero, Bool.and_true]

end DecimalPrinter

end ScriptValues
