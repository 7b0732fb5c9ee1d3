import Mathlib.Algebra.Order.Field.Basic
import Mathlib.Algebra.Order.Field.Rat
import Mathlib.Tactic.Linarith
import Mathlib.Tactic.Ring
import ScriptValues.Double.Bits
import ScriptValues.Proofs.RadixValue

/-!
Which doubles the text in a base tells from all others. In a base that is not a power of two each
step of the digit loops rounds, and doubles next to each other can have the same text. Where no
rounding matters, which is so for whole numbers below 2^53 and for fractions from the base on, the
text stands for a number nearer to its double than to any other one.
-/

namespace ScriptValues

namespace Magnitude

variable {units : Nat}

/-- The grid is as fine just below a magnitude with a fraction, unless it is below one. -/
theorem gap_pred_of_fraction (hfraction : units % one ≠ 0) (hone : one ≤ units) :
    gap (units - 1) = gap units := by
  have hzero : units ≠ 0 := by
    rintro rfl
    exact hfraction (Nat.zero_mod one)
  have hpow : one ∣ 2 ^ units.log2 := by
    obtain ⟨top, htop⟩ := one_eq_two_pow
    rw [htop] at hone ⊢
    exact Nat.pow_dvd_pow 2 ((Nat.le_log2 hzero).2 hone)
  have hle : 2 ^ units.log2 ≤ units := Nat.log2_self_le hzero
  have hne : 2 ^ units.log2 ≠ units := by
    intro heq
    rw [heq] at hpow
    exact hfraction (Nat.mod_eq_zero_of_dvd hpow)
  have hlt : units < 2 ^ (units.log2 + 1) := Nat.lt_log2_self
  exact gap_eq_of_le_of_lt (by omega) (by omega)

end Magnitude

namespace Double

open Numeral Radix

variable {base : Nat} (printer : DecimalPrinter) {writer : IntegerWriter}

/-- A text in a base stands for a number that is nearer to a double than to any other one. -/
def Identifies (base : Nat) (cs : List Char) (x : Double) : Prop :=
  ∃ written exact : ℚ, Numeral.exactValue? base cs = some written ∧ x.exactValue? = some exact ∧
    ∀ y other, exactValue? y = some other → other ≠ exact →
      |written - exact| < |written - other|

/-- Doubles of one value are equal. -/
theorem equal_of_exactValue? {x y : Double} {value : ℚ} (hx : x.exactValue? = some value)
    (hy : y.exactValue? = some value) : x.equal y = true := by
  have hone : (Magnitude.one : ℚ) ≠ 0 := by exact_mod_cast Magnitude.one_pos.ne'
  obtain ⟨s, a, rfl, hvalueX⟩ := exists_of_exactValue? hx
  obtain ⟨t, b, rfl, hvalueY⟩ := exists_of_exactValue? hy
  have hunits : signedUnits s a = signedUnits t b := by
    rw [hvalueX, div_left_inj' hone] at hvalueY
    exact_mod_cast hvalueY
  exact beq_iff_eq.2 hunits

/-- A text identifies one double at most. -/
theorem Identifies.equal {cs : List Char} {x y : Double} (hx : Identifies base cs x)
    (hy : Identifies base cs y) : x.equal y = true := by
  obtain ⟨written, exact, hwritten, hexact, hnearer⟩ := hx
  obtain ⟨written', exact', hwritten', hexact', hnearer'⟩ := hy
  obtain rfl : written = written' := Option.some.inj (hwritten.symm.trans hwritten')
  by_cases hsame : exact = exact'
  · subst hsame
    exact equal_of_exactValue? hexact hexact'
  · have hlt := hnearer y exact' hexact' (Ne.symm hsame)
    have hgt := hnearer' x exact hexact hsame
    exact absurd hlt (lt_asymm hgt)

/-- Doubles other than one with a fraction, from one on, are a gap away from it at least. -/
theorem gap_le_distance {m other : Magnitude} (hfraction : m.units % Magnitude.one ≠ 0)
    (hone : Magnitude.one ≤ m.units) {s t : Bool} (hne : signedUnits t other ≠ signedUnits s m) :
    (Magnitude.gap m.units : ℤ) ≤ |signedUnits s m - signedUnits t other| := by
  have hpos := Magnitude.one_pos
  have hgap : Magnitude.gap m.units ≤ m.units := Nat.le_of_dvd (by omega) m.onGrid
  have hsame : other.units ≠ m.units →
      other.units + Magnitude.gap m.units ≤ m.units ∨
        m.units + Magnitude.gap m.units ≤ other.units := by
    intro hunits
    rcases Nat.lt_or_gt_of_ne hunits with hlt | hgt
    · left
      rw [← Magnitude.gap_pred_of_fraction hfraction hone]
      exact Magnitude.add_gap_pred_le other.onGrid m.onGrid hlt
    · exact Or.inr (Magnitude.add_gap_le m.onGrid other.onGrid hgt)
  rw [le_abs]
  cases s <;> cases t <;> simp only [signedUnits, Bool.false_eq_true, if_false, if_true] at hne ⊢
  · omega
  · omega
  · omega
  · omega

/-- So are the numbers they are. -/
theorem exactValue?_distance {m : Magnitude} (hfraction : m.units % Magnitude.one ≠ 0)
    (hone : Magnitude.one ≤ m.units) {negative : Bool} {y : Double} {exact other : ℚ}
    (hexact : exactValue? (.finite negative m) = some exact) (hother : y.exactValue? = some other)
    (hne : other ≠ exact) : (Magnitude.gap m.units : ℚ) / Magnitude.one ≤ |exact - other| := by
  have hpos : (0 : ℚ) < Magnitude.one := by exact_mod_cast Magnitude.one_pos
  obtain ⟨t, b, -, rfl⟩ := exists_of_exactValue? hother
  cases hexact
  have hunits : signedUnits t b ≠ signedUnits negative m := by
    intro h
    exact hne (by rw [h])
  rw [← sub_div, abs_div, abs_of_pos hpos, div_le_div_iff_of_pos_right hpos]
  exact_mod_cast gap_le_distance hfraction hone hunits

/-- Doubles that the digit loops write without a rounding that matters: all of them in a base that
is a power of two; below 2^53, whole numbers and fractions that are the base at least. -/
def Unrounded (base : Nat) (x : Double) : Prop :=
  base ∈ [2, 4, 8, 16, 32] ∨
    x.abs.less (.ofNat (2 ^ (53 : Nat))) = true ∧
      (x.trunc = x ∨ (Double.ofNat base).atMost x.abs = true)

theorem identifies_of_eq {cs : List Char} {x : Double} (hfinite : x.isFinite = true)
    (hread : Numeral.exactValue? base cs = x.exactValue?) : Identifies base cs x := by
  obtain ⟨negative, m, rfl⟩ := exists_of_isFinite hfinite
  refine ⟨_, _, hread, rfl, fun y other _ hne => ?_⟩
  rw [sub_self, abs_zero, abs_pos, sub_ne_zero]
  exact hne.symm

theorem identifies_textInBase_of_le (hwriter : writer.Documented) {m : Magnitude}
    (hthree : 3 ≤ base) (hle : base ≤ 36) (hten : base ≠ 10)
    (hfraction : m.units % Magnitude.one ≠ 0) (hbound : base * Magnitude.one ≤ m.units)
    (negative : Bool) :
    Identifies base (textInBase (.finite negative m) base printer writer).toList
      (.finite negative m) := by
  have hbase : base < 2 ^ (53 : Nat) := Nat.lt_of_le_of_lt hle (by decide)
  have hlt := Nat.mod_lt m.units Magnitude.one_pos
  have hbounds := Magnitude.halfGap_bounds m.onGrid hfraction
  have hgrid := Magnitude.gap_dvd_fraction m.onGrid hfraction
  obtain ⟨shift, hcoarse, hgap, hhalf⟩ := coarse_of_le hthree hbase hfraction hbound
  rw [hgap] at hgrid
  have hexact := hcoarse.fractionDigits_eq hgrid (hhalf ▸ Nat.dvd_refl _) hbounds.1 hlt maxSteps []
  obtain ⟨ds, hdigits, hds, hnear⟩ := exists_fractionDigits? (by omega) hfraction hexact
  have hone : (0 : ℚ) < Magnitude.one := by exact_mod_cast Magnitude.one_pos
  have hwhole : Magnitude.one ≤ m.units :=
    Nat.le_trans (Nat.le_mul_of_pos_left _ (by omega)) hbound
  refine ⟨_, _, exactValue?_textInBase_fraction printer hwriter (by omega) hle hten hfraction
    hdigits hds negative, exactValue?_split negative m, ?_⟩
  intro y other hy hne
  -- the text is less than half of the gap away, other doubles are the gap away at least
  have hfar := exactValue?_distance hfraction hwhole (exactValue?_split negative m) hy hne
  have hgapHalf : (Magnitude.gap m.units : ℚ) = 2 * Magnitude.halfGap m.units := by
    rw [hgap, hhalf, Nat.pow_succ]
    push_cast
    ring
  rw [← abs_withSign_sub negative (m.units / Magnitude.one : Nat)] at hnear
  rw [hgapHalf, mul_div_assoc] at hfar
  generalize withSign negative _ = written at *
  generalize withSign negative _ = exact at *
  have htriangle := abs_sub_le exact written other
  rw [abs_sub_comm exact written] at htriangle
  linarith

theorem identifies_textInBase (hwriter : writer.Documented) {x : Double}
    (hfinite : x.isFinite = true) (hbase : 2 ≤ base) (hle : base ≤ 36) (hten : base ≠ 10)
    (hx : Unrounded base x) :
    Identifies base (x.textInBase base printer writer).toList x := by
  by_cases hpower : base ∈ [2, 4, 8, 16, 32]
  · obtain ⟨bits, hbits, hfew, rfl⟩ := exists_two_pow_of_mem hpower
    exact identifies_of_eq hfinite
      (exactValue?_textInBase_two_pow printer hwriter hfinite hbits hfew).1
  · obtain ⟨hsmall, hcase⟩ := hx.resolve_left hpower
    obtain ⟨negative, m, rfl⟩ := exists_of_isFinite hfinite
    rcases exists_exact_or_fraction m with ⟨n, hn, rfl⟩ | hfraction
    · rw [abs, ← hn.ofNat_eq, hn.less_iff .exactLimit] at hsmall
      exact identifies_of_eq hfinite
        (exactValue?_textInBase_whole printer hwriter hbase hle hten hn (.inl hsmall) negative)
    · rcases hcase with hwhole | hlarge
      · obtain ⟨_, n, hn, heq⟩ := exists_exact_of_trunc_eq hfinite hwhole
        cases heq
        exact absurd (Nat.mul_mod_left n Magnitude.one) hfraction
      · have hm := Stored.of_magnitude m
        have hbound : base * Magnitude.one ≤ m.units := by
          rw [abs, ← show ofUnits m.units = .finite false m from hm.ofUnits_eq,
            ofNat_eq_ofUnits] at hlarge
          exact ((stored_mul_one (Nat.lt_of_le_of_lt hle (by decide))).atMost_iff hm).1 hlarge
        have hthree : 3 ≤ base := by
          rcases Nat.lt_or_eq_of_le hbase with hlt | rfl
          · exact hlt
          · simp at hpower
        exact identifies_textInBase_of_le printer hwriter hthree hle hten hfraction hbound negative

/-- A text without a rounding that matters identifies its double: the number it stands for is nearer
to it than to any other one. So no other double without such a rounding has the same text. -/
theorem textInBase_tells_apart (hwriter : writer.Documented) {x : Double}
    (hfinite : x.isFinite = true) (hbase : 2 ≤ base) (hle : base ≤ 36) (hten : base ≠ 10)
    (hx : Unrounded base x) :
    Identifies base (x.textInBase base printer writer).toList x ∧
      ∀ y : Double, y.isFinite = true → Unrounded base y →
        y.textInBase base printer writer = x.textInBase base printer writer →
          y.equal x = true := by
  have hidentifies := identifies_textInBase printer hwriter hfinite hbase hle hten hx
  refine ⟨hidentifies, fun y hfiniteY hy hsame => ?_⟩
  have hidentifiesY := identifies_textInBase printer hwriter hfiniteY hbase hle hten hy
  rw [hsame] at hidentifiesY
  exact hidentifiesY.equal hidentifies

/-- The double nearest to 100.1 is told from all others by its digits in base 36. -/
theorem textInBase_tells_apart_base36 :
    let x := ofBits 0x4059066666666666
    IntegerWriter.standard.Documented ∧ x.textInBase 36 = "2s.3llllllll" ∧
      Identifies 36 (x.textInBase 36).toList x := by
  intro x
  have hfinite : x.isFinite = true := by decide +kernel
  have hsmall : x.abs.less (.ofNat (2 ^ (53 : Nat))) = true := by decide +kernel
  have hlarge : (Double.ofNat 36).atMost x.abs = true := by decide +kernel
  have hwriter := IntegerWriter.standard_documented
  refine ⟨hwriter, by decide +kernel, ?_⟩
  exact (textInBase_tells_apart .standard hwriter hfinite (by decide) (by decide) (by decide)
    (.inr ⟨hsmall, .inr hlarge⟩)).1

/-- In base 20 the double nearest to 0.013 is written as 0.054, and so is the next one: the rounded
steps of the digit loop lose the difference. -/
theorem textInBase_base20_same :
    let x := ofBits 0x3f8a9fbe76c8b439
    let y := ofBits 0x3f8a9fbe76c8b43a
    x.isFinite = true ∧ y.isFinite = true ∧ x.equal y = false ∧
      x.textInBase 20 = "0.054" ∧ y.textInBase 20 = "0.054" := by
  decide +kernel

end Double

end ScriptValues
