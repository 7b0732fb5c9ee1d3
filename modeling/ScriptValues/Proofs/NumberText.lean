import ScriptValues.Decimal.Precision
import ScriptValues.Globals
import ScriptValues.Proofs.DecimalPrinter
import ScriptValues.Proofs.Equality

/-!
Numbers survive their texts. Every layout of decimal digits, positional or exponential, is one
decimal literal from its first character to its last, and none of its characters is a blank or a
base marker, so both readers of numbers take the whole text and get the double that the digits stand
for.
-/

namespace ScriptValues

namespace Text

theorem trimStart_eq_self {cs : List Char} (h : ∀ c ∈ cs, isTrimmable c = false) :
    trimStart cs = cs := by
  cases cs with
  | nil => rfl
  | cons c cs => simp [trimStart, h c (by simp)]

theorem trim_eq_self {cs : List Char} (h : ∀ c ∈ cs, isTrimmable c = false) : trim cs = cs := by
  have hend : trimStart cs.reverse = cs.reverse := trimStart_eq_self (by simpa using h)
  rw [trimStart] at hend
  rw [trim, trimStart_eq_self h, trimEnd, hend, List.reverse_reverse]

end Text

namespace Numeral

theorem not_trimmable_of_isDigit {base : Nat} {c : Char} (h : isDigit base c = true) :
    Text.isTrimmable c = false := by
  have hrange : 48 ≤ c.toNat ∧ c.toNat ≤ 122 := by
    unfold isDigit digitValue? at h
    dsimp only at h
    split at h <;> grind
  simp [Text.isTrimmable]
  omega

theorem not_sign_of_isDigit {base : Nat} {c : Char} (h : isDigit base c = true) :
    c ≠ '-' ∧ c ≠ '+' := by
  constructor
  · rintro rfl
    simp [isDigit, digitValue?] at h
  · rintro rfl
    simp [isDigit, digitValue?] at h

/-- Decimal digits are no letters. -/
theorem isAlpha_of_isDigit_ten {c : Char} (h : isDigit 10 c = true) : c.isAlpha = false := by
  have hrange : 48 ≤ c.toNat ∧ c.toNat ≤ 57 := by
    unfold isDigit digitValue? at h
    dsimp only at h
    split at h <;> grind
  have hall : ∀ n < 58, 48 ≤ n → (Char.ofNat n).isAlpha = false := by decide
  rw [← Char.ofNat_toNat c]
  exact hall c.toNat (by omega) hrange.1

theorem isDigit_digitChar {base : Nat} (hbase : base ≤ 36) {d : Nat} (hd : d < base) :
    isDigit base (digitChar d) = true := by
  rw [isDigit, digitValue?_digitChar hbase hd, Option.isSome_some]

end Numeral

namespace NumericText

theorem infinityWord_eq : infinityWord = ['I', 'n', 'f', 'i', 'n', 'i', 't', 'y'] := by
  decide +kernel

end NumericText

namespace Decimal

/-- The characters of decimal layouts. -/
def isLayoutChar (c : Char) : Bool := Numeral.isDigit 10 c || ['.', 'e', '+', '-'].contains c

theorem isLayoutChar_digitChar {d : Nat} (hd : d < 10) :
    isLayoutChar (Numeral.digitChar d) = true := by
  rw [isLayoutChar, Numeral.isDigit_digitChar (by decide) hd, Bool.true_or]

theorem not_trimmable_of_isLayoutChar {c : Char} (h : isLayoutChar c = true) :
    Text.isTrimmable c = false := by
  rw [isLayoutChar, Bool.or_eq_true] at h
  rcases h with hdigit | hsign
  · exact Numeral.not_trimmable_of_isDigit hdigit
  · simp at hsign
    rcases hsign with rfl | rfl | rfl | rfl <;> decide

theorem not_wordLetter_of_isLayoutChar {c : Char} (h : isLayoutChar c = true) :
    ¬ (c.isAlpha && c != 'e' && c != 'E') = true := by
  rw [isLayoutChar, Bool.or_eq_true] at h
  rcases h with hdigit | hsign
  · have := Numeral.isAlpha_of_isDigit_ten hdigit
    simp [this]
  · simp at hsign
    rcases hsign with rfl | rfl | rfl | rfl <;> decide

/-- A text that stands for a decimal: it starts with a digit, and a sign in front of it makes it a
literal, of which nothing is left over and which has the value of the decimal with that sign. -/
structure Spells (cs : List Char) (d : Decimal) : Prop where
  chars : ∀ c ∈ cs, isLayoutChar c = true
  starts : ∃ c rest, cs = c :: rest ∧ Numeral.isDigit 10 c = true
  scans : ∀ negative, ∃ literal, DecimalLiteral.scan? (Double.signed negative cs) =
    some (literal, []) ∧ literal.value = d.toDouble negative

theorem withPoint_isLayoutChar {ds : List Nat} (hds : ∀ d ∈ ds, d < 10) (whole : Nat) :
    ∀ c ∈ withPoint ds whole, isLayoutChar c = true := by
  have hdigits : ∀ es : List Nat, (∀ d ∈ es, d < 10) → ∀ c ∈ digitChars es,
      isLayoutChar c = true := by
    intro es hes c hc
    obtain ⟨d, hd, rfl⟩ := List.mem_map.1 hc
    exact isLayoutChar_digitChar (hes d hd)
  intro c hc
  unfold withPoint at hc
  split at hc
  · exact hdigits ds hds c hc
  · rcases List.mem_append.1 hc with hfront | hback
    · exact hdigits _ (fun d hd => hds d (List.mem_of_mem_take hd)) c hfront
    · rcases List.mem_cons.1 hback with rfl | hback
      · decide
      · exact hdigits _ (fun d hd => hds d (List.mem_of_mem_drop hd)) c hback

/-- Digits with a point start with their first digit. -/
theorem withPoint_cons (d : Nat) (ds : List Nat) (whole : Nat) (hwhole : 0 < whole) :
    ∃ rest, withPoint (d :: ds) whole = Numeral.digitChar d :: rest := by
  obtain ⟨before, rfl⟩ : ∃ before, whole = before + 1 := ⟨whole - 1, by omega⟩
  unfold withPoint
  split
  · exact ⟨_, rfl⟩
  · exact ⟨_, rfl⟩

/-- A sign in front of a digit is scanned as that sign. -/
theorem scanSign_signed {base : Nat} {c : Char} (hc : Numeral.isDigit base c = true)
    (negative : Bool) (cs : List Char) :
    DecimalLiteral.scanSign (Double.signed negative (c :: cs)) = (negative, c :: cs) := by
  cases negative with
  | true => rfl
  | false =>
      obtain ⟨hminus, hplus⟩ := Numeral.not_sign_of_isDigit hc
      simp only [Double.signed, Bool.false_eq_true, if_false]
      unfold DecimalLiteral.scanSign
      split <;> simp_all

/-- Digits with a point are scanned as the digits before it and the digits after it. -/
theorem scan?_withPoint {ds : List Nat} (hnil : ds ≠ []) (hds : ∀ d ∈ ds, d < 10) {whole : Nat}
    (hwhole : 0 < whole) {tail : List Char} (htail : Numeral.StopsDigits 10 tail)
    (hpoint : tail.head? ≠ some '.') (negative : Bool) :
    DecimalLiteral.scan? (Double.signed negative (withPoint ds whole ++ tail)) =
      some (⟨negative, ds.take whole, ds.drop whole, (DecimalLiteral.scanExponent tail).1⟩,
        (DecimalLiteral.scanExponent tail).2) := by
  have htake : ∀ d ∈ ds.take whole, d < 10 := fun d hd => hds d (List.mem_of_mem_take hd)
  have hdrop : ∀ d ∈ ds.drop whole, d < 10 := fun d hd => hds d (List.mem_of_mem_drop hd)
  have hfront : ds.take whole ≠ [] := by
    simp [hnil]
    omega
  have hsign : DecimalLiteral.scanSign (Double.signed negative (withPoint ds whole ++ tail)) =
      (negative, withPoint ds whole ++ tail) := by
    cases ds with
    | nil => exact absurd rfl hnil
    | cons d ds =>
        obtain ⟨rest, hrest⟩ := withPoint_cons d ds whole hwhole
        rw [hrest, List.cons_append]
        exact scanSign_signed (Numeral.isDigit_digitChar (by decide) (hds d (by simp))) _ _
  have hspan : ∃ afterWhole,
      Numeral.span 10 (withPoint ds whole ++ tail) = (ds.take whole, afterWhole) ∧
        DecimalLiteral.scanFraction afterWhole = (ds.drop whole, tail) := by
    unfold withPoint
    split
    · next hshort =>
      refine ⟨tail, ?_, ?_⟩
      · rw [List.take_of_length_le hshort]
        exact Numeral.span_digitChars (by decide) hds htail
      · rw [List.drop_of_length_le hshort]
        unfold DecimalLiteral.scanFraction
        split
        · simp at hpoint
        · rfl
    · refine ⟨'.' :: digitChars (ds.drop whole) ++ tail, ?_, ?_⟩
      · rw [List.append_assoc]
        exact Numeral.span_digitChars (by decide) htake (Numeral.stopsDigits_cons (by decide) _)
      · exact Numeral.span_digitChars (by decide) hdrop htail
  obtain ⟨afterWhole, hwholeDigits, hfraction⟩ := hspan
  simp only [DecimalLiteral.scan?, hsign, hwholeDigits, hfraction, hfront, false_and, if_false]

/-- The exponent after `e` is scanned with its sign, to the end. -/
theorem scanExponent_sign (exponent : Int) :
    DecimalLiteral.scanExponent ('e' :: (if exponent < 0 then '-' else '+') ::
      Numeral.natChars 10 exponent.natAbs) = (exponent, []) := by
  have hspan : Numeral.span 10 (Numeral.natChars 10 exponent.natAbs) =
      (Numeral.shownDigits 10 exponent.natAbs, []) := by
    rw [Numeral.natChars_eq]
    simpa using Numeral.span_digitChars (by decide : 10 ≤ 36)
      (fun d hd => Numeral.shownDigits_lt (by decide) hd) (Numeral.stopsDigits_nil 10)
  have hvalue := Numeral.value_shownDigits (by decide : 2 ≤ 10) exponent.natAbs
  have hnil := Numeral.shownDigits_ne_nil (by decide : 2 ≤ 10) exponent.natAbs
  generalize Numeral.shownDigits 10 exponent.natAbs = digits at *
  cases digits with
  | nil => exact absurd rfl hnil
  | cons d ds =>
      by_cases hneg : exponent < 0
      · simp only [DecimalLiteral.scanExponent, hneg, if_true, true_or, DecimalLiteral.scanSign,
          hspan, hvalue, Prod.mk.injEq, and_true]
        omega
      · simp only [DecimalLiteral.scanExponent, hneg, if_false, if_true, true_or,
          DecimalLiteral.scanSign, hspan, hvalue, Prod.mk.injEq, and_true, Bool.false_eq_true]
        omega

theorem exponent_isLayoutChar (exponent : Int) :
    ∀ c ∈ 'e' :: (if exponent < 0 then '-' else '+') :: Numeral.natChars 10 exponent.natAbs,
      isLayoutChar c = true := by
  intro c hc
  rcases List.mem_cons.1 hc with rfl | hc
  · decide
  · rcases List.mem_cons.1 hc with rfl | hc
    · split <;> decide
    · rw [Numeral.natChars_eq] at hc
      obtain ⟨d, hd, rfl⟩ := List.mem_map.1 hc
      exact isLayoutChar_digitChar (Numeral.shownDigits_lt (by decide) hd)

/-- Digits with a point and an exponent spell a decimal of their value. -/
theorem spells_withPoint {ds : List Nat} (hnil : ds ≠ []) (hds : ∀ d ∈ ds, d < 10) {whole : Nat}
    (hwhole : 0 < whole) {tail : List Char} {exponent : Int}
    (htail : tail = [] ∧ exponent = 0 ∨ tail = 'e' :: (if exponent < 0 then '-' else '+') ::
      Numeral.natChars 10 exponent.natAbs)
    {d : Decimal} (hvalue : ∀ negative, Double.ofDecimal negative (Numeral.value 10 ds)
      (exponent - (ds.length - whole : Nat)) = d.toDouble negative) :
    Spells (withPoint ds whole ++ tail) d := by
  have hscan : DecimalLiteral.scanExponent tail = (exponent, []) := by
    rcases htail with ⟨rfl, rfl⟩ | rfl
    · rfl
    · exact scanExponent_sign exponent
  refine ⟨?_, ?_, ?_⟩
  · intro c hc
    rcases List.mem_append.1 hc with hc | hc
    · exact withPoint_isLayoutChar hds whole c hc
    · rcases htail with ⟨rfl, rfl⟩ | rfl
      · cases hc
      · exact exponent_isLayoutChar exponent c hc
  · cases ds with
    | nil => exact absurd rfl hnil
    | cons digit ds =>
        obtain ⟨rest, hrest⟩ := withPoint_cons digit ds whole hwhole
        exact ⟨Numeral.digitChar digit, rest ++ tail, by rw [hrest, List.cons_append],
          Numeral.isDigit_digitChar (by decide) (hds digit (by simp))⟩
  · intro negative
    have hstop : Numeral.StopsDigits 10 tail ∧ tail.head? ≠ some '.' := by
      rcases htail with ⟨rfl, rfl⟩ | rfl
      · exact ⟨Numeral.stopsDigits_nil 10, by simp⟩
      · exact ⟨Numeral.stopsDigits_cons (by decide) _, by simp⟩
    refine ⟨⟨negative, ds.take whole, ds.drop whole, exponent⟩, ?_, ?_⟩
    · rw [scan?_withPoint hnil hds hwhole hstop.1 hstop.2, hscan]
    · simp only [DecimalLiteral.value, List.take_append_drop, List.length_drop, hvalue]

/-- Positional notation spells its decimal. -/
theorem spells_positionalChars {d : Decimal} (hd : d.WellFormed) : Spells d.positionalChars d := by
  have hlen := List.length_pos_iff.2 hd.nonempty
  unfold positionalChars
  split
  · next hexponent =>
    rw [← List.append_nil (withPoint _ _)]
    apply spells_withPoint (by simp [hd.nonempty]) _ (by omega) (Or.inl ⟨rfl, rfl⟩)
    · intro negative
      rw [Numeral.value_append_zeros, Double.ofDecimal_mul_pow, toDouble, place]
      congr 1
      simp only [List.length_append, List.length_replicate]
      omega
    · intro digit hdigit
      rcases List.mem_append.1 hdigit with hdigit | hzero
      · exact hd.lt_ten digit hdigit
      · rw [List.eq_of_mem_replicate hzero]
        decide
  · next hexponent =>
    rw [← List.append_nil (withPoint _ _)]
    apply spells_withPoint (by simp [hd.nonempty]) _ Nat.one_pos (Or.inl ⟨rfl, rfl⟩)
    · intro negative
      rw [Numeral.value_zeros_append, toDouble, place]
      congr 1
      simp only [List.length_append, List.length_replicate]
      omega
    · intro digit hdigit
      rcases List.mem_append.1 hdigit with hzero | hdigit
      · rw [List.eq_of_mem_replicate hzero]
        decide
      · exact hd.lt_ten digit hdigit

/-- Exponential notation spells its decimal. -/
theorem spells_exponentialChars {d : Decimal} (hd : d.WellFormed) :
    Spells d.exponentialChars d := by
  have hlen := List.length_pos_iff.2 hd.nonempty
  apply spells_withPoint hd.nonempty hd.lt_ten Nat.one_pos (Or.inr rfl)
  intro negative
  rw [toDouble, place]
  congr 1
  omega

theorem spells_plainChars {d : Decimal} (hd : d.WellFormed) : Spells d.plainChars d := by
  unfold plainChars
  split
  · exact spells_positionalChars hd
  · exact spells_exponentialChars hd

namespace Spells

variable {cs : List Char} {d : Decimal}

theorem signed_isLayoutChar (h : Spells cs d) (negative : Bool) :
    ∀ c ∈ Double.signed negative cs, isLayoutChar c = true := by
  intro c hc
  cases negative with
  | false => exact h.chars c hc
  | true =>
      rcases List.mem_cons.1 hc with rfl | hc
      · decide
      · exact h.chars c hc

theorem signed_ne_nil (h : Spells cs d) (negative : Bool) : Double.signed negative cs ≠ [] := by
  obtain ⟨c, rest, rfl, -⟩ := h.starts
  cases negative <;> simp [Double.signed]

theorem scanInfinity?_eq_none (h : Spells cs d) (negative : Bool) :
    NumericText.scanInfinity? (Double.signed negative cs) = none := by
  obtain ⟨c, rest, rfl, hc⟩ := h.starts
  have hletter : ('I' == c) = false := by
    rw [beq_eq_false_iff_ne]
    rintro rfl
    exact absurd hc (by decide)
  have hword : NumericText.infinityWord.isPrefixOf (c :: rest) = false := by
    rw [NumericText.infinityWord_eq, List.isPrefixOf_cons_cons, hletter, Bool.false_and]
  simp [NumericText.scanInfinity?, scanSign_signed hc, hword]

theorem scanBase?_eq_none (h : Spells cs d) (negative : Bool) :
    NumericText.scanBase? (Double.signed negative cs) = none := by
  have hchars := h.signed_isLayoutChar negative
  generalize Double.signed negative cs = text at hchars
  unfold NumericText.scanBase?
  split
  case h_7 => rfl
  all_goals exact absurd (hchars _ (List.mem_cons_of_mem _ List.mem_cons_self)) (by decide)

theorem startsNumber (h : Spells cs d) (negative : Bool) :
    NumericText.startsNumber (Double.signed negative cs) = true := by
  obtain ⟨c, rest, rfl, hc⟩ := h.starts
  simp [NumericText.startsNumber, scanSign_signed hc, hc]

theorem hasWordLetter_take (h : Spells cs d) (negative : Bool) (count : Nat) :
    NumericText.hasWordLetter ((Double.signed negative cs).take count) = false := by
  rw [NumericText.hasWordLetter, List.any_eq_false]
  intro c hc
  exact not_wordLetter_of_isLayoutChar (h.signed_isLayoutChar negative c (List.mem_of_mem_take hc))

/-- A signed text that spells a decimal is a number, taken as a whole text. -/
theorem toNumber_eq (h : Spells cs d) (negative : Bool) :
    NumericText.toNumber (Double.signed negative cs) = d.toDouble negative := by
  obtain ⟨literal, hscan, hvalue⟩ := h.scans negative
  have htrim := Text.trim_eq_self fun c hc =>
    not_trimmable_of_isLayoutChar (h.signed_isLayoutChar negative c hc)
  simp only [NumericText.toNumber, htrim, h.signed_ne_nil, if_false, h.scanInfinity?_eq_none,
    h.scanBase?_eq_none, h.startsNumber, if_true, DecimalReader.whole?_of_scan? hscan,
    Option.getD_some, hvalue]

/-- A signed text that spells a decimal is a number, taken as the start of a text. -/
theorem decimalStart_eq (h : Spells cs d) (negative : Bool) :
    NumericText.decimalStart (Double.signed negative cs) = d.toDouble negative := by
  obtain ⟨literal, hscan, hvalue⟩ := h.scans negative
  have htrim := Text.trimStart_eq_self fun c hc =>
    not_trimmable_of_isLayoutChar (h.signed_isLayoutChar negative c hc)
  have hlength : (Double.signed negative cs).length - ([] : List Char).length ≠ 0 :=
    List.length_eq_zero_iff.not.2 (h.signed_ne_nil negative)
  have hletters := h.hasWordLetter_take negative
  simp only [NumericText.decimalStart, htrim, h.scanInfinity?_eq_none,
    DecimalReader.start?_of_scan? hscan, hlength, if_false, hletters, Bool.and_false,
    Bool.false_eq_true, hvalue]

end Spells

end Decimal

namespace Double

/-- A double, except that the negative zero becomes the positive one. -/
def unsignedZero (x : Double) : Double := if x.isNegativeZero then .zero else x

theorem unsignedZero_finite (negative : Bool) (m : Magnitude) :
    unsignedZero (.finite negative m) = .finite (negative && m.units != 0) m := by
  by_cases hzero : m.units = 0
  · have hm : m = .zero := Magnitude.ext hzero
    subst hm
    cases negative <;> rfl
  · cases negative <;> simp [unsignedZero, isNegativeZero, hzero]

/-- Equality ignores the sign of zero and fails for NaN only. -/
theorem equal_unsignedZero (x : Double) :
    x.equal x.unsignedZero = !x.isNaN ∧ x.unsignedZero.equal x = !x.isNaN := by
  by_cases hzero : x.isNegativeZero = true
  · have hx : x = .negativeZero := by
      cases x with
      | nan => cases hzero
      | infinite negative => cases hzero
      | finite negative m =>
          cases negative with
          | false => cases hzero
          | true =>
              have hunits : m.units = 0 := by simpa [isNegativeZero] using hzero
              exact congrArg (finite true) (Magnitude.ext hunits)
    rw [hx]
    decide
  · rw [unsignedZero, if_neg hzero]
    exact ⟨x.equal_self, x.equal_self⟩

section

variable {printer : DecimalPrinter}

/-- Both readers take the text of a number that is not finite. -/
theorem read_plain_of_not_finite (hprinter : printer.Documented) {x : Double}
    (hx : x.isFinite = false) :
    NumericText.toNumber (printer.plain x) = x ∧
      NumericText.decimalStart (printer.plain x) = x := by
  cases x with
  | nan =>
      rw [hprinter.nan]
      decide +kernel
  | infinite negative =>
      rw [hprinter.infinite]
      cases negative <;> decide +kernel
  | finite negative m => cases hx

/-- The plain text of a number is read as the number. -/
theorem read_plain (hprinter : printer.Documented) (x : Double) :
    NumericText.toNumber (printer.plain x) = x.unsignedZero ∧
      NumericText.decimalStart (printer.plain x) = x.unsignedZero := by
  cases x with
  | nan => exact read_plain_of_not_finite hprinter rfl
  | infinite negative =>
      cases negative <;> exact read_plain_of_not_finite hprinter rfl
  | finite negative m =>
      obtain ⟨d, hwell, hvalue, hplain⟩ := hprinter.plain_finite negative m
      have hspells := Decimal.spells_plainChars hwell
      rw [hplain, hspells.toNumber_eq, hspells.decimalStart_eq, hvalue, unsignedZero_finite]
      exact ⟨rfl, rfl⟩

theorem toExponential_none_finite (negative : Bool) (m : Magnitude) :
    (toExponential (.finite negative m) none printer).toList =
      signed (negative && m.units != 0) (m.shortest .up).exponentialChars := by
  simp [toExponential]

/-- The exponential text with the shortest digits is read as the number. -/
theorem read_toExponential (hprinter : printer.Documented) (x : Double) :
    NumericText.toNumber (x.toExponential none printer).toList = x.unsignedZero ∧
      NumericText.decimalStart (x.toExponential none printer).toList = x.unsignedZero := by
  cases x with
  | nan => simpa [toExponential, text] using read_plain hprinter .nan
  | infinite negative =>
      simpa [toExponential, text] using read_plain hprinter (.infinite negative)
  | finite negative m =>
      obtain ⟨hwell, hvalue⟩ := m.toDouble_shortest .up (negative && m.units != 0)
      have hspells := Decimal.spells_exponentialChars hwell
      rw [toExponential_none_finite, hspells.toNumber_eq, hspells.decimalStart_eq, hvalue,
        unsignedZero_finite]
      exact ⟨rfl, rfl⟩

end

end Double

namespace Value

theorem toList_text_number (x : Double) (printer : DecimalPrinter) :
    ((Value.number x).text printer).toList = printer.plain x := by
  simp [text, scalarText, Double.text]

/-- Every number is the number of its own text, plain or exponential with the shortest digits, to
both readers of numbers; only a negative zero loses its sign. So each number but NaN is loosely
equal to its text, on either side. -/
theorem number_survives_text {printer : DecimalPrinter} (hprinter : printer.Documented)
    (x : Double) :
    (Value.string ((Value.number x).text printer)).toNumber = x.unsignedZero ∧
      (Value.string ((Value.number x).text printer)).parseFloat = x.unsignedZero ∧
      (Value.string (x.toExponential none printer)).toNumber = x.unsignedZero ∧
      (Value.string (x.toExponential none printer)).parseFloat = x.unsignedZero ∧
      (Value.number x).looselyEqual (.string ((Value.number x).text printer)) = !x.isNaN ∧
      (Value.string ((Value.number x).text printer)).looselyEqual (.number x) = !x.isNaN := by
  obtain ⟨hnumber, hstart⟩ := x.read_plain hprinter
  obtain ⟨hexpNumber, hexpStart⟩ := x.read_toExponential hprinter
  obtain ⟨hleft, hright⟩ := x.equal_unsignedZero
  rw [← toList_text_number] at hnumber hstart
  refine ⟨hnumber, hstart, hexpNumber, hexpStart, ?_, ?_⟩
  · rw [← hleft, ← hnumber]
    rfl
  · rw [← hright, ← hnumber]
    rfl

/-- The least positive double survives its text `5e-324`, though no decimal with so few digits has
its value. -/
theorem leastPositive_survives_text :
    DecimalPrinter.standard.Documented ∧ Double.leastPositive.text = "5e-324" ∧
      (Value.string "5e-324").toNumber = .leastPositive := by
  have hprinter := DecimalPrinter.standard_documented
  have htext : Double.leastPositive.text = "5e-324" := by decide +kernel
  have hsign : Double.leastPositive.unsignedZero = .leastPositive := by decide +kernel
  obtain ⟨hnumber, -⟩ := number_survives_text hprinter .leastPositive
  refine ⟨hprinter, htext, ?_⟩
  rw [← htext]
  exact hnumber.trans hsign

end Value

end ScriptValues
