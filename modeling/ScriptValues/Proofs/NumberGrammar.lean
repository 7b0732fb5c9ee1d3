import ScriptValues.Proofs.DecimalReader
import ScriptValues.Proofs.FoldedDigits

/-!
Which texts are numbers. Without the blanks around it a text is a number exactly when it is empty, a
decimal literal or the word for infinity with an optional sign, or digits of a base after its marker.
This holds for every decimal library that does what is documented: its own words never get through.
-/

namespace ScriptValues

namespace NumericText

open DecimalLiteral DecimalReader Numeral

/-- A decimal literal or the word for infinity, with an optional sign. -/
inductive DecimalForm : List Char → Prop
  | infinity {cs : List Char} {negative : Bool} (h : LeadingSign cs negative infinityWord) :
      DecimalForm cs
  | literal {cs : List Char} {literal : DecimalLiteral} (h : Spelling cs literal) : DecimalForm cs

/-- The texts that are numbers. Digits after the marker of a base take no sign. -/
inductive NumberForm : List Char → Prop
  | empty : NumberForm []
  | decimal {cs : List Char} (h : DecimalForm cs) : NumberForm cs
  | marked {marker digits : List Char} {base : Nat} {ds : List Nat}
      (hmarker : BaseMarker marker base) (hdigits : Spelled base digits ds) (hnil : ds ≠ []) :
      NumberForm (marker ++ digits)

section Scans

variable {cs rest : List Char} {negative : Bool} {base : Nat} {ds : List Nat}

theorem scanInfinity?_eq_some_iff :
    scanInfinity? cs = some (negative, rest) ↔ LeadingSign cs negative (infinityWord ++ rest) := by
  obtain ⟨negative', unsigned, hsign⟩ := exists_leadingSign cs
  have hscan := hsign.scanSign_eq
  rw [scanInfinity?, hscan]
  dsimp only
  constructor
  · intro h
    split at h
    · next hword =>
      obtain ⟨tail, rfl⟩ := List.isPrefixOf_iff_prefix.1 hword
      cases h
      rwa [List.drop_left]
    · cases h
  · intro h
    obtain ⟨rfl, rfl⟩ := Prod.mk.inj (h.scanSign_eq.symm.trans hscan)
    rw [if_pos (List.isPrefixOf_iff_prefix.2 (List.prefix_append _ _)), List.drop_left]

/-- The word for infinity starts with no digit and no point. -/
theorem startsNumber_of_infinity (h : LeadingSign cs negative (infinityWord ++ rest)) :
    startsNumber cs = false := by
  rw [startsNumber, h.scanSign_eq, infinityWord_eq]
  rfl

theorem scanInfinity?_eq_none (h : startsNumber cs = true) : scanInfinity? cs = none := by
  cases hscan : scanInfinity? cs with
  | none => rfl
  | some found =>
      rw [startsNumber_of_infinity (scanInfinity?_eq_some_iff.1 hscan)] at h
      cases h

theorem exists_baseMarker (h : scanBase? cs = some (base, rest)) :
    ∃ marker, BaseMarker marker base ∧ cs = marker ++ rest := by
  unfold scanBase? at h
  split at h <;> cases h
  · exact ⟨_, .hexadecimal (.inl rfl), rfl⟩
  · exact ⟨_, .hexadecimal (.inr rfl), rfl⟩
  · exact ⟨_, .octal (.inl rfl), rfl⟩
  · exact ⟨_, .octal (.inr rfl), rfl⟩
  · exact ⟨_, .binary (.inl rfl), rfl⟩
  · exact ⟨_, .binary (.inr rfl), rfl⟩

/-- No literal has the marker of a base. -/
theorem scanBase?_eq_none {literal : DecimalLiteral} (h : Spelling cs literal) :
    scanBase? cs = none := by
  cases hscan : scanBase? cs with
  | none => rfl
  | some found =>
      obtain ⟨base, rest⟩ := found
      obtain ⟨marker, hmarker, rfl⟩ := exists_baseMarker hscan
      have hchar := h.isLiteralChar
      rcases hmarker with (rfl | rfl) | (rfl | rfl) | (rfl | rfl)
      all_goals exact absurd (hchar _ (List.mem_cons_of_mem _ List.mem_cons_self)) (by decide)

theorem spelled_of_span (h : span base cs = (ds, [])) : Spelled base cs ds := by
  obtain ⟨front, es, rest, rfl, hfront, hstop⟩ := exists_spelled base cs
  rw [hfront.span_append hstop] at h
  obtain ⟨rfl, rfl⟩ := Prod.mk.inj h
  rwa [List.append_nil]

end Scans

section Answers

variable {reader : DecimalReader} {text cs : List Char} {negative : Bool}

theorem toNumber_of_infinity (htext : Text.trim text = cs)
    (h : LeadingSign cs negative infinityWord) : toNumber text reader = .infinite negative := by
  have hscan : scanInfinity? cs = some (negative, []) :=
    scanInfinity?_eq_some_iff.2 (by rwa [List.append_nil])
  have hnil : cs ≠ [] := by
    rintro rfl
    cases hscan
  simp only [toNumber, htext, hnil, if_false, hscan]

/-- A literal goes to the decimal library. -/
theorem toNumber_of_spelling (htext : Text.trim text = cs) {literal : DecimalLiteral}
    (h : Spelling cs literal) : toNumber text reader = (reader.whole? cs).getD .nan := by
  have hnumber : startsNumber cs = true := by
    simpa using h.startsNumber []
  simp only [toNumber, htext, h.ne_nil, if_false, scanInfinity?_eq_none hnumber,
    scanBase?_eq_none h, hnumber, if_true]

/-- What is no number gets no number from the decimal library either. -/
theorem toNumber_of_not_numberForm (hreader : reader.Documented) (htext : Text.trim text = cs)
    (h : ¬ NumberForm cs) : toNumber text reader = .nan := by
  have hnil : cs ≠ [] := by
    rintro rfl
    exact h .empty
  have hinfinity : ∀ negative, scanInfinity? cs ≠ some (negative, []) := by
    intro negative hscan
    have hsign := scanInfinity?_eq_some_iff.1 hscan
    rw [List.append_nil] at hsign
    exact h (.decimal (.infinity hsign))
  have hread : startsNumber cs = true → reader.whole? cs = none := by
    intro hnumber
    apply hreader.other
    rintro (⟨literal, hspelling⟩ | ⟨x, hword⟩)
    · exact h (.decimal (.literal hspelling))
    · have hletter := hword.startsNumber []
      rw [List.append_nil, hnumber] at hletter
      cases hletter
  unfold toNumber
  rw [htext]
  dsimp only
  rw [if_neg hnil]
  split
  · next negative hscan => exact absurd hscan (hinfinity negative)
  · split
    · next base digits hbase =>
      obtain ⟨marker, hmarker, rfl⟩ := exists_baseMarker hbase
      split
      · next d ds hspan =>
        exact absurd (.marked hmarker (spelled_of_span hspan) (List.cons_ne_nil d ds)) h
      · rfl
    · split
      · next hnumber => rw [hread hnumber, Option.getD_none]
      · rfl

theorem neg_if_ne_nan {x : Double} (hx : x ≠ .nan) (negative : Bool) :
    (if negative then x.neg else x) ≠ .nan := by
  cases negative with
  | true => exact Double.neg_ne_nan hx
  | false => exact hx

/-- A text that is a number does not give NaN. -/
theorem toNumber_ne_nan (hreader : reader.Documented) (htext : Text.trim text = cs)
    (h : NumberForm cs) : toNumber text reader ≠ .nan := by
  cases h with
  | empty =>
      rw [toNumber, htext]
      intro hnan
      cases hnan
  | decimal h =>
      cases h with
      | infinity h =>
          rw [toNumber_of_infinity htext h]
          intro hnan
          cases hnan
      | literal h =>
          obtain ⟨x, hx, hread⟩ := hreader.literal h
          rw [toNumber_of_spelling htext h, hread, Option.getD_some]
          exact neg_if_ne_nan hx.ne_nan _
  | marked hmarker hdigits hnil =>
      obtain ⟨hbase, hle⟩ := bounds_of_mem hmarker.base_mem
      rw [hmarker.toNumber_of_trim hdigits hnil htext]
      exact foldDigits_ne_nan (by omega) hle hdigits.lt_base

/-- A text is a number exactly when, without the blanks around it, it has one of the forms of
numbers. Nothing at all is zero, the word for infinity is infinite, and a decimal literal is the
nearest double to its exact number, with its sign, which is kept for zero too. -/
theorem toNumber_accepts (hreader : reader.Documented) (s : String) :
    let text := Text.trim s.toList
    let answer := toNumber s.toList reader
    (answer = .nan ↔ ¬ NumberForm text) ∧
    (text = [] → answer = .zero) ∧
    (∀ negative, LeadingSign text negative infinityWord → answer = .infinite negative) ∧
    ∀ literal, Spelling text literal →
      (∃ x, Double.IsNearest literal.exact x ∧
        answer = if literal.negative then x.neg else x) ∧
      (literal.exact = 0 → answer = if literal.negative then .negativeZero else .zero) := by
  intro text answer
  refine ⟨⟨?_, ?_⟩, ?_, ?_, ?_⟩
  · intro hnan hform
    exact toNumber_ne_nan hreader rfl hform hnan
  · exact toNumber_of_not_numberForm hreader rfl
  · exact fun hnil => if_pos hnil
  · exact fun negative h => toNumber_of_infinity rfl h
  · intro literal h
    obtain ⟨x, hx, hread⟩ := hreader.literal h
    have hanswer : answer = if literal.negative then x.neg else x := by
      rw [show answer = _ from toNumber_of_spelling rfl h, hread, Option.getD_some]
    refine ⟨⟨x, hx, hanswer⟩, fun hzero => ?_⟩
    have hx0 : Double.IsNearest ((0 : Nat) : ℚ) x := by
      rwa [hzero, ← Nat.cast_zero] at hx
    rw [hanswer, Double.isNearest_natCast_iff.1 hx0, Double.ofNat_zero]
    rfl

/-- A negative zero with a point in front and an exponent behind keeps its sign, between a byte
order mark and a line end. -/
theorem toNumber_accepts_negativeZero :
    let s := "\uFEFF-.0E7\n"
    let literal : DecimalLiteral := ⟨true, [], [0], 7⟩
    standard.Documented ∧ Spelling (Text.trim s.toList) literal ∧ literal.exact = 0 ∧
      toNumber s.toList standard = .negativeZero := by
  intro s literal
  have htrim : Text.trim s.toList = ['-', '.', '0', 'E', '7'] := by decide +kernel
  have hspelling : Spelling (Text.trim s.toList) literal := by
    rw [htrim]
    exact spelling_iff.2 rfl
  have hzero : literal.exact = 0 := by
    rw [DecimalLiteral.exact, show Numeral.value 10 (literal.whole ++ literal.fraction) = 0 from rfl,
      Nat.cast_zero, zero_mul]
  obtain ⟨-, -, -, hdecimal⟩ := toNumber_accepts standard_documented s
  exact ⟨standard_documented, hspelling, hzero, (hdecimal literal hspelling).2 hzero⟩

end Answers

end NumericText

end ScriptValues
