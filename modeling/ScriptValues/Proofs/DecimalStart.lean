import Mathlib.Data.Finset.Max
import ScriptValues.Proofs.NumberGrammar

/-!
Numbers at the start of a text. Reading takes the longest start of a text that is a decimal literal
or the word for infinity, and the number is that of this start as a whole text. A literal that is too
large for a double is infinite, while the words of the decimal library for infinity and NaN give NaN,
although the library takes both for a number that is not finite. So a text that is a decimal literal
as a whole, with blanks around it, is the same number to both readers.
-/

namespace ScriptValues

namespace Text

/-- A text is what trimming leaves, with blanks around it. -/
theorem exists_trim (cs : List Char) : ∃ back, trimStart cs = trim cs ++ back ∧
    ∀ c ∈ back, isTrimmable c = true := by
  refine ⟨((trimStart cs).reverse.takeWhile isTrimmable).reverse, ?_, ?_⟩
  · rw [trim, trimEnd, ← List.reverse_append, List.takeWhile_append_dropWhile, List.reverse_reverse]
  · intro c hc
    exact List.mem_takeWhile_imp (List.mem_reverse.1 hc)

end Text

/-- Where some start of a text has a property, one of them is the longest. -/
theorem exists_longestStart {p : List Char → Prop} {front cs : List Char} (hstarts : front <+: cs)
    (hfront : p front) : ∃ longest, LongestStart p longest cs := by
  classical
  obtain ⟨longest, hmem, hmost⟩ := ((cs.inits.toFinset).filter p).exists_max_image List.length
    ⟨front, by simp [hstarts, hfront]⟩
  simp only [Finset.mem_filter, List.mem_toFinset, List.mem_inits] at hmem hmost
  exact ⟨longest, hmem.1, hmem.2, fun other hother hp => hmost other ⟨hother, hp⟩⟩

namespace NumericText

open DecimalLiteral DecimalReader Numeral

variable {reader : DecimalReader} {text cs front : List Char} {negative : Bool}

theorem DecimalForm.not_trimmable (h : DecimalForm cs) :
    ∀ c ∈ cs, Text.isTrimmable c = false := by
  intro c hc
  cases h with
  | infinity h =>
      have hword : infinityWord.all (fun c => !Text.isTrimmable c) = true := by decide +kernel
      rcases h.mem hc with rfl | rfl | hc
      · decide
      · decide
      · simpa using List.all_eq_true.1 hword c hc
  | literal h => exact not_trimmable_of_isLiteralChar (h.isLiteralChar c hc)

theorem infinityWord_ne_nil : infinityWord ≠ [] := by
  rw [infinityWord_eq]
  nofun

theorem decimalStart_of_infinity (htext : Text.trimStart text = cs) (hstarts : front <+: cs)
    (h : LeadingSign front negative infinityWord) :
    decimalStart text reader = .infinite negative := by
  obtain ⟨rest, rfl⟩ := hstarts
  have hscan : scanInfinity? (front ++ rest) = some (negative, rest) :=
    scanInfinity?_eq_some_iff.2 (h.append infinityWord_ne_nil rest)
  simp only [decimalStart, htext, hscan]

/-- Where a literal stands at the start of a text, what the library reads there is a literal. -/
theorem longest_isRead {literal : DecimalLiteral} (h : LongestStart DecimalForm front cs)
    (hspelling : Spelling front literal) : LongestStart IsRead front cs := by
  refine ⟨h.starts, .inl ⟨literal, hspelling⟩, fun other hother hread => ?_⟩
  apply h.longest other hother
  rcases hread with ⟨literal', hspelling'⟩ | ⟨x, hword⟩
  · exact .literal hspelling'
  · obtain ⟨rest, hrest⟩ := h.starts
    obtain ⟨rest', hrest'⟩ := hother
    have hnumber := hspelling.startsNumber rest
    rw [hrest, ← hrest', hword.startsNumber] at hnumber
    cases hnumber

/-- A literal at the start of a text is what the decimal library makes of it, infinite or not. -/
theorem decimalStart_of_spelling (hreader : reader.Documented)
    (htext : Text.trimStart text = cs) {literal : DecimalLiteral}
    (h : LongestStart DecimalForm front cs) (hspelling : Spelling front literal) :
    decimalStart text reader = (reader.whole? front).getD .nan := by
  obtain ⟨x, -, hwhole⟩ := hreader.literal hspelling
  have hstart := hreader.longest (longest_isRead h hspelling)
  obtain ⟨rest, rfl⟩ := h.starts
  have hlength : front.length ≠ 0 := List.length_eq_zero_iff.not.2 hspelling.ne_nil
  rw [hwhole, Option.map_some] at hstart
  simp only [decimalStart, htext, scanInfinity?_eq_none (hspelling.startsNumber rest), hstart,
    hlength, if_false, List.take_left, hspelling.hasWordLetter, Bool.and_false, Bool.false_eq_true,
    hwhole, Option.getD_some]

/-- A word of the library is given away by its letters. -/
theorem decimalStart_of_no_form (hreader : reader.Documented) (htext : Text.trimStart text = cs)
    (h : ∀ front, front <+: cs → ¬ DecimalForm front) : decimalStart text reader = .nan := by
  have hinfinity : scanInfinity? cs = none := by
    cases hscan : scanInfinity? cs with
    | none => rfl
    | some found =>
        obtain ⟨signed, rfl, hsigned⟩ :=
          (scanInfinity?_eq_some_iff.1 hscan).exists_front infinityWord_ne_nil
        exact absurd (.infinity hsigned) (h signed (List.prefix_append _ _))
  by_cases hread : ∃ front, front <+: cs ∧ IsRead front
  · obtain ⟨some, hstarts, hsome⟩ := hread
    obtain ⟨front, hfront⟩ := exists_longestStart hstarts hsome
    have hstart := hreader.longest hfront
    obtain ⟨rest, rfl⟩ := hfront.starts
    rcases hfront.holds with ⟨literal, hspelling⟩ | ⟨x, hword⟩
    · exact absurd (.literal hspelling) (h front hfront.starts)
    · rw [hreader.word hword, Option.map_some] at hstart
      simp only [decimalStart, htext, hinfinity, hstart, List.take_left, hword.hasWordLetter,
        hword.isFinite, Bool.not_false, Bool.and_true, if_true, ite_self]
  · have hnothing := hreader.nothing fun front hfront hsome => hread ⟨front, hfront, hsome⟩
    simp only [decimalStart, htext, hinfinity, hnothing]

/-- The longest start of a text that has the form of a decimal is read as it is as a whole text. -/
theorem decimalStart_eq_toNumber (hreader : reader.Documented) (htext : Text.trimStart text = cs)
    (h : LongestStart DecimalForm front cs) : decimalStart text reader = toNumber front reader := by
  have htrim := Text.trim_eq_self h.holds.not_trimmable
  cases h.holds with
  | infinity hsign =>
      rw [decimalStart_of_infinity htext h.starts hsign, toNumber_of_infinity htrim hsign]
  | literal hspelling =>
      rw [decimalStart_of_spelling hreader htext h hspelling, toNumber_of_spelling htrim hspelling]

/-- Blanks after a decimal do not make it longer. -/
theorem DecimalForm.longestStart (h : DecimalForm cs) {back : List Char}
    (hback : ∀ c ∈ back, Text.isTrimmable c = true) : LongestStart DecimalForm cs (cs ++ back) := by
  refine ⟨List.prefix_append cs back, h, fun other hother hform => ?_⟩
  by_contra hlonger
  obtain ⟨more, rfl⟩ :=
    List.prefix_of_prefix_length_le (List.prefix_append cs back) hother (Nat.le_of_not_le hlonger)
  have hmore : more <+: back := (List.prefix_append_right_inj cs).1 hother
  cases more with
  | nil => simp at hlonger
  | cons c more =>
      have hblank := hback c (hmore.subset List.mem_cons_self)
      rw [hform.not_trimmable c (by simp)] at hblank
      cases hblank

end NumericText

namespace Value

open NumericText DecimalLiteral DecimalReader

variable {reader : DecimalReader}

/-- The number at the start of a value's text is that of the longest start that is a decimal literal
or the word for infinity, and NaN exactly when there is none. A literal is the nearest double to its
exact number, an infinity when it is too large, with its sign, and words of the decimal library that
are not the word for infinity give NaN. A string that is such a decimal as a whole, with blanks
around it, has the same number at its start. -/
theorem parseFloat_longest (hreader : reader.Documented) (v : Value) :
    let text := Text.trimStart v.text.toList
    let answer := v.parseFloat reader
    (answer = .nan ↔ ∀ front, front <+: text → ¬ DecimalForm front) ∧
    (∀ front, LongestStart DecimalForm front text →
      answer = NumericText.toNumber front reader ∧
      ∀ literal, Spelling front literal → ∃ x, Double.IsNearest literal.exact x ∧
        answer = if literal.negative then x.neg else x) ∧
    (∀ front x, front <+: text → Word front x →
      (∀ other negative, other <+: text → ¬ LeadingSign other negative infinityWord) →
      answer = .nan) ∧
    ∀ s : String, v = .string s → DecimalForm (Text.trim s.toList) →
      answer = NumericText.toNumber s.toList reader := by
  intro text answer
  refine ⟨⟨?_, decimalStart_of_no_form hreader rfl⟩, ?_, ?_, ?_⟩
  · intro hnan front hstarts hform
    obtain ⟨longest, hlongest⟩ := exists_longestStart hstarts hform
    have htrim := Text.trim_eq_self hlongest.holds.not_trimmable
    apply toNumber_ne_nan hreader htrim (.decimal hlongest.holds)
    rw [← decimalStart_eq_toNumber hreader rfl hlongest]
    exact hnan
  · intro front hlongest
    refine ⟨decimalStart_eq_toNumber hreader rfl hlongest, fun literal hspelling => ?_⟩
    obtain ⟨x, hx, hread⟩ := hreader.literal hspelling
    have hanswer : answer = _ := decimalStart_of_spelling hreader rfl hlongest hspelling
    exact ⟨x, hx, by rw [hanswer, hread, Option.getD_some]⟩
  · intro front x hstarts hword hinfinity
    apply decimalStart_of_no_form hreader rfl
    intro other hother hform
    cases hform with
    | infinity hsign => exact hinfinity other _ hother hsign
    | literal hspelling =>
        obtain ⟨rest, hrest⟩ := hstarts
        obtain ⟨rest', hrest'⟩ := hother
        have hnumber := hspelling.startsNumber rest'
        rw [hrest'.trans hrest.symm, hword.startsNumber] at hnumber
        cases hnumber
  · rintro s rfl hform
    obtain ⟨back, hsplit, hback⟩ := Text.exists_trim s.toList
    have hlongest := hform.longestStart hback
    have hanswer : answer = _ := decimalStart_eq_toNumber hreader hsplit hlongest
    have htrim := Text.trim_eq_self hform.not_trimmable
    rw [hanswer]
    cases hform with
    | infinity hsign => rw [toNumber_of_infinity htrim hsign, toNumber_of_infinity rfl hsign]
    | literal hspelling =>
        rw [toNumber_of_spelling htrim hspelling, toNumber_of_spelling rfl hspelling]

/-- A literal past the largest doubles is infinite, and a word of the library is NaN although it
stands for infinity there. -/
theorem parseFloat_longest_overflow :
    standard.Documented ∧
      (Value.string " -1e999 ").parseFloat standard = .infinite true ∧
      (Value.string "iNf").parseFloat standard = .nan := by
  have hspelling : Spelling ['-', '1', 'e', '9', '9', '9'] ⟨true, [1], [], 999⟩ :=
    spelling_iff.2 rfl
  have htrim : Text.trim " -1e999 ".toList = ['-', '1', 'e', '9', '9', '9'] := by
    decide +kernel
  have hword : Word ['i', 'N', 'f'] (.infinite false) :=
    .intro (.absent fun c hc => by cases hc; decide)
      (List.mem_cons_of_mem _ List.mem_cons_self) rfl
  refine ⟨standard_documented, ?_, ?_⟩
  · have hanswer := (parseFloat_longest standard_documented (.string " -1e999 ")).2.2.2
      " -1e999 " rfl (htrim ▸ .literal hspelling)
    rw [hanswer]
    decide +kernel
  · refine (parseFloat_longest standard_documented (.string "iNf")).2.2.1 ['i', 'N', 'f'] _
      (by decide) hword ?_
    intro other negative hother hsign
    rw [infinityWord_eq] at hsign
    have hlonger := hsign.length_le.trans hother.length_le
    revert hlonger
    decide

end Value

end ScriptValues
