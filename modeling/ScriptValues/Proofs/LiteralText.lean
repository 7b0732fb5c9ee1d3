import ScriptValues.Proofs.LiteralGaps
import ScriptValues.Value.Text

/-!
Shown values are literals. The text that shows a value without symbols, objects and functions is one
literal of the notation, with all elements of its arrays written out, so reading it gives the value
back. Zeros come back without their sign.
-/

namespace ScriptValues

namespace Value

mutual

/-- A value with the negative zeros in it made positive. -/
def unsignedZeros : Value → Value
  | .number x => .number x.unsignedZero
  | .array vs => .array (unsignedElements vs)
  | v => v

def unsignedElements : List Value → List Value
  | [] => []
  | v :: vs => unsignedZeros v :: unsignedElements vs

end

/-- The elements of an array after the first one are shown after a comma and a blank. -/
theorem toList_showOnto (line : String) (vs : List Value) (printer : DecimalPrinter) :
    (showOnto line vs printer).toList =
      line.toList ++ vs.flatMap (fun v => ',' :: ' ' :: (v.shown printer).toList) ++ [']'] := by
  induction vs generalizing line with
  | nil => simp [showOnto]
  | cons v vs ih =>
      rw [showOnto, ih]
      simp

end Value

namespace Literal

/-- A character that is shown as it is, or with a backslash that the reader understands. -/
def IsReadable (c : Char) : Prop :=
  Text.escape c ∈ [[c], ['\\', '"'], ['\\', '\\'], ['\\', 'n'], ['\\', 't']]

instance (c : Char) : Decidable (IsReadable c) := inferInstanceAs (Decidable (_ ∈ _))

/-- The values that have a literal: no symbols, objects or functions anywhere in them, and readable
characters only in their strings. -/
inductive HasLiteral : Value → Prop
  | undefined : HasLiteral .undefined
  | null : HasLiteral .null
  | boolean (b : Bool) : HasLiteral (.boolean b)
  | number (x : Double) : HasLiteral (.number x)
  | string {s : String} : (∀ c ∈ s.toList, IsReadable c) → HasLiteral (.string s)
  | array {vs : List Value} : (∀ v ∈ vs, HasLiteral v) → HasLiteral (.array vs)

/-- Apart from the four with a backslash, readable characters are shown as they are. -/
theorem IsReadable.escape_eq {c : Char} (h : IsReadable c) (hquote : c ≠ '"') (hescape : c ≠ '\\')
    (hline : c ≠ '\n') (htab : c ≠ '\t') : Text.escape c = [c] := by
  unfold IsReadable at h
  unfold Text.escape at h ⊢
  split at h
  · simp at h
  · exact absurd rfl htab
  · simp at h
  · exact absurd rfl hline
  · exact absurd rfl hquote
  · exact absurd rfl hescape
  · split at h
    · simp [Text.codePointEscape] at h
    · next hvisible => simp [hvisible]

/-- The characters of a quoted text stand between quotes for the text. -/
theorem quotes_flatMap_escape {cs : List Char} (h : ∀ c ∈ cs, IsReadable c) :
    Quotes '"' (cs.flatMap Text.escape) cs := by
  induction cs with
  | nil => exact .nil
  | cons c cs ih =>
      have hmore := ih fun d hd => h d (by simp [hd])
      rw [List.flatMap_cons]
      by_cases hspecial : c = '"' ∨ c = '\\' ∨ c = '\n' ∨ c = '\t'
      · rcases hspecial with rfl | rfl | rfl | rfl
        · exact hmore.escaped
        · exact hmore.escaped
        · exact hmore.escaped
        · exact hmore.escaped
      · obtain ⟨hquote, hescape, hline, htab⟩ : c ≠ '"' ∧ c ≠ '\\' ∧ c ≠ '\n' ∧ c ≠ '\t' := by
          tauto
        rw [(h c (by simp)).escape_eq hquote hescape hline htab]
        exact .plain hquote hescape hmore

theorem isWordChar_of_isLayoutChar {c : Char} (h : Decimal.isLayoutChar c = true) :
    isWordChar c = true := by
  have hblank : Text.isWhiteSpace c = false := by
    have hnext : c.toNat ≠ 0x85 := by
      intro hc
      obtain rfl : c = '\u0085' := Char.toNat_inj.1 hc
      exact absurd h (by decide)
    simp [Text.isWhiteSpace, Decimal.not_trimmable_of_isLayoutChar h, hnext]
  have hcomma : c ≠ ',' := by
    rintro rfl
    exact absurd h (by decide)
  have hclose : c ≠ ']' := by
    rintro rfl
    exact absurd h (by decide)
  simp [isWordChar, hblank, hcomma, hclose]

variable {printer : DecimalPrinter}

/-- The plain text of a number is its literal. -/
theorem denotes_plain (hprinter : printer.Documented) (x : Double) :
    Denotes false (printer.plain x) (.number x.unsignedZero) := by
  have hvalue := (x.read_plain hprinter).1
  cases x with
  | nan =>
      rw [hprinter.nan]
      exact .keyword .nan
  | infinite negative =>
      rw [← hvalue, hprinter.infinite]
      apply Denotes.number
      · cases negative <;> decide +kernel
      · rw [← List.all_eq_true]
        cases negative <;> decide +kernel
      · cases negative <;> decide +kernel
  | finite negative m =>
      obtain ⟨d, hwell, -, hplain⟩ := hprinter.plain_finite negative m
      have hspells := Decimal.spells_plainChars hwell
      rw [hplain] at hvalue ⊢
      rw [← hvalue]
      apply Denotes.number
      · exact hspells.signed_ne_nil _
      · exact fun c hc => isWordChar_of_isLayoutChar (hspells.signed_isLayoutChar _ c hc)
      · rw [hvalue, Double.unsignedZero_finite]
        rfl

/-- The shown elements of an array, from one of them on. -/
theorem elements_shown {v : Value} {vs : List Value}
    (hv : Denotes false (v.shown printer).toList v.unsignedZeros)
    (hvs : ∀ w ∈ vs, Denotes false (w.shown printer).toList w.unsignedZeros) {before : List Char}
    (hbefore : Blanks before) :
    Elements false
      (before ++ (v.shown printer).toList ++
        vs.flatMap fun w => ',' :: ' ' :: (w.shown printer).toList)
      (Value.unsignedElements (v :: vs)) := by
  have hblank : Blanks [' '] := by
    intro c hc
    obtain rfl : c = ' ' := by simpa using hc
    decide
  induction vs generalizing v before with
  | nil =>
      rw [List.flatMap_nil]
      exact .last (.present hbefore hv blanks_nil)
  | cons w vs ih =>
      have hmore := ih (hvs w (by simp)) (fun u hu => hvs u (by simp [hu])) hblank
      have hfirst := Element.present hbefore hv blanks_nil
      rw [Value.unsignedElements]
      simpa using Elements.more hfirst hmore

/-- The text that shows a value is the literal of the value. -/
theorem denotes_shown (hprinter : printer.Documented) {v : Value} (h : HasLiteral v) :
    Denotes false (v.shown printer).toList v.unsignedZeros := by
  induction h with
  | undefined => exact .keyword .undefined
  | null => exact .keyword .null
  | boolean b =>
      cases b with
      | true => exact .keyword .trueWord
      | false => exact .keyword .falseWord
  | number x =>
      have htext : ((Value.number x).shown printer).toList = printer.plain x := by
        simp [Value.shown, Value.scalarText, Double.text]
      rw [htext]
      exact denotes_plain hprinter x
  | @string s hs =>
      have hstring := @Denotes.string false _ _ _ (Or.inl rfl) (quotes_flatMap_escape hs)
      rw [String.ofList_toList] at hstring
      rw [Value.shown, Text.quoted, String.toList_ofList]
      exact hstring
  | @array vs _ ih =>
      cases vs with
      | nil =>
          rw [Value.shown]
          exact .emptyList blanks_nil
      | cons v vs =>
          have hrest : ∀ w ∈ vs, Denotes false (w.shown printer).toList w.unsignedZeros :=
            fun w hw => ih w (by simp [hw])
          have helements := elements_shown (ih v (by simp)) hrest blanks_nil
          have hlist : Denotes false _ (.array (Value.unsignedElements (v :: vs))) :=
            .list helements fun hfalse => absurd hfalse Bool.false_ne_true
          rw [Value.shown, Value.toList_showOnto, Value.unsignedZeros]
          simpa using hlist

/-- The text that shows a value is read as the value, at any depth of arrays; only negative zeros
lose their sign. -/
theorem read_shown (hprinter : printer.Documented) {v : Value} (h : HasLiteral v) :
    read (v.shown printer) = .ok v.unsignedZeros :=
  read_of_spells ⟨[], _, [], blanks_nil, denotes_shown hprinter h, blanks_nil, by simp⟩

/-- A list in a list, a text full of marks, and the numbers that need care. -/
theorem read_shown_nested :
    let text := Value.string "],\"\\\n\t["
    let v := Value.array [.array [], .array [.number .negativeZero, text], .number .nan, .undefined]
    DecimalPrinter.standard.Documented ∧ HasLiteral v ∧
      read v.shown =
        .ok (.array [.array [], .array [.number .zero, text], .number .nan, .undefined]) := by
  intro text v
  have htext : HasLiteral text := by
    have hreadable : "],\"\\\n\t[".toList.all (fun c => decide (IsReadable c)) = true := by
      decide +kernel
    exact .string fun c hc => of_decide_eq_true (List.all_eq_true.1 hreadable c hc)
  have hpair : HasLiteral (.array [.number .negativeZero, text]) := by
    apply HasLiteral.array
    intro u hu
    rcases List.mem_pair.1 hu with rfl | rfl
    · exact .number _
    · exact htext
  have hv : HasLiteral v := by
    apply HasLiteral.array
    intro u hu
    simp only [List.mem_cons, List.not_mem_nil, or_false] at hu
    rcases hu with rfl | rfl | rfl | rfl
    · exact .array (by simp)
    · exact hpair
    · exact .number _
    · exact .undefined
  have hprinter := DecimalPrinter.standard_documented
  exact ⟨hprinter, hv, read_shown hprinter hv⟩

end Literal

end ScriptValues
