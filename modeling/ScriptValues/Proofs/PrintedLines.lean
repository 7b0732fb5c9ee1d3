import ScriptValues.CommandLine
import ScriptValues.Proofs.LiteralText

/-!
Output in whole lines. Literals make texts, numbers and lists only, and what shows one of these has
no line break in it, whatever characters its texts hold. So the lines of the output can be counted:
literals are inspected in five lines each, up to the first text that is none, and an operation on
two operands prints its result only if both are literals.
-/

namespace ScriptValues

/-- A row of a table is read from its characters. -/
theorem CodeTable.entries_ofList_cons (row : List Char) (table : List String) :
    entries (String.ofList row :: table) = (fields ' ' row).map readEntry ++ entries table := by
  rw [entries, List.flatMap_cons, String.toList_ofList]
  rfl

namespace Text

/-- The characters that start a new line on some device or for some reader. -/
def lineBreaks : List Char := ['\n', '\x0b', '\x0c', '\r', '\x85', '\u2028', '\u2029']

def isLineBreak (c : Char) : Bool := lineBreaks.contains c

/-- Characters without a line break among them. -/
def OnOneLine (cs : List Char) : Prop := ∀ c ∈ cs, isLineBreak c = false

instance (cs : List Char) : Decidable (OnOneLine cs) := List.decidableBAll _ cs

theorem OnOneLine.append {cs ds : List Char} (hcs : OnOneLine cs) (hds : OnOneLine ds) :
    OnOneLine (cs ++ ds) := by
  intro c hc
  exact (List.mem_append.1 hc).elim (hcs c) (hds c)

theorem OnOneLine.toList_append {s t : String} (hs : OnOneLine s.toList)
    (ht : OnOneLine t.toList) : OnOneLine (s ++ t).toList := by
  rw [String.toList_append]
  exact hs.append ht

theorem isLineBreak_digitChar {d : Nat} (hd : d < 16) :
    isLineBreak (Numeral.digitChar d) = false := by
  have hall : ∀ d < 16, isLineBreak (Numeral.digitChar d) = false := by decide
  exact hall d hd

theorem codePointEscape_onOneLine (c : Char) : OnOneLine (codePointEscape c) := by
  have hstart : OnOneLine ['\\', 'u', '\x7b'] := by decide
  have hdigits : OnOneLine (Numeral.natChars 16 c.toNat) := by
    intro d hd
    rw [Numeral.natChars_eq] at hd
    obtain ⟨digit, hdigit, rfl⟩ := List.mem_map.1 hd
    exact isLineBreak_digitChar (Numeral.shownDigits_lt (by decide) hdigit)
  exact (hstart.append hdigits).append (by decide)

theorem isLineBreak_iff (c : Char) : isLineBreak c = true ↔ c ∈ lineBreaks := by
  rw [isLineBreak, List.contains_iff_mem]

/-- Line breaks have no picture of their own. -/
theorem isInvisible_of_isLineBreak {c : Char} (h : isLineBreak c = true) : isInvisible c = true := by
  have hall : lineBreaks.all isInvisible = true := by
    unfold isInvisible invisibleRanges invisibleTable
    repeat rw [CodeTable.entries_ofList_cons]
    decide +kernel
  exact List.all_eq_true.1 hall c ((isLineBreak_iff c).1 h)

theorem escape_onOneLine (c : Char) : OnOneLine (escape c) := by
  unfold escape
  split
  · decide
  · decide
  · decide
  · decide
  · decide
  · decide
  · split
    · exact codePointEscape_onOneLine c
    · next hvisible =>
      have hbreak : isLineBreak c ≠ true := fun hbreak =>
        hvisible (isInvisible_of_isLineBreak hbreak)
      exact List.forall_mem_singleton.2 (Bool.eq_false_iff.2 hbreak)

theorem quoted_onOneLine (s : String) : OnOneLine (quoted s).toList := by
  have hescaped : OnOneLine (s.toList.flatMap escape) := by
    intro c hc
    obtain ⟨d, -, hd⟩ := List.mem_flatMap.1 hc
    exact escape_onOneLine d c hd
  have hquote : OnOneLine ['"'] := by decide
  rw [quoted, String.toList_ofList]
  exact (hquote.append hescaped).append hquote

end Text

theorem Literal.not_lineBreak_of_isWordChar {c : Char} (h : isWordChar c = true) :
    Text.isLineBreak c = false := by
  apply Bool.eq_false_iff.2
  intro hbreak
  have hblanks : Text.lineBreaks.all Text.isWhiteSpace = true := by decide
  have hblank := List.all_eq_true.1 hblanks c ((Text.isLineBreak_iff c).1 hbreak)
  rw [not_blank_of_isWordChar h] at hblank
  cases hblank

/-- The text of a number is a word. -/
theorem Double.text_onOneLine {printer : DecimalPrinter} (hprinter : printer.Documented)
    (x : Double) : Text.OnOneLine (x.text printer).toList := by
  have hword : ∀ c ∈ printer.plain x, Literal.isWordChar c = true := by
    have hdenotes := Literal.denotes_plain hprinter x
    generalize x.unsignedZero = y at hdenotes
    generalize printer.plain x = cs at hdenotes
    cases hdenotes with
    | keyword hkeyword => exact hkeyword.isWordChar
    | number _ hword _ => exact hword
  intro c hc
  rw [text, String.toList_ofList] at hc
  exact Literal.not_lineBreak_of_isWordChar (hword c hc)

namespace Value

/-- The values made of words, texts and lists: no symbols, objects or functions anywhere in them. -/
inductive HoldsData : Value → Prop
  | undefined : HoldsData .undefined
  | null : HoldsData .null
  | boolean (b : Bool) : HoldsData (.boolean b)
  | number (x : Double) : HoldsData (.number x)
  | string (s : String) : HoldsData (.string s)
  | array {vs : List Value} : (∀ v ∈ vs, HoldsData v) → HoldsData (.array vs)

theorem boolean_text_onOneLine (b : Bool) : Text.OnOneLine (Value.boolean b).text.toList := by
  cases b <;> decide +kernel

theorem typeName_onOneLine (v : Value) : Text.OnOneLine v.typeName.toList := by
  rw [typeName]
  cases v.kind <;> decide +kernel

/-- Data are shown without line breaks. -/
theorem HoldsData.shown_onOneLine {v : Value} (h : HoldsData v) : Text.OnOneLine v.shown.toList := by
  induction h with
  | undefined => decide +kernel
  | null => decide +kernel
  | boolean b => exact boolean_text_onOneLine b
  | number x => exact x.text_onOneLine DecimalPrinter.standard_documented
  | string s => exact Text.quoted_onOneLine s
  | @array vs _ ih =>
      cases vs with
      | nil => decide +kernel
      | cons v vs =>
          have hopen : Text.OnOneLine "[".toList := by decide +kernel
          have hmarks : Text.OnOneLine [',', ' '] := by decide
          have hrest : Text.OnOneLine (vs.flatMap fun w => ',' :: ' ' :: w.shown.toList) := by
            intro c hc
            obtain ⟨w, hw, hc⟩ := List.mem_flatMap.1 hc
            exact hmarks.append (ih w (by simp [hw])) c hc
          rw [shown, toList_showOnto]
          exact ((hopen.toList_append (ih v (by simp))).append hrest).append (by decide)

/-- A sum is a text or a number, so it is shown without line breaks whatever was added. -/
theorem add_shown_onOneLine (v w : Value) : Text.OnOneLine (v.add w).shown.toList := by
  have hdata : HoldsData (v.add w) := by
    rw [add]
    split
    · exact .string _
    · exact .number _
  exact hdata.shown_onOneLine

theorem HoldsData.inspection_onOneLine {v : Value} (h : HoldsData v) :
    ∀ line ∈ v.inspection, Text.OnOneLine line.toList := by
  have hlabel : ∀ label ∈ ["  typeof    ", "  ToNumber  ", "  ToString  ", "  ToBoolean "],
      Text.OnOneLine label.toList := by decide +kernel
  intro line hline
  simp only [inspection, List.mem_cons, List.not_mem_nil, or_false] at hline
  rcases hline with rfl | rfl | rfl | rfl | rfl
  · exact h.shown_onOneLine
  · exact (hlabel _ (by simp)).toList_append v.typeName_onOneLine
  · exact (hlabel _ (by simp)).toList_append
      (v.toNumber.text_onOneLine DecimalPrinter.standard_documented)
  · exact (hlabel _ (by simp)).toList_append (Text.quoted_onOneLine _)
  · exact (hlabel _ (by simp)).toList_append (boolean_text_onOneLine _)

end Value

namespace Literal

open Value

/-- Literals denote data. -/
theorem Denotes.holdsData {gaps : Bool} {cs : List Char} {v : Value} (h : Denotes gaps cs v) :
    v.HoldsData := by
  -- by induction on the grammar; what holds of a value holds of each element of a list
  refine @Denotes.rec gaps (fun _ v _ => v.HoldsData) (fun _ vs _ => ∀ v ∈ vs, v.HoldsData)
    (fun _ v _ => v.HoldsData) ?keyword ?number ?string ?emptyList ?list ?last ?more ?present
    ?missing cs v h
  case keyword =>
    intro word v hkeyword
    cases hkeyword with
    | undefined => exact .undefined
    | null => exact .null
    | trueWord => exact .boolean true
    | falseWord => exact .boolean false
    | nan => exact .number .nan
  case number => exact fun _ _ _ => .number _
  case string => exact fun _ _ => .string _
  case emptyList => exact fun _ => .array (by simp)
  case list => exact fun _ _ hall => .array hall
  case last => exact fun _ hlast => List.forall_mem_singleton.2 hlast
  case more => exact fun _ _ hfirst hmore => List.forall_mem_cons.2 ⟨hfirst, hmore⟩
  case present => exact fun _ _ _ hlit => hlit
  case missing => exact fun _ _ => .number .zero

/-- Only data can be read. -/
theorem holdsData_of_read {source : String} {v : Value} (h : read source = .ok v) :
    v.HoldsData := by
  obtain ⟨_, _, _, -, hlit, -, -⟩ := spells_of_read h
  exact hlit.holdsData

/-- Whether a text is a literal. -/
def isLiteral (source : String) : Bool := (read source).isOk

end Literal

/-- What is wrong with a text, in words. -/
inductive LiteralProblem.Says : LiteralProblem → String → Prop
  | expectedLiteral : Says .expectedLiteral "expected a literal"
  | unterminatedString : Says .unterminatedString "unterminated string"
  | expectedSeparator : Says .expectedSeparator "expected ',' or ']'"
  | notALiteral : Says .notALiteral "not a literal"
  | trailingInput : Says .trailingInput "unexpected trailing input"

theorem LiteralProblem.says_message (problem : LiteralProblem) :
    problem.Says problem.message := by
  cases problem with
  | expectedLiteral => exact .expectedLiteral
  | unterminatedString => exact .unterminatedString
  | expectedSeparator => exact .expectedSeparator
  | notALiteral => exact .notALiteral
  | trailingInput => exact .trailingInput

namespace Report

/-- A report prints some lines: each of them with a line end, and no other line break. -/
structure Prints (r : Report) (lines : List String) : Prop where
  printed_eq : r.printed = String.join (lines.map (· ++ "\n"))
  breaks_eq : r.printed.toList.filter Text.isLineBreak = List.replicate lines.length '\n'

/-- A report of a command that was carried out. -/
structure Succeeds (r : Report) : Prop where
  exit_eq : r.exit = 0
  errors_eq : r.errors = []

/-- A report of a command that was given a text that is no literal: one line for the error, with what
is wrong in words and the offset in digits. -/
structure FailsWith (r : Report) (e : LiteralError) : Prop where
  exit_eq : r.exit = 1
  errors_eq : ∃ words, e.problem.Says words ∧
    r.errors = ["Error: LiteralError \x7b message: \"" ++ words ++ "\", offset: " ++
      toString e.offset ++ " \x7d"]

variable {r : Report} {lines : List String}

/-- The only line breaks of lines without any are their ends. -/
theorem filter_isLineBreak_join (h : ∀ line ∈ lines, Text.OnOneLine line.toList) :
    (String.join (lines.map (· ++ "\n"))).toList.filter Text.isLineBreak =
      List.replicate lines.length '\n' := by
  induction lines with
  | nil => rfl
  | cons line lines ih =>
      have hline : line.toList.filter Text.isLineBreak = [] :=
        List.filter_eq_nil_iff.2 fun c hc => by simp [h line (by simp) c hc]
      have hmore := ih fun other hother => h other (by simp [hother])
      have hend : ['\n'].filter Text.isLineBreak = ['\n'] := by decide
      rw [List.map_cons, String.join_cons, String.toList_append, String.toList_append,
        List.filter_append, List.filter_append, hline, hmore, List.length_cons,
        List.replicate_succ]
      exact congrArg (· ++ _) hend

theorem prints_of_output (houtput : r.output = lines.map .text)
    (h : ∀ line ∈ lines, Text.OnOneLine line.toList) : r.Prints lines := by
  have hprinted : r.printed = String.join (lines.map (· ++ "\n")) := by
    simp only [printed, houtput, List.map_map, Function.comp_def, Line.render_text]
  exact ⟨hprinted, by rw [hprinted, filter_isLineBreak_join h]⟩

theorem succeeds_success (output : List Line) : (success output).Succeeds := ⟨rfl, rfl⟩

theorem failsWith_failure (output : List Line) (e : LiteralError) :
    (failure output e).FailsWith e where
  exit_eq := rfl
  errors_eq := by
    refine ⟨_, e.problem.says_message, ?_⟩
    rw [← Numeral.natText_eq_toString]
    rfl

end Report

namespace Command

open Literal

/-- Inspection goes through the literals up to the first text that is none. -/
theorem inspectAll_eq (printed : List Line) (literals : List String) :
    ∃ vs : List Value, (literals.takeWhile isLiteral).map read = vs.map .ok ∧
      (literals.takeWhile isLiteral = literals ∧
          inspectAll printed literals =
            .success (printed ++ (vs.flatMap Value.inspection).map .text) ∨
        ∃ literal e, literals[(literals.takeWhile isLiteral).length]? = some literal ∧
          read literal = .error e ∧
          inspectAll printed literals =
            .failure (printed ++ (vs.flatMap Value.inspection).map .text) e) := by
  induction literals generalizing printed with
  | nil => exact ⟨[], rfl, Or.inl ⟨rfl, by simp [inspectAll]⟩⟩
  | cons literal literals ih =>
      cases hread : read literal with
      | error e =>
          have hstop : (literal :: literals).takeWhile isLiteral = [] := by
            simp [isLiteral, hread, Except.isOk, Except.toBool]
          rw [hstop]
          exact ⟨[], rfl, Or.inr ⟨literal, e, rfl, hread, by simp [inspectAll, hread]⟩⟩
      | ok v =>
          have hgo : (literal :: literals).takeWhile isLiteral =
              literal :: literals.takeWhile isLiteral := by
            simp [isLiteral, hread, Except.isOk, Except.toBool]
          obtain ⟨vs, hvs, hrest⟩ := ih (printed ++ v.inspection.map .text)
          rw [hgo]
          refine ⟨v :: vs, by rw [List.map_cons, hread, hvs, List.map_cons], ?_⟩
          simpa [inspectAll, hread] using hrest

/-- What is read is inspected without line breaks. -/
theorem inspections_onOneLine {literals : List String} {vs : List Value}
    (h : literals.map read = vs.map .ok) :
    ∀ line ∈ vs.flatMap Value.inspection, Text.OnOneLine line.toList := by
  intro line hline
  obtain ⟨v, hv, hmem⟩ := List.mem_flatMap.1 hline
  have hread : Except.ok v ∈ literals.map read := by
    rw [h]
    exact List.mem_map_of_mem hv
  obtain ⟨literal, -, hliteral⟩ := List.mem_map.1 hread
  exact (holdsData_of_read hliteral).inspection_onOneLine line hmem

theorem length_inspections (vs : List Value) :
    (vs.flatMap Value.inspection).length = 5 * vs.length := by
  rw [List.length_flatMap]
  simp [Value.inspection, Nat.mul_comm]

theorem equalityLines_onOneLine (v w : Value) :
    ∀ line ∈ equalityLines v w, Text.OnOneLine line.toList := by
  have hlabel : ∀ label ∈ ["==  ", "=== "], Text.OnOneLine label.toList := by decide +kernel
  intro line hline
  rcases List.mem_pair.1 hline with rfl | rfl
  · exact (hlabel _ (by simp)).toList_append (Value.boolean_text_onOneLine _)
  · exact (hlabel _ (by simp)).toList_append (Value.boolean_text_onOneLine _)

/-- What the commands on literals print. Inspection prints, for all literals in front of the first
text that is none, five lines each: the value as it is shown, its type, number, text and truth. It
fails with the error of that text if there is one. Addition and comparison print one and two lines
when both operands are literals, and nothing otherwise; then they fail with the error of the first
operand that is none. Whatever is printed, its only line breaks are the ends of these lines. -/
theorem run_literals (started stopped : Nat) :
    (∀ literals, ∃ vs : List Value, (literals.takeWhile isLiteral).map read = vs.map .ok ∧
      let report := (inspect literals).run started stopped
      let lines := vs.flatMap fun v => [v.shown, "  typeof    " ++ v.typeName,
        "  ToNumber  " ++ v.toNumber.text, "  ToString  " ++ Text.quoted v.text,
        "  ToBoolean " ++ (Value.boolean v.toBoolean).text]
      lines.length = 5 * (literals.takeWhile isLiteral).length ∧ report.Prints lines ∧
        (literals.takeWhile isLiteral = literals ∧ report.Succeeds ∨
          ∃ literal e, literals[(literals.takeWhile isLiteral).length]? = some literal ∧
            read literal = .error e ∧ report.FailsWith e)) ∧
    ∀ left right,
      let sum := (add left right).run started stopped
      let comparison := (eq left right).run started stopped
      match read left, read right with
      | .ok v, .ok w =>
        sum.Succeeds ∧ sum.Prints [(v.add w).shown] ∧
          comparison.Succeeds ∧
          comparison.Prints ["==  " ++ (Value.boolean (v.looselyEqual w)).text,
            "=== " ++ (Value.boolean (v.strictlyEqual w)).text]
      | .error e, _ | .ok _, .error e =>
        sum.FailsWith e ∧ sum.Prints [] ∧ comparison.FailsWith e ∧ comparison.Prints [] := by
  constructor
  · intro literals
    obtain ⟨vs, hvs, hrun⟩ := inspectAll_eq [] literals
    have hlength : (literals.takeWhile isLiteral).length = vs.length := by
      simpa using congrArg List.length hvs
    have hlines := inspections_onOneLine hvs
    refine ⟨vs, hvs, (length_inspections vs).trans (congrArg _ hlength.symm), ?_⟩
    rw [run]
    rcases hrun with ⟨hall, hrun⟩ | ⟨literal, e, hliteral, hread, hrun⟩
    · rw [hrun]
      exact ⟨Report.prints_of_output rfl hlines, Or.inl ⟨hall, Report.succeeds_success _⟩⟩
    · rw [hrun]
      exact ⟨Report.prints_of_output rfl hlines,
        Or.inr ⟨literal, e, hliteral, hread, Report.failsWith_failure _ e⟩⟩
  · intro left right
    have hnothing (e : LiteralError) : (Report.failure [] e).Prints [] :=
      Report.prints_of_output rfl (by simp)
    simp only [run, onOperands]
    split
    · next v w hv hw =>
      simp only [hv, hw]
      refine ⟨Report.succeeds_success _, ?_, Report.succeeds_success _, ?_⟩
      · apply Report.prints_of_output rfl
        simpa using v.add_shown_onOneLine w
      · exact Report.prints_of_output rfl (equalityLines_onOneLine v w)
    · next e hleft =>
      simp only [hleft]
      exact ⟨Report.failsWith_failure _ e, hnothing e, Report.failsWith_failure _ e, hnothing e⟩
    · next v e hleft hright =>
      simp only [hleft, hright]
      exact ⟨Report.failsWith_failure _ e, hnothing e, Report.failsWith_failure _ e, hnothing e⟩

end Command

end ScriptValues
