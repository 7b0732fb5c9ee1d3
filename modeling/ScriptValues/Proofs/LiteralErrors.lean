import ScriptValues.Proofs.LiteralGrammar

/-!
Places of errors. Reading fails where a value, a closing quote or a mark between elements is missing,
where a word is no literal, and where something follows the literal. The offset of an error is the
end of the text, or else the place of what was found instead.
-/

namespace ScriptValues

namespace Literal

/-- The bytes of a text. -/
def byteSize (cs : List Char) : Nat := (String.ofList cs).utf8ByteSize

/-- A text that is read before a value is due: nothing before the whole literal, and otherwise the
lists that were opened, with the elements in front of the one that is next. -/
inductive Due : (nested : Bool) → List Char → Prop
  | whole : Due false []
  | first {nested : Bool} {front between : List Char} :
      Due nested front → Blanks between → Due true (front ++ between ++ ['['])
  | next {front element : List Char} {v : Value} :
      Due true front → Element true element v → Due true (front ++ element ++ [','])

/-- The errors that a text has, each with the place where reading it stops. -/
inductive ErrorAt (source : String) : LiteralError → Prop
  /-- The text ends where a value is due. -/
  | valueMissing {nested : Bool} {front between : List Char} :
      Due nested front → Blanks between → source.toList = front ++ between →
        ErrorAt source ⟨.expectedLiteral, source.utf8ByteSize⟩
  /-- The text ends inside of a string. -/
  | stringOpen {nested : Bool} {front between inside : List Char} {quote : Char} :
      Due nested front → Blanks between → quote = '"' ∨ quote = '\'' →
        (∀ body text rest, Quotes quote body text → inside ≠ body ++ quote :: rest) →
        source.toList = front ++ between ++ quote :: inside →
        ErrorAt source ⟨.unterminatedString, source.utf8ByteSize⟩
  /-- The text ends after an element. -/
  | listOpen {front element : List Char} {v : Value} :
      Due true front → Spells true (String.ofList element) v → source.toList = front ++ element →
        ErrorAt source ⟨.expectedSeparator, source.utf8ByteSize⟩
  /-- A character after an element is no comma and no closing bracket. It is passed over. -/
  | separatorMissing {front element rest : List Char} {v : Value} {c : Char} :
      Due true front → Spells true (String.ofList element) v →
        Text.isWhiteSpace c = false → c ≠ ',' → c ≠ ']' →
        source.toList = front ++ element ++ [c] ++ rest →
        ErrorAt source ⟨.expectedSeparator, byteSize (front ++ element ++ [c])⟩
  /-- A word has no value. Its start is the place of the error. -/
  | wordUnknown {nested : Bool} {front between word rest : List Char} :
      Due nested front → Blanks between → word ≠ [] → word.head?.any isMark = false →
        (∀ c ∈ word, isWordChar c = true) → StopsWord rest → wordValue? word = none →
        source.toList = front ++ between ++ (word ++ rest) →
        ErrorAt source ⟨.notALiteral, byteSize (front ++ between)⟩
  /-- More than blanks follows the literal. -/
  | moreFollows {front rest : List Char} {v : Value} {c : Char} :
      Element true front v → Text.isWhiteSpace c = false → source.toList = front ++ c :: rest →
        byteSize front < source.utf8ByteSize →
        ErrorAt source ⟨.trailingInput, byteSize front⟩

/-- A failure with the offset of its place in a text. -/
def Failure.error (f : Failure) (source : String) : LiteralError :=
  ⟨f.problem, offsetOf source f.rest⟩

section Places

variable {source : String} {front cs : List Char}

theorem offsetOf_append (h : source.toList = front ++ cs) :
    offsetOf source cs = byteSize front := by
  have hsource : source = String.ofList front ++ String.ofList cs := by
    rw [← String.ofList_append, ← h, String.ofList_toList]
  rw [offsetOf, byteSize, hsource, String.utf8ByteSize_append, Nat.add_sub_cancel]

theorem isValid_byteSize (h : source.toList = front ++ cs) :
    String.Pos.Raw.IsValid source ⟨byteSize front⟩ := by
  rw [← offsetOf_append h]
  exact isValid_offsetOf ⟨front, h.symm⟩

theorem isValid_utf8ByteSize (source : String) :
    String.Pos.Raw.IsValid source ⟨source.utf8ByteSize⟩ := by
  rw [← offsetOf_nil source]
  exact isValid_offsetOf List.nil_suffix

/-- An error is at a place between characters, or at an end of the text. -/
theorem ErrorAt.isValid {e : LiteralError} (h : ErrorAt source e) :
    String.Pos.Raw.IsValid source ⟨e.offset⟩ := by
  cases h with
  | valueMissing => exact isValid_utf8ByteSize source
  | stringOpen => exact isValid_utf8ByteSize source
  | listOpen => exact isValid_utf8ByteSize source
  | separatorMissing _ _ _ _ _ hsource => exact isValid_byteSize hsource
  | wordUnknown _ _ _ _ _ _ _ hsource => exact isValid_byteSize hsource
  | moreFollows _ _ hsource _ => exact isValid_byteSize hsource

theorem readString_error {quote : Char} {read : List Char} {f : Failure}
    (h : readString quote read cs = .error f) : f = ⟨.unterminatedString, []⟩ := by
  fun_induction readString quote read cs with
  | case1 => exact (Except.error.inj h).symm
  | case2 => exact (Except.error.inj h).symm
  | case3 read c cs ih => exact ih h
  | case4 => cases h
  | case5 read c cs _ _ _ ih => exact ih h

/-- Only before a comma or a bracket is nothing read as an element. -/
theorem Found.spells {v : Value} {rest : List Char} (h : Found cs v rest)
    (hrest : ¬ Delimits (skipBlanks rest)) :
    ∃ element, Spells true (String.ofList element) v ∧ cs = element ++ skipBlanks rest := by
  obtain ⟨before, lit, hbefore, rfl, hlit⟩ := h
  rcases hlit with hlit | ⟨-, -, hdelimits⟩
  · obtain ⟨after, hafter, hsplit⟩ := exists_blanks_append rest
    refine ⟨before ++ lit ++ after, ⟨before, lit, after, hbefore, hlit, hafter, ?_⟩, ?_⟩
    · exact String.toList_ofList
    · rw [List.append_assoc (before ++ lit), ← hsplit]
  · rw [hdelimits.skipBlanks_eq] at hrest
    exact absurd hdelimits hrest

/-- A word without a value is not empty. -/
theorem isWordChar_of_wordValue? {c : Char}
    (h : wordValue? ((c :: cs).takeWhile isWordChar) = none) : isWordChar c = true := by
  cases hword : isWordChar c with
  | true => rfl
  | false =>
      rw [List.takeWhile_cons_of_neg (by simp [hword])] at h
      cases h

end Places

section Errors

variable {source : String} {nested : Bool} {front between cs : List Char} {f : Failure}

/-- A string that is not closed lasts to the end of the text. -/
theorem errorAt_of_readString {quote : Char} (hquote : quote = '"' ∨ quote = '\'')
    (h : readString quote [] cs = .error f) (hdue : Due nested front) (hbetween : Blanks between)
    (hsource : source.toList = front ++ between ++ quote :: cs) :
    ErrorAt source (f.error source) := by
  have hunclosed : ∀ body text rest, Quotes quote body text → cs ≠ body ++ quote :: rest := by
    rintro body text rest hquotes rfl
    rw [hquotes.readString_eq (quote_ne_backslash hquote)] at h
    cases h
  rw [readString_error h, Failure.error, offsetOf_nil]
  exact .stringOpen hdue hbetween hquote hunclosed hsource

/-- A word that is no literal is what stands up to the next blank, comma or closing bracket. -/
theorem errorAt_of_readWord {c : Char} (hmark : isMark c = false)
    (h : readWord (c :: cs) = .error f) (hdue : Due nested front) (hbetween : Blanks between)
    (hsource : source.toList = front ++ between ++ c :: cs) :
    ErrorAt source (f.error source) := by
  rw [readWord] at h
  split at h
  · cases h
  · next hvalue =>
    cases h
    have hstart := isWordChar_of_wordValue? hvalue
    have hword : ∀ d ∈ (c :: cs).takeWhile isWordChar, isWordChar d = true :=
      fun d hd => List.mem_takeWhile_imp hd
    have hrest : StopsWord ((c :: cs).dropWhile isWordChar) := by
      intro d hd
      have hstop := List.head?_dropWhile_not isWordChar (c :: cs)
      rw [hd] at hstop
      simpa using hstop
    have hsplit : (c :: cs).takeWhile isWordChar ++ (c :: cs).dropWhile isWordChar = c :: cs :=
      List.takeWhile_append_dropWhile
    rw [Failure.error, offsetOf_append hsource]
    refine .wordUnknown hdue hbetween ?_ ?_ hword hrest hvalue (hsplit.symm ▸ hsource)
    · simp [hstart]
    · simpa [hstart] using hmark

/-- An element that is followed by nothing, or by something else than a comma or the closing
bracket. -/
theorem errorAt_of_found {v : Value} {after : List Char} (hfound : Found cs v after)
    (hdue : Due true front) (hsource : source.toList = front ++ cs) :
    (skipBlanks after = [] → ErrorAt source ⟨.expectedSeparator, offsetOf source []⟩) ∧
    ∀ c rest, skipBlanks after = c :: rest → c ≠ ',' → c ≠ ']' →
      ErrorAt source ⟨.expectedSeparator, offsetOf source rest⟩ := by
  constructor
  · intro hend
    have hdelimits : ¬ Delimits (skipBlanks after) := by
      rw [hend]
      rintro ⟨d, rest, hrest, -⟩
      cases hrest
    obtain ⟨element, hspells, rfl⟩ := hfound.spells hdelimits
    rw [hend, List.append_nil] at hsource
    rw [offsetOf_nil]
    exact .listOpen hdue hspells hsource
  · intro c rest hskip hcomma hclose
    have hdelimits : ¬ Delimits (skipBlanks after) := by
      rw [hskip]
      rintro ⟨d, tail, htail, hd⟩
      cases htail
      exact hd.elim hcomma hclose
    obtain ⟨element, hspells, rfl⟩ := hfound.spells hdelimits
    have hsplit : source.toList = front ++ element ++ [c] ++ rest := by
      rw [hsource, hskip]
      simp
    rw [offsetOf_append hsplit]
    exact .separatorMissing hdue hspells (skipBlanks_head hskip) hcomma hclose hsplit

/-- An error of a reading of one value, given the errors of readings with a smaller bound. -/
private theorem errorAt_of_readValue_succ {bound : Nat}
    (ih : ∀ read cs f front, 2 * cs.length + 3 ≤ bound → readElements bound read cs = .error f →
      Due true front → source.toList = front ++ cs → ErrorAt source (f.error source))
    (hbound : 2 * cs.length + 1 ≤ bound) (h : readValue (bound + 1) cs = .error f)
    (hdue : Due nested front) (hsource : source.toList = front ++ cs) :
    ErrorAt source (f.error source) := by
  obtain ⟨between, hbetween, hcs⟩ := exists_blanks_append cs
  rw [← readValue_skipBlanks] at h
  rw [hcs, ← List.append_assoc] at hsource
  rcases skipBlanks_cases cs with
    hskip | ⟨tail, hskip⟩ | ⟨quote, tail, hquote, hskip⟩ | ⟨c, tail, hblank, hmark, hskip⟩
  · rw [hskip] at h hsource
    cases h
    rw [List.append_nil] at hsource
    rw [Failure.error, offsetOf_nil]
    exact .valueMissing hdue hbetween hsource
  · have htail := length_of_skipBlanks hskip
    rw [hskip] at h hsource
    rw [readValue_open] at h
    split at h
    · cases h
    · refine ih [] tail f _ (by omega) h (hdue.first hbetween) ?_
      rw [hsource, List.append_assoc _ ['['], List.singleton_append]
  · rw [hskip] at h hsource
    rw [readValue_string hquote] at h
    cases hstring : readString quote [] tail with
    | ok reading =>
        rw [hstring] at h
        cases h
    | error e =>
        rw [hstring] at h
        cases h
        exact errorAt_of_readString hquote hstring hdue hbetween hsource
  · rw [hskip] at h hsource
    rw [readValue_word hblank hmark] at h
    exact errorAt_of_readWord hmark h hdue hbetween hsource

/-- An error of a reading is one of the text, given that a value was due. -/
theorem errorAt_of_read (source : String) (bound : Nat) :
    (∀ cs f nested front, 2 * cs.length + 2 ≤ bound → readValue bound cs = .error f →
      Due nested front → source.toList = front ++ cs → ErrorAt source (f.error source)) ∧
    ∀ read cs f front, 2 * cs.length + 3 ≤ bound → readElements bound read cs = .error f →
      Due true front → source.toList = front ++ cs → ErrorAt source (f.error source) := by
  induction bound with
  | zero =>
      exact ⟨fun cs _ _ _ hbound => by omega, fun _ cs _ _ hbound => by omega⟩
  | succ bound ih =>
      obtain ⟨hvalue, helements⟩ := ih
      constructor
      · intro cs f nested front hbound h hdue hsource
        exact errorAt_of_readValue_succ helements (by omega) h hdue hsource
      · intro read cs f front hbound h hdue hsource
        rw [readElements] at h
        split at h
        · next hfirst =>
          cases h
          exact hvalue cs _ true front (by omega) hfirst hdue hsource
        · next v after hfirst =>
          have hfound := (found_of_read bound).1 _ _ _ hfirst
          have hafter := ((suffix_of_read bound).1 _ _ _ hfirst).length_le
          split at h
          · next more hcomma =>
            obtain ⟨one, hone, rfl⟩ := hfound.element hcomma
            have hmore := length_of_skipBlanks hcomma
            refine helements _ more f _ (by omega) h (hdue.next hone) ?_
            rw [hsource]
            simp
          · cases h
          · next c more hcomma hclose hskip =>
            cases h
            exact (errorAt_of_found hfound hdue hsource).2 c more hskip hcomma hclose
          · next hend =>
            cases h
            exact (errorAt_of_found hfound hdue hsource).1 hend

theorem rest_of_readWhole {bound : Nat} {cs rest : List Char} {v : Value}
    (h : readWhole bound cs = .ok (v, rest)) : rest = [] := by
  rw [readWhole] at h
  split at h
  · cases h
  · split at h
    · cases h
      rfl
    · cases h

/-- An error of a whole reading is one of the text. -/
theorem errorAt_of_readWhole {f : Failure}
    (h : readWhole (2 * source.toList.length + 2) source.toList = .error f) :
    ErrorAt source (f.error source) := by
  rw [readWhole] at h
  split at h
  · next hvalue =>
    cases h
    exact (errorAt_of_read source _).1 _ _ false [] (Nat.le_refl _) hvalue .whole rfl
  · next v after hvalue =>
    have hfound := (found_of_read _).1 _ _ _ hvalue
    cases hskip : skipBlanks after with
    | nil =>
        rw [hskip] at h
        cases h
    | cons c more =>
        rw [hskip] at h
        cases h
        obtain ⟨front, hfront, hsource⟩ := hfound.element hskip
        have hinside : offsetOf source (c :: more) < source.utf8ByteSize := by
          have hcons := offsetOf_cons (⟨front, hsource.symm⟩ : c :: more <:+ source.toList)
          have hle : offsetOf source more ≤ source.utf8ByteSize := Nat.sub_le _ _
          have hpos := c.utf8Size_pos
          omega
        rw [offsetOf_append hsource] at hinside
        rw [Failure.error, offsetOf_append hsource]
        exact .moreFollows hfront (skipBlanks_head hskip) hsource hinside

end Errors

/-- Reading comes to an end without using up its bound and without an offset inside of a character.
An error is one that the text has: its offset is the end of the text where this ends too early, the
start of a word without a value, the place right after a character that should be a comma or a
bracket, or the place of what follows the literal, and never inside of a character. -/
theorem read_places_errors (source : String) (extra : Nat) :
    let outcome := (Reader.whole source (2 * source.length + 2 + extra)).run 0
    match read source with
    | .ok v => outcome = .ok (v, source.utf8ByteSize)
    | .error e =>
      outcome = .error (.problem e) ∧ String.Pos.Raw.IsValid source ⟨e.offset⟩ ∧
        ErrorAt source e := by
  have hrun := Reader.whole_run source
    (Nat.le_add_right (2 * source.toList.length + 2) extra)
  rw [String.length_toList] at hrun
  dsimp only
  rw [hrun, read_eq, String.length_toList]
  cases hread : readWhole (2 * source.length + 2) source.toList with
  | error f =>
      rw [← String.length_toList] at hread
      have herror := errorAt_of_readWhole hread
      exact ⟨rfl, herror.isValid, herror⟩
  | ok reading =>
      obtain ⟨v, rest⟩ := reading
      obtain rfl := rest_of_readWhole hread
      exact congrArg (fun offset => Except.ok (v, offset)) (offsetOf_nil source)

end Literal

end ScriptValues
