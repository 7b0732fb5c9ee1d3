import ScriptValues.Proofs.LiteralGrammar

/-!
Missing elements. One pass over the characters of a text, with a note of the last mark, finds the
commas that have no element on one side. Among the texts that are read, those without such a comma
are exactly the ones that spell every element of their lists.
-/

namespace ScriptValues

namespace Literal

/-- Where a pass over the characters of a text stands: outside of words and strings, with the mark
before if it asks for an element, or inside of one of them. -/
inductive Place
  | outside
  | opened
  | comma
  | word
  | quoted (quote : Char)
  | escaped (quote : Char)
  deriving DecidableEq

namespace Place

/-- The place after a character outside of words and strings. -/
def cross (p : Place) (c : Char) : Place :=
  if Text.isWhiteSpace c then p
  else if c = '[' then .opened
  else if c = ',' then .comma
  else if c = ']' then .outside
  else if c = '"' ∨ c = '\'' then .quoted c
  else .word

/-- The place after a character. -/
def next : Place → Char → Place
  | .outside, c => Place.outside.cross c
  | .opened, c => Place.opened.cross c
  | .comma, c => Place.comma.cross c
  | .word, c => if isWordChar c then .word else Place.outside.cross c
  | .quoted quote, c =>
    if c = '\\' then .escaped quote else if c = quote then .outside else .quoted quote
  | .escaped quote, _ => .quoted quote

/-- Whether a character stands where an element is missing. -/
def lacks (p : Place) (c : Char) : Bool :=
  match p with
  | .opened => c == ','
  | .comma => c == ',' || c == ']'
  | _ => false

/-- Outside of words and strings. -/
def isOutside : Place → Bool
  | .outside | .opened | .comma => true
  | _ => false

theorem next_of_isOutside {p : Place} (hp : p.isOutside = true) (c : Char) :
    p.next c = p.cross c := by
  cases p with
  | outside => rfl
  | opened => rfl
  | comma => rfl
  | word => cases hp
  | quoted quote => cases hp
  | escaped quote => cases hp

theorem lacks_eq_false (p : Place) {c : Char} (hcomma : c ≠ ',') (hclose : c ≠ ']') :
    p.lacks c = false := by
  cases p <;> simp [lacks, hcomma, hclose]

theorem cross_blank (p : Place) {c : Char} (hc : Text.isWhiteSpace c = true) : p.cross c = p := by
  simp [cross, hc]

theorem cross_word (p : Place) {c : Char} (hc : isWordChar c = true)
    (hmark : isMark c = false) : p.cross c = .word := by
  have hblank := not_blank_of_isWordChar hc
  simp [isWordChar] at hc
  simp [isMark] at hmark
  simp [cross, hblank, hc, hmark]

end Place

/-- Whether an element is missing in a text from a place on. -/
def gapFrom : Place → List Char → Bool
  | _, [] => false
  | p, c :: cs => p.lacks c || gapFrom (p.next c) cs

/-- Whether a text has a comma without an element before it or after it. -/
def hasGap (source : String) : Bool := gapFrom .outside source.toList

section Passes

variable {p : Place}

/-- Only commas and closing brackets can show that an element is missing. -/
theorem gapFrom_cons (hp : p.isOutside = true) {c : Char} (hcomma : c ≠ ',') (hclose : c ≠ ']')
    (cs : List Char) : gapFrom p (c :: cs) = gapFrom (p.cross c) cs := by
  rw [gapFrom, p.lacks_eq_false hcomma hclose, Bool.false_or, Place.next_of_isOutside hp]

theorem gapFrom_open (hp : p.isOutside = true) (cs : List Char) :
    gapFrom p ('[' :: cs) = gapFrom .opened cs :=
  gapFrom_cons hp (by decide) (by decide) cs

theorem gapFrom_quote (hp : p.isOutside = true) {quote : Char}
    (hquote : quote = '"' ∨ quote = '\'') (cs : List Char) :
    gapFrom p (quote :: cs) = gapFrom (.quoted quote) cs := by
  rcases hquote with rfl | rfl
  · exact gapFrom_cons hp (by decide) (by decide) cs
  · exact gapFrom_cons hp (by decide) (by decide) cs

theorem gapFrom_comma (cs : List Char) : gapFrom .outside (',' :: cs) = gapFrom .comma cs := rfl

theorem gapFrom_close (cs : List Char) : gapFrom .outside (']' :: cs) = gapFrom .outside cs := rfl

theorem gapFrom_word {word : List Char} (hword : ∀ c ∈ word, isWordChar c = true)
    {rest : List Char} (hrest : StopsWord rest) :
    gapFrom .word (word ++ rest) = gapFrom .outside rest := by
  induction word with
  | nil =>
      cases rest with
      | nil => rfl
      | cons c rest =>
          have hc : isWordChar c = false := hrest c rfl
          simp [gapFrom, Place.lacks, Place.next, hc]
  | cons c word ih =>
      have hc := hword c (by simp)
      have hmore := ih fun d hd => hword d (by simp [hd])
      simp [gapFrom, Place.lacks, Place.next, hc, hmore]

/-- A word has no gap. -/
theorem gapFrom_startWord (hp : p.isOutside = true) {word : List Char} (hnil : word ≠ [])
    (hword : ∀ c ∈ word, isWordChar c = true)
    (hmark : word.head?.any isMark = false) {rest : List Char} (hrest : StopsWord rest) :
    gapFrom p (word ++ rest) = gapFrom .outside rest := by
  cases word with
  | nil => exact absurd rfl hnil
  | cons c word =>
      have hc := hword c (by simp)
      have hcomma : c ≠ ',' := by
        rintro rfl
        exact absurd hc (by decide)
      have hclose : c ≠ ']' := by
        rintro rfl
        exact absurd hc (by decide)
      rw [List.cons_append, gapFrom_cons hp hcomma hclose, p.cross_word hc hmark]
      exact gapFrom_word (fun d hd => hword d (by simp [hd])) hrest

theorem gapFrom_quotes {quote : Char} (hquote : quote ≠ '\\') {body text : List Char}
    (h : Quotes quote body text) (rest : List Char) :
    gapFrom (.quoted quote) (body ++ quote :: rest) = gapFrom .outside rest := by
  induction h with
  | nil => simp [gapFrom, Place.lacks, Place.next, hquote]
  | plain hne hescape _ ih => simp [gapFrom, Place.lacks, Place.next, hne, hescape, ih]
  | escaped _ ih => simp [gapFrom, Place.lacks, Place.next, ih]

theorem Blanks.gapFrom_append (hp : p.isOutside = true) {before : List Char} (h : Blanks before)
    (cs : List Char) : gapFrom p (before ++ cs) = gapFrom p cs := by
  induction before with
  | nil => rfl
  | cons c before ih =>
      have hc := h c (by simp)
      have hcomma : c ≠ ',' := by
        rintro rfl
        exact absurd hc (by decide)
      have hclose : c ≠ ']' := by
        rintro rfl
        exact absurd hc (by decide)
      rw [List.cons_append, gapFrom_cons hp hcomma hclose, p.cross_blank hc]
      exact ih fun d hd => h d (by simp [hd])

end Passes

section Gaps

variable {gaps : Bool}

mutual

/-- A literal has a gap, or else it spells all elements and ends outside. -/
theorem Denotes.gapFrom_append {cs : List Char} {v : Value} (h : Denotes gaps cs v)
    {p : Place} (hp : p.isOutside = true) {rest : List Char} (hrest : StopsWord rest) :
    Denotes false cs v ∧ gapFrom p (cs ++ rest) = gapFrom .outside rest ∨
      gaps = true ∧ gapFrom p (cs ++ rest) = true := by
  cases h with
  | keyword hkeyword =>
      exact Or.inl ⟨.keyword hkeyword, gapFrom_startWord hp hkeyword.ne_nil hkeyword.isWordChar
        hkeyword.head_not_mark hrest⟩
  | number hnil hword hnumber =>
      exact Or.inl ⟨.number hnil hword hnumber, gapFrom_startWord hp hnil hword
        (head_not_mark_of_number hnumber) hrest⟩
  | string hquote hquotes =>
      refine Or.inl ⟨.string hquote hquotes, ?_⟩
      rw [List.cons_append, List.cons_append, List.append_assoc, gapFrom_quote hp hquote]
      exact gapFrom_quotes (quote_ne_backslash hquote) hquotes rest
  | @emptyList inside hinside =>
      refine Or.inl ⟨.emptyList hinside, ?_⟩
      rw [List.append_assoc, List.cons_append, gapFrom_open hp, hinside.gapFrom_append rfl]
      rfl
  | @list inside vs helements hblank =>
      -- an opening bracket asks for an element only if the list is not empty
      have hsome := helements.not_blanks hblank
      have hpassed : gapFrom p ('[' :: inside ++ [']'] ++ rest) =
          gapFrom .opened (inside ++ ']' :: rest) := by
        rw [List.append_assoc]
        exact gapFrom_open hp _
      rw [hpassed]
      rcases helements.gapFrom_append (Or.inl rfl) (fun hinside => absurd hinside hsome) rest with
        ⟨hall, hpass⟩ | hgap
      · exact Or.inl ⟨.list hall (fun _ => hsome), hpass⟩
      · exact Or.inr hgap

/-- Elements have a gap, or else all of them are there. -/
theorem Elements.gapFrom_append {cs : List Char} {vs : List Value} (h : Elements gaps cs vs)
    {p : Place} (hp : p = .opened ∨ p = .comma) (hdue : Blanks cs → p = .comma) (rest : List Char) :
    Elements false cs vs ∧ gapFrom p (cs ++ ']' :: rest) = gapFrom .outside rest ∨
      gaps = true ∧ gapFrom p (cs ++ ']' :: rest) = true := by
  have houtside : p.isOutside = true := by
    rcases hp with rfl | rfl <;> rfl
  have hcomma : p.lacks ',' = true := by
    rcases hp with rfl | rfl <;> rfl
  cases h with
  | last hlast =>
      have hclose : Blanks cs → p.lacks ']' = true := by
        intro hcs
        rw [hdue hcs]
        rfl
      rcases hlast.gapFrom_append houtside (Or.inr rfl) hclose rest with ⟨hall, hpass⟩ | hgap
      · exact Or.inl ⟨.last hall, hpass.trans (gapFrom_close rest)⟩
      · exact Or.inr hgap
  | @more first others v vs hfirst hmore =>
      rw [List.append_assoc, List.cons_append]
      rcases hfirst.gapFrom_append houtside (Or.inl rfl) (fun _ => hcomma)
        (others ++ ']' :: rest) with ⟨hone, hpass⟩ | hgap
      · rw [hpass, gapFrom_comma]
        rcases hmore.gapFrom_append (Or.inr rfl) (fun _ => rfl) rest with ⟨hall, hpass⟩ | hgap
        · exact Or.inl ⟨.more hone hall, hpass⟩
        · exact Or.inr hgap
      · exact Or.inr hgap

/-- An element is there, or else a comma or a bracket stands where it is missing. -/
theorem Element.gapFrom_append {cs : List Char} {v : Value} (h : Element gaps cs v)
    {p : Place} (hp : p.isOutside = true) {c : Char} (hc : c = ',' ∨ c = ']')
    (hdue : Blanks cs → p.lacks c = true) (rest : List Char) :
    Element false cs v ∧ gapFrom p (cs ++ c :: rest) = gapFrom .outside (c :: rest) ∨
      gaps = true ∧ gapFrom p (cs ++ c :: rest) = true := by
  cases h with
  | @present before lit after _ hbefore hlit hafter =>
      have hdelimits : Delimits (c :: rest) := ⟨c, rest, rfl, hc⟩
      have hpassed : gapFrom p (before ++ lit ++ after ++ c :: rest) =
          gapFrom p (lit ++ (after ++ c :: rest)) := by
        rw [List.append_assoc, List.append_assoc, hbefore.gapFrom_append hp]
      rw [hpassed]
      rcases hlit.gapFrom_append hp (hafter.stopsWord hdelimits.stopsWord) with
        ⟨hall, hpass⟩ | hgap
      · exact Or.inl ⟨.present hbefore hall hafter, hpass.trans (hafter.gapFrom_append rfl _)⟩
      · exact Or.inr hgap
  | missing hgaps hinside =>
      refine Or.inr ⟨hgaps, ?_⟩
      rw [hinside.gapFrom_append hp, gapFrom, hdue hinside, Bool.true_or]

end

/-- A text without gaps spells all elements, and the other way round. -/
theorem spells_false_iff (source : String) (v : Value) :
    Spells false source v ↔ Spells true source v ∧ hasGap source = false := by
  have hpass {gaps : Bool} (h : Spells gaps source v) :
      Spells false source v ∧ hasGap source = false ∨ gaps = true ∧ hasGap source = true := by
    obtain ⟨before, lit, after, hbefore, hlit, hafter, hsource⟩ := h
    have hend : gapFrom .outside after = false := by
      rw [← List.append_nil after, hafter.gapFrom_append rfl]
      rfl
    have hstop : StopsWord after := by
      simpa using hafter.stopsWord stopsWord_nil
    rw [hasGap, hsource, List.append_assoc, hbefore.gapFrom_append rfl]
    rcases hlit.gapFrom_append (rfl : Place.outside.isOutside = true) hstop with
      ⟨hall, hpass⟩ | hgap
    · exact Or.inl ⟨⟨before, lit, after, hbefore, hall, hafter, hsource⟩, hpass.trans hend⟩
    · exact Or.inr hgap
  constructor
  · intro h
    -- a literal without gaps is one of the larger grammar because it is read
    rcases hpass h with ⟨-, hgap⟩ | ⟨hfalse, -⟩
    · exact ⟨spells_of_read (read_of_spells h), hgap⟩
    · cases hfalse
  · rintro ⟨h, hgap⟩
    rcases hpass h with ⟨hall, -⟩ | ⟨-, htrue⟩
    · exact hall
    · rw [hgap] at htrue
      cases htrue

end Gaps

/-- A text is read exactly when it is a literal of the grammar with gaps, and its value is the one
that the grammar gives. The notation without gaps, with every element written, is smaller: it is what
is read among the texts in which no comma lacks an element. -/
theorem read_eq_ok_iff (source : String) (v : Value) :
    (read source = .ok v ↔ Spells true source v) ∧
      (Spells false source v ↔ read source = .ok v ∧ hasGap source = false) := by
  have hread : read source = .ok v ↔ Spells true source v := ⟨spells_of_read, read_of_spells⟩
  rw [hread]
  exact ⟨Iff.rfl, spells_false_iff source v⟩

/-- The comma before the bracket makes a second element: the text is read, although it is no list of
the notation. -/
theorem read_trailing_comma :
    read "[1,]" = .ok (.array [.number (.ofNat 1), .number .zero]) ∧
      ¬ ∃ v, Spells false "[1,]" v := by
  have hsource : "[1,]".toList = '[' :: ['1', ','] ++ [']'] := by decide +kernel
  have hone : NumericText.toNumber ['1'] = .ofNat 1 := by decide +kernel
  constructor
  · have hdigit : Denotes true ['1'] (.number (.ofNat 1)) := by
      have hnumber : (NumericText.toNumber ['1']).isNaN = false := by decide +kernel
      have hword : ['1'].all isWordChar = true := by decide
      rw [← hone]
      exact .number (by simp) (List.all_eq_true.1 hword) hnumber
    have hlist : Denotes true ('[' :: ['1', ','] ++ [']'])
        (.array [.number (.ofNat 1), .number .zero]) :=
      .list (.more (.present blanks_nil hdigit blanks_nil) (.last (.missing rfl blanks_nil)))
        fun _ hblanks => absurd (hblanks '1' (by simp)) (by decide)
    exact read_of_spells ⟨[], _, [], blanks_nil, hlist, blanks_nil, by rw [hsource]; rfl⟩
  · rintro ⟨v, hv⟩
    have hgap := ((spells_false_iff _ v).1 hv).2
    rw [hasGap, hsource] at hgap
    exact absurd hgap (by decide)

end Literal

end ScriptValues
