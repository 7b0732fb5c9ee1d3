import ScriptValues.Proofs.LiteralOffsets
import ScriptValues.Proofs.NumberText

/-!
The grammar of literals. The reader takes exactly the texts of a grammar with gaps: where a list has
no text for an element, between two commas or next to a bracket, it takes a zero. Nothing else
differs from the notation of words, numbers, quoted strings and bracketed lists.
-/

namespace ScriptValues

namespace Text

theorem trim_cons {c : Char} (h : isTrimmable c = false) (cs : List Char) :
    ∃ tail, trim (c :: cs) = c :: tail := by
  have hstart : trimStart (c :: cs) = c :: cs := by simp [trimStart, h]
  rw [trim, hstart, trimEnd, List.reverse_cons, List.dropWhile_append]
  split
  · exact ⟨[], by simp [h]⟩
  · exact ⟨_, List.reverse_concat⟩

end Text

namespace Literal

/-- Nothing but white space. -/
def Blanks (cs : List Char) : Prop := ∀ c ∈ cs, Text.isWhiteSpace c = true

/-- The words that are no numbers, and the one that stands for NaN. -/
inductive Keyword : List Char → Value → Prop
  | undefined : Keyword "undefined".toList .undefined
  | null : Keyword "null".toList .null
  | trueWord : Keyword "true".toList (.boolean true)
  | falseWord : Keyword "false".toList (.boolean false)
  | nan : Keyword "NaN".toList (.number .nan)

/-- What stands between the quotes of a string, and the text that it means. -/
inductive Quotes (quote : Char) : List Char → List Char → Prop
  | nil : Quotes quote [] []
  | plain {c : Char} {cs text : List Char} :
      c ≠ quote → c ≠ '\\' → Quotes quote cs text → Quotes quote (c :: cs) (c :: text)
  | escaped {c : Char} {cs text : List Char} :
      Quotes quote cs text → Quotes quote ('\\' :: c :: cs) (unescape c :: text)

mutual

/-- The text of one literal and its value. A list with `gaps` may leave out elements, but one with
nothing in it is empty all the same. -/
inductive Denotes (gaps : Bool) : List Char → Value → Prop
  | keyword {word : List Char} {v : Value} : Keyword word v → Denotes gaps word v
  | number {word : List Char} :
      word ≠ [] → (∀ c ∈ word, isWordChar c = true) →
        (NumericText.toNumber word).isNaN = false →
        Denotes gaps word (.number (NumericText.toNumber word))
  | string {quote : Char} {body text : List Char} :
      quote = '"' ∨ quote = '\'' → Quotes quote body text →
        Denotes gaps (quote :: body ++ [quote]) (.string (String.ofList text))
  | emptyList {inside : List Char} :
      Blanks inside → Denotes gaps ('[' :: inside ++ [']']) (.array [])
  | list {inside : List Char} {vs : List Value} :
      Elements gaps inside vs → (gaps = true → ¬ Blanks inside) →
        Denotes gaps ('[' :: inside ++ [']']) (.array vs)

/-- Elements with commas between them. -/
inductive Elements (gaps : Bool) : List Char → List Value → Prop
  | last {cs : List Char} {v : Value} : Element gaps cs v → Elements gaps cs [v]
  | more {cs ds : List Char} {v : Value} {vs : List Value} :
      Element gaps cs v → Elements gaps ds vs → Elements gaps (cs ++ ',' :: ds) (v :: vs)

/-- One element with blanks around it. Where it is missing, it counts as zero. -/
inductive Element (gaps : Bool) : List Char → Value → Prop
  | present {before cs after : List Char} {v : Value} :
      Blanks before → Denotes gaps cs v → Blanks after → Element gaps (before ++ cs ++ after) v
  | missing {inside : List Char} :
      gaps = true → Blanks inside → Element gaps inside (.number .zero)

end

/-- A whole text is one literal, with blanks around it. -/
def Spells (gaps : Bool) (source : String) (v : Value) : Prop :=
  ∃ before cs after, Blanks before ∧ Denotes gaps cs v ∧ Blanks after ∧
    source.toList = before ++ cs ++ after

section Words

variable {word : List Char} {v : Value}

theorem Keyword.isNaN_toNumber (h : Keyword word v) :
    (NumericText.toNumber word).isNaN = true := by
  cases h <;> decide +kernel

theorem Keyword.wordValue?_eq (h : Keyword word v) : wordValue? word = some v := by
  cases h <;> rfl

theorem Keyword.isWordChar (h : Keyword word v) : ∀ c ∈ word, isWordChar c = true := by
  rw [← List.all_eq_true]
  cases h <;> decide +kernel

theorem Keyword.ne_nil (h : Keyword word v) : word ≠ [] := by
  cases h <;> decide +kernel

theorem wordValue?_of_not_keyword (h : ∀ w, ¬ Keyword word w) :
    wordValue? word = if (NumericText.toNumber word).isNaN then none
      else some (.number (NumericText.toNumber word)) := by
  have hne {key : List Char} {w : Value} (hkey : Keyword key w) : word ≠ key := by
    rintro rfl
    exact h w hkey
  unfold wordValue?
  rw [if_neg (hne .undefined), if_neg (hne .null), if_neg (hne .trueWord), if_neg (hne .falseWord),
    if_neg (hne .nan)]

/-- A word has a value as a keyword or as a number, and never as both. -/
theorem wordValue?_eq_some_iff :
    wordValue? word = some v ↔
      Keyword word v ∨
        (NumericText.toNumber word).isNaN = false ∧ v = .number (NumericText.toNumber word) := by
  by_cases hkeyword : ∃ w, Keyword word w
  · obtain ⟨w, hw⟩ := hkeyword
    rw [hw.wordValue?_eq, hw.isNaN_toNumber]
    constructor
    · rintro ⟨⟩
      exact Or.inl hw
    · rintro (hv | ⟨hnumber, -⟩)
      · rw [← hw.wordValue?_eq, hv.wordValue?_eq]
      · cases hnumber
  · have hnone : ∀ w, ¬ Keyword word w := fun w hw => hkeyword ⟨w, hw⟩
    rw [wordValue?_of_not_keyword hnone, Option.ite_none_left_eq_some, Bool.not_eq_true,
      Option.some.injEq, @eq_comm _ v, or_iff_right (hnone v)]

/-- A bracket or a quote starts no number. -/
theorem isNaN_toNumber_of_isMark {c : Char} (hmark : isMark c = true) (cs : List Char) :
    (NumericText.toNumber (c :: cs)).isNaN = true := by
  have h := (isMark_iff c).1 hmark
  have hblank : Text.isTrimmable c = false := by
    rcases h with rfl | rfl | rfl <;> decide
  obtain ⟨tail, htail⟩ := Text.trim_cons hblank cs
  have hsign : DecimalLiteral.scanSign (c :: tail) = (false, c :: tail) := by
    rcases h with rfl | rfl | rfl <;> rfl
  have hinfinity : NumericText.scanInfinity? (c :: tail) = none := by
    have hletter : 'I' ≠ c := by
      rcases h with rfl | rfl | rfl <;> decide
    simp [NumericText.scanInfinity?, hsign, NumericText.infinityWord_eq, hletter]
  have hbase : NumericText.scanBase? (c :: tail) = none := by
    rcases h with rfl | rfl | rfl <;> rfl
  have hstart : NumericText.startsNumber (c :: tail) = false := by
    have hdigit : (Numeral.isDigit 10 c || c == '.') = false := by
      rcases h with rfl | rfl | rfl <;> decide
    simp only [NumericText.startsNumber, hsign, List.head?_cons, Option.any_some, hdigit]
  simp [NumericText.toNumber, htail, hinfinity, hbase, hstart, Double.isNaN]

theorem Keyword.head_not_mark (h : Keyword word v) : word.head?.any isMark = false := by
  cases h <;> decide +kernel

theorem head_not_mark_of_number (h : (NumericText.toNumber word).isNaN = false) :
    word.head?.any isMark = false := by
  cases word with
  | nil => rfl
  | cons c word =>
      apply Bool.eq_false_iff.2
      intro hmark
      rw [isNaN_toNumber_of_isMark hmark] at h
      cases h

/-- The characters that end a word, or nothing at all. -/
def StopsWord (cs : List Char) : Prop := ∀ c ∈ cs.head?, Literal.isWordChar c = false

theorem stopsWord_nil : StopsWord [] := by simp [StopsWord]

/-- A word is read up to the first character that ends it. -/
theorem readWord_append (hword : ∀ c ∈ word, Literal.isWordChar c = true)
    (hvalue : wordValue? word = some v) {rest : List Char} (hrest : StopsWord rest) :
    readWord (word ++ rest) = .ok (v, rest) := by
  have hstop : rest.takeWhile Literal.isWordChar = [] ∧
      rest.dropWhile Literal.isWordChar = rest := by
    cases rest with
    | nil => exact ⟨rfl, rfl⟩
    | cons c rest =>
        have hc : Literal.isWordChar c = false := hrest c rfl
        simp [hc]
  unfold readWord
  rw [List.takeWhile_append_of_pos hword, hstop.1, List.append_nil, hvalue]
  dsimp only
  rw [List.dropWhile_append_of_pos hword, hstop.2]

end Words

section Strings

variable {quote : Char}

theorem quote_ne_backslash (h : quote = '"' ∨ quote = '\'') : quote ≠ '\\' := by
  rcases h with rfl | rfl <;> decide

private theorem readString_close (hquote : quote ≠ '\\') (read cs : List Char) :
    readString quote read (quote :: cs) = .ok (String.ofList read.reverse, cs) := by
  rw [readString.eq_def]
  split <;> simp_all

private theorem readString_plain {c : Char} (hne : c ≠ quote) (hescape : c ≠ '\\')
    (read cs : List Char) :
    readString quote read (c :: cs) = readString quote (c :: read) cs := by
  rw [readString.eq_def]
  split <;> simp_all

/-- A string is read to its closing quote. -/
theorem Quotes.readString_eq (hquote : quote ≠ '\\') {body text : List Char}
    (h : Quotes quote body text) (read rest : List Char) :
    readString quote read (body ++ quote :: rest) =
      .ok (String.ofList (read.reverse ++ text), rest) := by
  induction h generalizing read with
  | nil => rw [List.nil_append, readString_close hquote, List.append_nil]
  | plain hne hescape _ ih =>
      rw [List.cons_append, readString_plain hne hescape, ih, List.reverse_cons, List.append_assoc]
      rfl
  | escaped _ ih =>
      rw [List.cons_append, List.cons_append, readString, ih, List.reverse_cons, List.append_assoc]
      rfl

/-- What is read as a string stands between quotes. -/
theorem quotes_of_readString {read cs rest : List Char} {s : String}
    (h : readString quote read cs = .ok (s, rest)) :
    ∃ body text, Quotes quote body text ∧ cs = body ++ quote :: rest ∧
      s = String.ofList (read.reverse ++ text) := by
  fun_induction readString quote read cs with
  | case1 => cases h
  | case2 => cases h
  | case3 read c cs ih =>
      obtain ⟨body, text, hquotes, rfl, rfl⟩ := ih h
      exact ⟨_, _, hquotes.escaped, rfl, by simp⟩
  | case4 read cs =>
      cases h
      exact ⟨[], [], .nil, rfl, by simp⟩
  | case5 read c cs hlast hescape hne ih =>
      obtain ⟨body, text, hquotes, rfl, rfl⟩ := ih h
      have hplain := ne_backslash_of_readString hlast hescape
      exact ⟨_, _, .plain hne hplain hquotes, rfl, by simp⟩

end Strings

section Blanks

variable {before : List Char}

theorem blanks_nil : Blanks [] := by simp [Blanks]

theorem Blanks.skipBlanks_append (h : Blanks before) (cs : List Char) :
    skipBlanks (before ++ cs) = skipBlanks cs :=
  List.dropWhile_append_of_pos h

theorem Blanks.append {after : List Char} (h : Blanks before) (hafter : Blanks after) :
    Blanks (before ++ after) := by
  intro c hc
  rcases List.mem_append.1 hc with hc | hc
  · exact h c hc
  · exact hafter c hc

/-- White space in front of a value is skipped. -/
theorem Blanks.readValue_append (h : Blanks before) {bound : Nat} (hbound : 0 < bound)
    (cs : List Char) : readValue bound (before ++ cs) = readValue bound cs := by
  obtain ⟨bound, rfl⟩ : ∃ less, bound = less + 1 := ⟨bound - 1, by omega⟩
  rw [readValue, readValue, h.skipBlanks_append]

theorem not_blank_of_isWordChar {c : Char} (h : isWordChar c = true) :
    Text.isWhiteSpace c = false := by
  simp [isWordChar] at h
  exact h.1.1

/-- Each text is blanks and a rest that starts with none. -/
theorem exists_blanks_append (cs : List Char) :
    ∃ before, Blanks before ∧ cs = before ++ skipBlanks cs :=
  ⟨cs.takeWhile Text.isWhiteSpace, fun _ hc => List.mem_takeWhile_imp hc,
    (List.takeWhile_append_dropWhile).symm⟩

end Blanks

theorem Blanks.stopsWord (h : Blanks before) {rest : List Char} (hrest : StopsWord rest) :
    StopsWord (before ++ rest) := by
  cases before with
  | nil => exact hrest
  | cons c before =>
      intro d hd
      obtain rfl : c = d := by simpa using hd
      simp [isWordChar, h c (by simp)]

/-- What follows an element: a comma or the closing bracket. -/
def Delimits (cs : List Char) : Prop := ∃ c rest, cs = c :: rest ∧ (c = ',' ∨ c = ']')

namespace Delimits

variable {cs : List Char}

theorem stopsWord (h : Delimits cs) : StopsWord cs := by
  obtain ⟨c, rest, rfl, hc⟩ := h
  intro d hd
  obtain rfl : c = d := by simpa using hd
  rcases hc with rfl | rfl <;> decide

theorem skipBlanks_eq (h : Delimits cs) : skipBlanks cs = cs := by
  obtain ⟨c, rest, rfl, rfl | rfl⟩ := h
  · rfl
  · rfl

/-- Where an element should stand, the empty word is read. -/
theorem readValue_eq (h : Delimits cs) (bound : Nat) :
    readValue (bound + 1) cs = .ok (.number .zero, cs) := by
  obtain ⟨c, rest, rfl, rfl | rfl⟩ := h
  · rfl
  · rfl

end Delimits

section Completeness

variable {gaps : Bool}

/-- A literal starts with a character that can start a word. -/
theorem Denotes.starts {cs : List Char} {v : Value} (h : Denotes gaps cs v) :
    ∃ c rest, cs = c :: rest ∧ isWordChar c = true := by
  cases h with
  | keyword hkeyword =>
      cases cs with
      | nil => exact absurd rfl hkeyword.ne_nil
      | cons c cs => exact ⟨c, cs, rfl, hkeyword.isWordChar c (by simp)⟩
  | number hnil hword _ =>
      cases cs with
      | nil => exact absurd rfl hnil
      | cons c cs => exact ⟨c, cs, rfl, hword c (by simp)⟩
  | @string quote body text hquote hquotes =>
      refine ⟨quote, body ++ [quote], rfl, ?_⟩
      rcases hquote with rfl | rfl <;> decide
  | @emptyList inside _ => exact ⟨'[', inside ++ [']'], rfl, by decide⟩
  | @list inside _ _ _ => exact ⟨'[', inside ++ [']'], rfl, by decide⟩

/-- Elements that are more than blanks do not start with the closing bracket. -/
theorem Elements.skipBlanks_append {cs : List Char} {vs : List Value} (h : Elements gaps cs vs)
    (hblank : gaps = true → ¬ Blanks cs) (rest : List Char) :
    ∃ c tail, skipBlanks (cs ++ rest) = c :: tail ∧ c ≠ ']' := by
  have hpresent {before lit after : List Char} {v : Value} (hbefore : Blanks before)
      (hlit : Denotes gaps lit v) (more : List Char) :
      ∃ c tail, skipBlanks (before ++ lit ++ after ++ more) = c :: tail ∧ c ≠ ']' := by
    obtain ⟨c, tail, rfl, hc⟩ := hlit.starts
    refine ⟨c, tail ++ after ++ more, ?_, ?_⟩
    · rw [List.append_assoc, List.append_assoc, hbefore.skipBlanks_append, List.cons_append,
        skipBlanks_cons (not_blank_of_isWordChar hc), List.append_assoc]
    · rintro rfl
      exact absurd hc (by decide)
  cases h with
  | last hlast =>
      cases hlast with
      | present hbefore hlit _ => exact hpresent hbefore hlit rest
      | missing hgaps hinside => exact absurd hinside (hblank hgaps)
  | more hfirst _ =>
      rw [List.append_assoc]
      cases hfirst with
      | present hbefore hlit _ => exact hpresent hbefore hlit _
      | missing _ hinside =>
          rw [hinside.skipBlanks_append]
          exact ⟨',', _, rfl, by decide⟩

theorem Elements.not_blanks {cs : List Char} {vs : List Value} (h : Elements gaps cs vs)
    (hblank : gaps = true → ¬ Blanks cs) : ¬ Blanks cs := by
  intro hcs
  obtain ⟨c, tail, hskip, hc⟩ := h.skipBlanks_append hblank [']']
  have hclose : skipBlanks (cs ++ [']']) = [']'] := hcs.skipBlanks_append _
  rw [hclose] at hskip
  cases hskip
  exact hc rfl

theorem readValue_list {c : Char} {cs tail : List Char} (hskip : skipBlanks cs = c :: tail)
    (hc : c ≠ ']') (bound : Nat) :
    readValue (bound + 1) ('[' :: cs) = readElements bound [] cs := by
  rw [readValue_open, hskip]
  split
  · simp_all
  · rfl

/-- Words are read as words, whatever value they have. -/
private theorem readValue_append_of_word {word : List Char} {v : Value} (hnil : word ≠ [])
    (hword : ∀ c ∈ word, isWordChar c = true) (hvalue : wordValue? word = some v)
    (hmark : word.head?.any isMark = false) (bound : Nat) {rest : List Char}
    (hrest : StopsWord rest) : readValue (bound + 1) (word ++ rest) = .ok (v, rest) := by
  have hread := readWord_append hword hvalue hrest
  cases word with
  | nil => exact absurd rfl hnil
  | cons c word =>
      rw [List.cons_append] at hread ⊢
      have hc := not_blank_of_isWordChar (hword c (by simp))
      rw [readValue_word hc hmark, hread]

mutual

/-- A literal is read to its end. -/
theorem Denotes.readValue_append {cs : List Char} {v : Value} (h : Denotes gaps cs v)
    {bound : Nat} {rest : List Char} (hbound : 2 * cs.length < bound) (hrest : StopsWord rest) :
    readValue bound (cs ++ rest) = .ok (v, rest) := by
  obtain ⟨bound, rfl⟩ : ∃ less, bound = less + 1 := ⟨bound - 1, by omega⟩
  cases h with
  | keyword hkeyword =>
      exact readValue_append_of_word hkeyword.ne_nil hkeyword.isWordChar hkeyword.wordValue?_eq
        hkeyword.head_not_mark bound hrest
  | number hnil hword hnumber =>
      apply readValue_append_of_word hnil hword _ _ bound hrest
      · exact wordValue?_eq_some_iff.2 (Or.inr ⟨hnumber, rfl⟩)
      · exact head_not_mark_of_number hnumber
  | string hquote hquotes =>
      have hescape := quote_ne_backslash hquote
      rw [List.cons_append, List.cons_append, List.append_assoc, readValue_string hquote]
      rw [List.singleton_append, hquotes.readString_eq hescape]
      rfl
  | @emptyList inside hinside =>
      have hclose : skipBlanks (inside ++ ']' :: rest) = ']' :: rest := hinside.skipBlanks_append _
      rw [List.append_assoc, List.cons_append, readValue_open, List.singleton_append, hclose]
      rfl
  | @list inside vs helements hblank =>
      obtain ⟨c, tail, hskip, hc⟩ := helements.skipBlanks_append hblank (']' :: rest)
      simp only [List.length_append, List.length_cons] at hbound
      rw [List.append_assoc, List.cons_append, List.singleton_append, readValue_list hskip hc,
        helements.readElements_append (by omega)]
      rfl

/-- The elements of a list are read up to the closing bracket. -/
theorem Elements.readElements_append {cs : List Char} {vs : List Value} (h : Elements gaps cs vs)
    {bound : Nat} (hbound : 2 * cs.length + 1 < bound) (read : List Value) (rest : List Char) :
    readElements bound read (cs ++ ']' :: rest) = .ok (.array (read.reverse ++ vs), rest) := by
  obtain ⟨bound, rfl⟩ : ∃ less, bound = less + 1 := ⟨bound - 1, by omega⟩
  cases h with
  | last hlast =>
      obtain ⟨after, hread, hafter⟩ :=
        hlast.readValue_append (Nat.lt_of_succ_lt_succ hbound) ⟨']', rest, rfl, Or.inr rfl⟩
      rw [readElements, hread]
      dsimp only
      rw [hafter, List.reverse_cons]
      rfl
  | @more first others v vs hfirst hmore =>
      simp only [List.length_append, List.length_cons] at hbound
      obtain ⟨after, hread, hafter⟩ :=
        hfirst.readValue_append (by omega : 2 * first.length < bound)
          ⟨',', others ++ ']' :: rest, rfl, Or.inl rfl⟩
      have hmoreRead := hmore.readElements_append (by omega : 2 * others.length + 1 < bound)
        (v :: read) rest
      rw [List.append_assoc, List.cons_append, readElements, hread]
      dsimp only
      rw [hafter]
      simpa using hmoreRead

/-- An element is read up to the comma or the bracket that follows it, blanks apart. -/
theorem Element.readValue_append {cs : List Char} {v : Value} (h : Element gaps cs v)
    {bound : Nat} {rest : List Char} (hbound : 2 * cs.length < bound) (hrest : Delimits rest) :
    ∃ after, readValue bound (cs ++ rest) = .ok (v, after) ∧ skipBlanks after = rest := by
  cases h with
  | @present before lit after _ hbefore hlit hafter =>
      simp only [List.length_append] at hbound
      have hread := hlit.readValue_append (by omega : 2 * lit.length < bound)
        (hafter.stopsWord hrest.stopsWord)
      refine ⟨after ++ rest, ?_, ?_⟩
      · rw [List.append_assoc, List.append_assoc, hbefore.readValue_append (by omega), hread]
      · rw [hafter.skipBlanks_append, hrest.skipBlanks_eq]
  | missing hgaps hinside =>
      refine ⟨rest, ?_, hrest.skipBlanks_eq⟩
      rw [hinside.readValue_append (by omega)]
      obtain ⟨bound, rfl⟩ : ∃ less, bound = less + 1 := ⟨bound - 1, by omega⟩
      exact hrest.readValue_eq bound

end

end Completeness

section Soundness

/-- What a reading found: a literal after blanks, or else the place of a missing element. -/
def Found (cs : List Char) (v : Value) (rest : List Char) : Prop :=
  ∃ before lit, Blanks before ∧ cs = before ++ lit ++ rest ∧
    (Denotes true lit v ∨ lit = [] ∧ v = .number .zero ∧ Delimits rest)

/-- What a reading of elements found, given the elements before. -/
def FoundElements (read : List Value) (cs : List Char) (v : Value) (rest : List Char) : Prop :=
  ∃ inside vs, Elements true inside vs ∧ cs = inside ++ ']' :: rest ∧
    v = .array (read.reverse ++ vs)

theorem Found.of_blanks {before cs rest : List Char} {v : Value} (hbefore : Blanks before)
    (h : Found cs v rest) : Found (before ++ cs) v rest := by
  obtain ⟨more, lit, hmore, rfl, hlit⟩ := h
  exact ⟨before ++ more, lit, hbefore.append hmore, by simp, hlit⟩

theorem Found.of_denotes {lit rest : List Char} {v : Value} (h : Denotes true lit v) :
    Found (lit ++ rest) v rest :=
  ⟨[], lit, blanks_nil, rfl, Or.inl h⟩

theorem found_of_readWord {c : Char} {cs rest : List Char} {v : Value}
    (hc : Text.isWhiteSpace c = false) (h : readWord (c :: cs) = .ok (v, rest)) :
    Found (c :: cs) v rest := by
  by_cases hstart : isWordChar c = true
  · have hnil : (c :: cs).takeWhile isWordChar ≠ [] := by simp [hstart]
    have hword : ∀ d ∈ (c :: cs).takeWhile isWordChar, isWordChar d = true :=
      fun d hd => List.mem_takeWhile_imp hd
    have hsplit : (c :: cs).takeWhile isWordChar ++ (c :: cs).dropWhile isWordChar = c :: cs :=
      List.takeWhile_append_dropWhile
    unfold readWord at h
    rw [← hsplit]
    generalize (c :: cs).takeWhile isWordChar = word at *
    split at h
    · next hvalue =>
      cases h
      apply Found.of_denotes
      rcases wordValue?_eq_some_iff.1 hvalue with hkeyword | ⟨hnumber, rfl⟩
      · exact .keyword hkeyword
      · exact .number hnil hword hnumber
    · cases h
  · have hdelimits : Delimits (c :: cs) := by
      refine ⟨c, cs, rfl, ?_⟩
      simp [isWordChar, hc] at hstart
      tauto
    have hread : readWord (c :: cs) = .ok (.number .zero, c :: cs) := by
      obtain ⟨d, tail, heq, rfl | rfl⟩ := hdelimits <;> cases heq <;> rfl
    rw [hread] at h
    cases h
    exact ⟨[], [], blanks_nil, rfl, Or.inr ⟨rfl, rfl, hdelimits⟩⟩

/-- A reading of one value, given what readings with a smaller bound find. -/
private theorem found_of_readValue_succ {bound : Nat}
    (ih : ∀ read cs v rest, readElements bound read cs = .ok (v, rest) →
      FoundElements read cs v rest)
    {cs rest : List Char} {v : Value} (h : readValue (bound + 1) cs = .ok (v, rest)) :
    Found cs v rest := by
  obtain ⟨before, hbefore, hcs⟩ := exists_blanks_append cs
  rw [hcs] at h ⊢
  rw [hbefore.readValue_append (Nat.succ_pos bound)] at h
  apply Found.of_blanks hbefore
  rcases skipBlanks_cases cs with
    hskip | ⟨tail, hskip⟩ | ⟨quote, tail, hquote, hskip⟩ | ⟨c, tail, hblank, hmark, hskip⟩
  · rw [hskip] at h
    cases h
  · rw [hskip, readValue_open] at h
    rw [hskip]
    split at h
    · next after hclose =>
      cases h
      obtain ⟨inside, hinside, htail⟩ := exists_blanks_append tail
      rw [htail, hclose]
      simpa using Found.of_denotes (.emptyList hinside)
    · next hclose =>
      obtain ⟨inside, vs, helements, rfl, rfl⟩ := ih _ _ _ _ h
      -- nothing but blanks would have been read as the empty list
      have hinside : ¬ Blanks inside := fun hinside =>
        hclose rest (hinside.skipBlanks_append _)
      simpa using Found.of_denotes (.list helements fun _ => hinside)
  · rw [hskip, readValue_string hquote] at h
    rw [hskip]
    cases hstring : readString quote [] tail with
    | error e =>
        rw [hstring] at h
        cases h
    | ok reading =>
        obtain ⟨s, after⟩ := reading
        rw [hstring] at h
        cases h
        obtain ⟨body, text, hquotes, rfl, rfl⟩ := quotes_of_readString hstring
        simpa using Found.of_denotes (.string hquote hquotes)
  · rw [hskip, readValue_word hblank hmark] at h
    rw [hskip]
    exact found_of_readWord hblank h

/-- What follows an element that was read, and the element itself. -/
theorem Found.element {cs rest : List Char} {v : Value} (h : Found cs v rest) {c : Char}
    {after : List Char} (hrest : skipBlanks rest = c :: after) :
    ∃ first, Element true first v ∧ cs = first ++ c :: after := by
  obtain ⟨before, lit, hbefore, rfl, hlit⟩ := h
  obtain ⟨between, hbetween, hsplit⟩ := exists_blanks_append rest
  rw [hrest] at hsplit
  rcases hlit with hlit | ⟨rfl, rfl, hdelimits⟩
  · exact ⟨_, .present hbefore hlit hbetween, by simp [hsplit]⟩
  · rw [hdelimits.skipBlanks_eq] at hrest
    exact ⟨before, .missing rfl hbefore, by simp [hrest]⟩

/-- A reading finds what the grammar with gaps describes. -/
theorem found_of_read (bound : Nat) :
    (∀ cs v rest, readValue bound cs = .ok (v, rest) → Found cs v rest) ∧
      ∀ read cs v rest, readElements bound read cs = .ok (v, rest) →
        FoundElements read cs v rest := by
  induction bound with
  | zero =>
      constructor
      · intro cs v rest h
        rw [readValue] at h
        cases h
      · intro read cs v rest h
        rw [readElements] at h
        cases h
  | succ bound ih =>
      obtain ⟨hvalue, helements⟩ := ih
      constructor
      · exact fun cs v rest h => found_of_readValue_succ helements h
      · intro read cs v rest h
        rw [readElements] at h
        split at h
        · cases h
        · next first after hfirst =>
          have hfound := hvalue _ _ _ hfirst
          split at h
          · next more hcomma =>
            obtain ⟨one, hone, rfl⟩ := hfound.element hcomma
            obtain ⟨inside, vs, hinside, rfl, rfl⟩ := helements _ _ _ _ h
            exact ⟨one ++ ',' :: inside, first :: vs, .more hone hinside, by simp, by simp⟩
          · next more hclose =>
            cases h
            obtain ⟨one, hone, rfl⟩ := hfound.element hclose
            exact ⟨one, [first], .last hone, rfl, by simp⟩
          · cases h
          · cases h

theorem read_eq_ok_iff_readValue (source : String) (v : Value) :
    read source = .ok v ↔ ∃ rest,
      readValue (2 * source.toList.length + 2) source.toList = .ok (v, rest) ∧
        skipBlanks rest = [] := by
  rw [read_eq, readWhole]
  cases readValue (2 * source.toList.length + 2) source.toList with
  | error e => simp
  | ok reading =>
      obtain ⟨found, rest⟩ := reading
      cases hskip : skipBlanks rest with
      | nil => simp [hskip]
      | cons c more => simp [hskip]

/-- Whatever is read is a literal, though maybe one with gaps. -/
theorem spells_of_read {source : String} {v : Value} (h : read source = .ok v) :
    Spells true source v := by
  obtain ⟨rest, hvalue, hend⟩ := (read_eq_ok_iff_readValue source v).1 h
  obtain ⟨before, lit, hbefore, hsource, hlit⟩ := (found_of_read _).1 _ _ _ hvalue
  obtain ⟨after, hafter, hrest⟩ := exists_blanks_append rest
  rw [hend, List.append_nil] at hrest
  rcases hlit with hlit | ⟨-, -, hdelimits⟩
  · exact ⟨before, lit, after, hbefore, hlit, hafter, by rw [hsource, hrest]⟩
  · rw [hdelimits.skipBlanks_eq] at hend
    obtain ⟨c, tail, hcons, -⟩ := hdelimits
    rw [hend] at hcons
    cases hcons

/-- Every literal is read as its value. -/
theorem read_of_spells {gaps : Bool} {source : String} {v : Value} (h : Spells gaps source v) :
    read source = .ok v := by
  obtain ⟨before, lit, after, hbefore, hlit, hafter, hsource⟩ := h
  have hstop : StopsWord after := by
    simpa using hafter.stopsWord stopsWord_nil
  have hend : skipBlanks after = [] := by
    rw [← List.append_nil after, hafter.skipBlanks_append]
    rfl
  rw [read_eq_ok_iff_readValue, hsource]
  generalize hbound : 2 * (before ++ lit ++ after).length + 2 = bound
  simp only [List.length_append] at hbound
  refine ⟨after, ?_, hend⟩
  rw [List.append_assoc, hbefore.readValue_append (by omega),
    hlit.readValue_append (by omega) hstop]

end Soundness

end Literal

end ScriptValues
