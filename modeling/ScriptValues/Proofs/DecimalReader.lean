import ScriptValues.Proofs.DecimalGrammar

/-!
What the library for decimal numbers promises: it reads literals, rounded to the nearest double, and
its own words, and nothing else, and at the start of a text it takes the longest part that it reads.
The standard library keeps the promise. Words are told from literals by their letters.
-/

namespace ScriptValues

/-- The longest start of a text that has a property. -/
structure LongestStart (p : List Char → Prop) (front cs : List Char) : Prop where
  starts : front <+: cs
  holds : p front
  longest : ∀ other, other <+: cs → p other → other.length ≤ front.length

namespace DecimalReader

open DecimalLiteral NumericText

/-- A text that is a word of the library with an optional sign, and what it stands for. -/
inductive Word : List Char → Double → Prop
  | intro {cs unsigned word : List Char} {negative : Bool} {x : Double}
      (hsign : LeadingSign cs negative unsigned) (hword : (word, x) ∈ words)
      (hspelling : isSpelling word unsigned = true) : Word cs (if negative then x.neg else x)

/-- The texts that the library reads as a whole. -/
def IsRead (cs : List Char) : Prop := (∃ literal, Spelling cs literal) ∨ ∃ x, Word cs x

/-- What is documented of the library. -/
structure Documented (reader : DecimalReader) : Prop where
  /-- A literal is read as the nearest double to its number, with its sign. -/
  literal {cs : List Char} {literal : DecimalLiteral} (h : Spelling cs literal) :
    ∃ x, Double.IsNearest literal.exact x ∧
      reader.whole? cs = some (if literal.negative then x.neg else x)
  /-- A word is read as what it stands for. -/
  word {cs : List Char} {x : Double} (h : Word cs x) : reader.whole? cs = some x
  /-- Nothing else is read, so nothing may be left over. -/
  other {cs : List Char} (h : ¬ IsRead cs) : reader.whole? cs = none
  /-- At the start of a text the longest part that is read is taken, with its value. -/
  longest {front cs : List Char} (h : LongestStart IsRead front cs) :
    reader.start? cs = (reader.whole? front).map fun x => (x, front.length)
  /-- Where no start of a text is read, nothing is taken. -/
  nothing {cs : List Char} (h : ∀ front, front <+: cs → ¬ IsRead front) : reader.start? cs = none

section Words

variable {cs front unsigned word : List Char} {x y : Double} {negative : Bool} {count : Nat}

/-- The letters that words start with. -/
def isWordStart (c : Char) : Bool := ['i', 'I', 'n', 'N'].contains c

theorem isWordStart_iff (c : Char) :
    isWordStart c = true ↔ c = 'i' ∨ c = 'I' ∨ c = 'n' ∨ c = 'N' := by
  simp [isWordStart]

/-- A letter becomes another one in lower case only when it is that letter in upper case. -/
theorem toLower_eq {c d : Char} (h : c.toLower = d) : c = d ∨ c.toNat + 32 = d.toNat := by
  unfold Char.toLower at h
  split at h
  · next hupper =>
    right
    subst h
    have hleast := UInt32.le_iff_toNat_le.1 hupper.1
    have hmost := UInt32.le_iff_toNat_le.1 hupper.2
    simp only [Char.toNat, UInt32.toNat_add]
    simp at hleast hmost ⊢
    omega
  · exact .inl h

theorem length_of_isSpelling (h : isSpelling word unsigned = true) :
    unsigned.length = word.length := by
  rw [isSpelling, beq_iff_eq] at h
  rw [← h, List.length_map]

/-- A word starts with one of two letters. -/
theorem exists_wordStart (hword : (word, x) ∈ words) (hspelling : isSpelling word unsigned = true) :
    ∃ c tail, unsigned = c :: tail ∧ isWordStart c = true := by
  rw [isSpelling, beq_iff_eq] at hspelling
  cases unsigned with
  | nil => simp [words, ← hspelling] at hword
  | cons c tail =>
      refine ⟨c, tail, rfl, (isWordStart_iff c).2 ?_⟩
      have hlower : c.toLower = 'i' ∨ c.toLower = 'n' := by
        simp only [words, List.mem_cons, Prod.mk.injEq, ← hspelling, List.map_cons,
          List.cons.injEq, List.not_mem_nil, or_false] at hword
        rcases hword with ⟨⟨hc, -⟩, -⟩ | ⟨⟨hc, -⟩, -⟩ | ⟨⟨hc, -⟩, -⟩
        · exact .inl hc
        · exact .inl hc
        · exact .inr hc
      rcases hlower with hc | hc
      · rcases toLower_eq hc with rfl | hupper
        · exact .inl rfl
        · exact .inr (.inl (Char.toNat_inj.1 (Nat.add_right_cancel (m := 32) hupper)))
      · rcases toLower_eq hc with rfl | hupper
        · exact .inr (.inr (.inl rfl))
        · exact .inr (.inr (.inr (Char.toNat_inj.1 (Nat.add_right_cancel (m := 32) hupper))))

theorem Word.exists_start (h : Word cs x) : ∃ negative c tail,
    LeadingSign cs negative (c :: tail) ∧ isWordStart c = true := by
  cases h with
  | intro hsign hword hspelling =>
      obtain ⟨c, tail, rfl, hc⟩ := exists_wordStart hword hspelling
      exact ⟨_, c, tail, hsign, hc⟩

/-- After its sign a word starts with no digit and no point, also when the text goes on. -/
theorem Word.startsNumber (h : Word cs x) (rest : List Char) :
    startsNumber (cs ++ rest) = false := by
  obtain ⟨negative, c, tail, hsign, hc⟩ := h.exists_start
  have hsigned := hsign.append (List.cons_ne_nil c tail) rest
  have hletter : (Numeral.isDigit 10 c || c == '.') = false := by
    rcases (isWordStart_iff c).1 hc with rfl | rfl | rfl | rfl <;> decide
  rw [NumericText.startsNumber, hsigned.scanSign_eq]
  exact hletter

/-- A word is given away by its first letter. -/
theorem Word.hasWordLetter (h : Word cs x) : hasWordLetter cs = true := by
  obtain ⟨negative, c, tail, hsign, hc⟩ := h.exists_start
  have hmem : c ∈ cs := by
    cases hsign <;> simp
  rw [NumericText.hasWordLetter, List.any_eq_true]
  refine ⟨c, hmem, ?_⟩
  rcases (isWordStart_iff c).1 hc with rfl | rfl | rfl | rfl <;> decide

theorem Word.isFinite (h : Word cs x) : x.isFinite = false := by
  cases h with
  | @intro _ _ negative x _ hword _ =>
      simp only [words, List.mem_cons, Prod.mk.injEq, List.not_mem_nil, or_false] at hword
      rcases hword with ⟨-, rfl⟩ | ⟨-, rfl⟩ | ⟨-, rfl⟩ <;> cases negative <;> rfl

/-- A word stands for one thing. -/
theorem Word.unique (hx : Word cs x) (hy : Word cs y) : x = y := by
  cases hx with
  | intro hsign hword hspelling =>
      cases hy with
      | intro hsign' hword' hspelling' =>
          obtain ⟨rfl, rfl⟩ := Prod.mk.inj (hsign.scanSign_eq.symm.trans hsign'.scanSign_eq)
          rw [isSpelling, beq_iff_eq] at hspelling hspelling'
          obtain rfl := hspelling.symm.trans hspelling'
          simp only [words, List.mem_cons, Prod.mk.injEq, List.not_mem_nil, or_false] at hword hword'
          grind

/-- A text that starts with a word starts with no literal. -/
theorem Word.scan?_eq_none (h : Word front x) (rest : List Char) :
    scan? (front ++ rest) = none := by
  cases hscan : scan? (front ++ rest) with
  | none => rfl
  | some scanned =>
      obtain ⟨literal, left⟩ := scanned
      obtain ⟨front', hfront, hspelling⟩ := exists_spelling hscan
      have hnumber := hspelling.startsNumber left
      rw [← hfront, h.startsNumber] at hnumber
      cases hnumber

theorem wordStart?_eq (hsign : LeadingSign cs negative unsigned) :
    wordStart? cs = (words.find? fun p => isSpelling p.1 (unsigned.take p.1.length)).map fun p =>
      (if negative then p.2.neg else p.2, cs.length - unsigned.length + p.1.length) := by
  unfold wordStart?
  rw [hsign.scanSign_eq]
  dsimp only
  cases words.find? fun p => isSpelling p.1 (unsigned.take p.1.length) <;> rfl

/-- What is found as a word at the start of a text is one. -/
theorem exists_word (h : wordStart? cs = some (x, count)) :
    ∃ front rest, cs = front ++ rest ∧ front.length = count ∧ Word front x := by
  obtain ⟨negative, unsigned, hsign⟩ := exists_leadingSign cs
  rw [wordStart?_eq hsign, Option.map_eq_some_iff] at h
  obtain ⟨⟨word, y⟩, hfind, hfound⟩ := h
  obtain ⟨rfl, rfl⟩ := Prod.mk.inj hfound
  have hmatch := List.find?_some hfind
  have hspelling : isSpelling word (unsigned.take word.length) = true := hmatch
  have hword := List.mem_of_find?_eq_some hfind
  have htake := length_of_isSpelling hspelling
  have hnil : unsigned.take word.length ≠ [] := by
    obtain ⟨c, tail, hcons, -⟩ := exists_wordStart hword hspelling
    simp [hcons]
  have hlength : word.length ≤ unsigned.length := by
    rw [List.length_take] at htake
    omega
  rw [← List.take_append_drop word.length unsigned] at hsign
  obtain ⟨signed, rfl, hsigned⟩ := hsign.exists_front hnil
  refine ⟨signed, _, rfl, ?_, .intro hsigned hword hspelling⟩
  have hle := hsigned.length_le
  rw [htake] at hle
  rw [List.length_append, List.length_drop]
  dsimp only
  omega

/-- Of the words at the start of a text the longest is found. -/
theorem Word.exists_wordStart? (h : Word front x) (rest : List Char) :
    ∃ y count, wordStart? (front ++ rest) = some (y, count) ∧ front.length ≤ count := by
  cases h with
  | @intro unsigned word negative x hsign hword hspelling =>
      have hnil : unsigned ≠ [] := by
        obtain ⟨c, tail, rfl, -⟩ := exists_wordStart hword hspelling
        exact List.cons_ne_nil c tail
      have hlength := length_of_isSpelling hspelling
      have hmatch : isSpelling word ((unsigned ++ rest).take word.length) = true := by
        rwa [← hlength, List.take_left]
      rw [wordStart?_eq (hsign.append hnil rest)]
      cases hfind : words.find? fun p => isSpelling p.1 ((unsigned ++ rest).take p.1.length) with
      | none => exact absurd hmatch (List.find?_eq_none.1 hfind _ hword)
      | some found =>
          refine ⟨_, _, rfl, ?_⟩
          have hlonger : word.length ≤ found.1.length := by
            obtain ⟨-, before, after, hwords, hbefore⟩ := List.find?_eq_some_iff_append.1 hfind
            have hsorted : words.Pairwise fun p q => q.1.length ≤ p.1.length := by decide
            rw [hwords] at hword hsorted
            rcases List.mem_append.1 hword with hmem | hmem
            · exact absurd hmatch (by simpa using hbefore _ hmem)
            · rcases List.mem_cons.1 hmem with hsame | hmem
              · rw [← hsame]
              · exact (List.pairwise_cons.1 (List.pairwise_append.1 hsorted).2.1).1 _ hmem
          have hle := hsign.length_le
          simp only [List.length_append]
          omega

end Words

section Standard

variable {cs front : List Char} {x : Double} {count : Nat}

/-- What the standard library takes at the start of a text is a literal or a word. -/
theorem exists_isRead (h : literalOrWord? cs = some (x, count)) :
    ∃ front rest, cs = front ++ rest ∧ front.length = count ∧
      ((∃ literal, Spelling front literal ∧ literal.value = x) ∨ Word front x) := by
  unfold literalOrWord? at h
  split at h
  · next literal rest hscan =>
    cases h
    obtain ⟨front, rfl, hspelling⟩ := exists_spelling hscan
    exact ⟨front, rest, rfl, by simp, .inl ⟨literal, hspelling, rfl⟩⟩
  · obtain ⟨front, rest, hsplit, hlength, hword⟩ := exists_word h
    exact ⟨front, rest, hsplit, hlength, .inr hword⟩

/-- Where something readable starts a text, at least as much is taken. -/
theorem IsRead.exists_literalOrWord? (h : IsRead front) (rest : List Char) :
    ∃ x count, literalOrWord? (front ++ rest) = some (x, count) ∧ front.length ≤ count := by
  rcases h with ⟨literal, hspelling⟩ | ⟨x, hword⟩
  · obtain ⟨scanned, left, hscan, hleft⟩ := hspelling.scans_front rest
    refine ⟨_, _, start?_of_scan? hscan, ?_⟩
    have hlength := hleft.length_le
    rw [List.length_append]
    omega
  · obtain ⟨y, count, hstart, hle⟩ := hword.exists_wordStart? rest
    refine ⟨y, count, ?_, hle⟩
    rw [literalOrWord?, hword.scan?_eq_none rest]
    exact hstart

/-- The standard library reads words as a whole. -/
theorem Word.whole?_eq (h : Word cs x) : standard.whole? cs = some x := by
  obtain ⟨y, count, hstart, hle⟩ := IsRead.exists_literalOrWord? (.inr ⟨x, h⟩) []
  rw [List.append_nil] at hstart
  obtain ⟨front, rest, rfl, rfl, hfront⟩ := exists_isRead hstart
  obtain rfl : rest = [] := by
    rw [List.length_append] at hle
    exact List.length_eq_zero_iff.1 (by omega)
  rw [List.append_nil] at h hstart ⊢
  have hxy : x = y := by
    rcases hfront with ⟨literal, hspelling, -⟩ | hword
    · have hnumber := hspelling.startsNumber []
      rw [h.startsNumber] at hnumber
      cases hnumber
    · exact h.unique hword
  simp [standard, hstart, hxy]

/-- The standard library does what is documented. -/
theorem standard_documented : standard.Documented where
  literal {_ literal} h := by
    obtain ⟨x, hx, hvalue⟩ := literal.exists_isNearest
    exact ⟨x, hx, hvalue ▸ whole?_of_scan? h.scan?_eq⟩
  word h := h.whole?_eq
  other {cs} h := by
    simp only [standard, Option.bind_eq_none_iff, Prod.forall]
    intro x count hstart
    obtain ⟨front, rest, rfl, rfl, hfront⟩ := exists_isRead hstart
    apply if_neg
    intro hwhole
    obtain rfl : rest = [] := by
      rw [List.length_append] at hwhole
      exact List.length_eq_zero_iff.1 (by omega)
    rw [List.append_nil] at h
    rcases hfront with ⟨literal, hspelling, -⟩ | hword
    · exact h (.inl ⟨literal, hspelling⟩)
    · exact h (.inr ⟨x, hword⟩)
  longest {front cs} h := by
    obtain ⟨rest, rfl⟩ := h.starts
    obtain ⟨x, count, hstart, hle⟩ := h.holds.exists_literalOrWord? rest
    obtain ⟨taken, left, hsplit, rfl, htaken⟩ := exists_isRead hstart
    have hread : IsRead taken := by
      rcases htaken with ⟨literal, hspelling, -⟩ | hword
      · exact .inl ⟨literal, hspelling⟩
      · exact .inr ⟨x, hword⟩
    have hmost := h.longest taken ⟨left, hsplit.symm⟩ hread
    obtain ⟨rfl, rfl⟩ := List.append_inj hsplit (Nat.le_antisymm hle hmost)
    have hwhole : standard.whole? front = some x := by
      rcases htaken with ⟨literal, hspelling, rfl⟩ | hword
      · exact whole?_of_scan? hspelling.scan?_eq
      · exact hword.whole?_eq
    rw [hwhole]
    exact hstart
  nothing {cs} h := by
    cases hstart : literalOrWord? cs with
    | none => exact hstart
    | some taken =>
        obtain ⟨front, rest, rfl, -, hfront⟩ := exists_isRead hstart
        exfalso
        apply h front (List.prefix_append front rest)
        rcases hfront with ⟨literal, hspelling, -⟩ | hword
        · exact .inl ⟨literal, hspelling⟩
        · exact .inr ⟨_, hword⟩

end Standard

end DecimalReader

end ScriptValues
