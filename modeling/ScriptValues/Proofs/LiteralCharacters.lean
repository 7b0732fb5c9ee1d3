import Mathlib.Data.List.Basic
import ScriptValues.Literal

/-!
Readings of characters. A reader that takes characters from the front of a list needs no offsets: the
text after a reading is what is left of the list. Twice the length of a text is enough for its bound.
-/

namespace ScriptValues

namespace Literal

/-- A problem found while reading, with the text from its place on. -/
structure Failure where
  problem : LiteralProblem
  rest : List Char
  deriving DecidableEq, Repr

/-- A value and the text after it. -/
abbrev Reading (α : Type) := Except Failure (α × List Char)

def skipBlanks (cs : List Char) : List Char := cs.dropWhile Text.isWhiteSpace

/-- The characters of a string up to its closing quote; `text` is what was read, backward. -/
def readString (quote : Char) (text : List Char) : List Char → Reading String
  | [] => .error ⟨.unterminatedString, []⟩
  | ['\\'] => .error ⟨.unterminatedString, []⟩
  | '\\' :: c :: cs => readString quote (unescape c :: text) cs
  | c :: cs =>
    if c = quote then .ok (String.ofList text.reverse, cs) else readString quote (c :: text) cs

/-- The word at the start of a text. -/
def readWord (cs : List Char) : Reading Value :=
  match wordValue? (cs.takeWhile isWordChar) with
  | some v => .ok (v, cs.dropWhile isWordChar)
  | none => .error ⟨.notALiteral, cs⟩

mutual

/-- Reads a value after blanks. -/
def readValue : (bound : Nat) → List Char → Reading Value
  | 0, cs => .error ⟨.expectedLiteral, cs⟩
  | bound + 1, cs =>
    match skipBlanks cs with
    | [] => .error ⟨.expectedLiteral, []⟩
    | '[' :: cs =>
      match skipBlanks cs with
      | ']' :: cs => .ok (.array [], cs)
      | _ => readElements bound [] cs
    | c :: cs =>
      if c = '"' ∨ c = '\'' then (readString c [] cs).map fun (s, cs) => (.string s, cs)
      else readWord (c :: cs)

/-- Reads the elements of a list up to its closing bracket; `read` holds those before, backward. -/
def readElements : (bound : Nat) → (read : List Value) → List Char → Reading Value
  | 0, _, cs => .error ⟨.expectedLiteral, cs⟩
  | bound + 1, read, cs =>
    match readValue bound cs with
    | .error e => .error e
    | .ok (v, cs) =>
      match skipBlanks cs with
      | ',' :: cs => readElements bound (v :: read) cs
      | ']' :: cs => .ok (.array (v :: read).reverse, cs)
      | _ :: cs => .error ⟨.expectedSeparator, cs⟩
      | [] => .error ⟨.expectedSeparator, []⟩

end

/-- Reads a value with nothing but blanks after it. -/
def readWhole (bound : Nat) (cs : List Char) : Reading Value :=
  match readValue bound cs with
  | .error e => .error e
  | .ok (v, rest) =>
    match skipBlanks rest with
    | [] => .ok (v, [])
    | rest => .error ⟨.trailingInput, rest⟩

/-- The characters that start a list or a string. -/
def isMark (c : Char) : Bool := c == '[' || c == '"' || c == '\''

theorem isMark_iff (c : Char) : isMark c = true ↔ c = '[' ∨ c = '"' ∨ c = '\'' := by
  simp [isMark, or_assoc]

section Equations

variable {cs : List Char}

theorem skipBlanks_head {c : Char} {cs rest : List Char} (h : skipBlanks cs = c :: rest) :
    Text.isWhiteSpace c = false := by
  have hhead := List.head?_dropWhile_not Text.isWhiteSpace cs
  rw [skipBlanks] at h
  rw [h] at hhead
  simpa using hhead

theorem skipBlanks_cons {c : Char} (h : Text.isWhiteSpace c = false) (cs : List Char) :
    skipBlanks (c :: cs) = c :: cs := by
  simp [skipBlanks, h]

/-- After blanks comes the end of the text, a list, a string, or else a word. -/
theorem skipBlanks_cases (cs : List Char) :
    skipBlanks cs = [] ∨ (∃ tail, skipBlanks cs = '[' :: tail) ∨
      (∃ quote tail, (quote = '"' ∨ quote = '\'') ∧ skipBlanks cs = quote :: tail) ∨
      ∃ c tail, Text.isWhiteSpace c = false ∧ isMark c = false ∧ skipBlanks cs = c :: tail := by
  cases hskip : skipBlanks cs with
  | nil => exact Or.inl rfl
  | cons c tail =>
      have hblank := skipBlanks_head hskip
      cases hmark : isMark c with
      | false => exact Or.inr (Or.inr (Or.inr ⟨c, tail, hblank, hmark, rfl⟩))
      | true =>
          rcases (isMark_iff c).1 hmark with rfl | hquote
          · exact Or.inr (Or.inl ⟨tail, rfl⟩)
          · exact Or.inr (Or.inr (Or.inl ⟨c, tail, hquote, rfl⟩))

theorem skipBlanks_skipBlanks (cs : List Char) : skipBlanks (skipBlanks cs) = skipBlanks cs := by
  cases hskip : skipBlanks cs with
  | nil => rfl
  | cons c rest => exact skipBlanks_cons (skipBlanks_head hskip) rest

/-- Readings of values skip blanks themselves. -/
theorem readValue_skipBlanks (bound : Nat) (cs : List Char) :
    readValue (bound + 1) (skipBlanks cs) = readValue (bound + 1) cs := by
  rw [readValue, readValue, skipBlanks_skipBlanks]

theorem readElements_skipBlanks (bound : Nat) (read : List Value) (cs : List Char) :
    readElements (bound + 2) read (skipBlanks cs) = readElements (bound + 2) read cs := by
  rw [readElements, readElements, readValue_skipBlanks]

theorem readValue_word {c : Char} (hc : Text.isWhiteSpace c = false)
    (hmark : isMark c = false) (bound : Nat) (cs : List Char) :
    readValue (bound + 1) (c :: cs) = readWord (c :: cs) := by
  rw [readValue, skipBlanks_cons hc]
  simp_all [isMark]

theorem readValue_string {quote : Char} (hquote : quote = '"' ∨ quote = '\'') (bound : Nat)
    (cs : List Char) :
    readValue (bound + 1) (quote :: cs) =
      (readString quote [] cs).map fun (s, cs) => (.string s, cs) := by
  rcases hquote with rfl | rfl
  · rfl
  · rfl

/-- After an opening bracket comes the closing one, or else elements. -/
theorem readValue_open (bound : Nat) (cs : List Char) :
    readValue (bound + 1) ('[' :: cs) =
      match skipBlanks cs with
      | ']' :: cs => .ok (.array [], cs)
      | _ => readElements bound [] cs := by
  rw [readValue]
  rfl

/-- The cases of a string after those for a backslash are about other characters. -/
theorem ne_backslash_of_readString {c : Char} (hlast : c = '\\' → cs = [] → False)
    (hescape : ∀ d rest, c = '\\' → cs = d :: rest → False) : c ≠ '\\' := by
  rintro rfl
  cases cs with
  | nil => exact hlast rfl rfl
  | cons d rest => exact hescape d rest rfl rfl

end Equations

section Rest

variable {cs rest : List Char} {v : Value}

theorem skipBlanks_suffix (cs : List Char) : skipBlanks cs <:+ cs := List.dropWhile_suffix _

theorem suffix_of_skipBlanks {c : Char} (h : skipBlanks cs = c :: rest) : rest <:+ cs :=
  (List.suffix_cons c rest).trans (h ▸ skipBlanks_suffix cs)

theorem length_of_skipBlanks {c : Char} (h : skipBlanks cs = c :: rest) :
    rest.length < cs.length := by
  have hlength := (skipBlanks_suffix cs).length_le
  rwa [h, List.length_cons] at hlength

theorem suffix_of_readString {quote : Char} {read : List Char} {s : String}
    (h : readString quote read cs = .ok (s, rest)) : rest <:+ cs := by
  fun_induction readString quote read cs with
  | case1 => cases h
  | case2 => cases h
  | case3 read c cs ih => exact (ih h).trans ((List.suffix_cons c cs).trans (List.suffix_cons _ _))
  | case4 read cs =>
      cases h
      exact List.suffix_cons _ _
  | case5 read c cs _ _ _ ih => exact (ih h).trans (List.suffix_cons c cs)

theorem suffix_of_readWord (h : readWord cs = .ok (v, rest)) : rest <:+ cs := by
  unfold readWord at h
  split at h
  · cases h
    exact List.dropWhile_suffix _
  · cases h

/-- What is left after a reading is the end of what was there. -/
theorem suffix_of_read (bound : Nat) :
    (∀ cs v rest, readValue bound cs = .ok (v, rest) → rest <:+ cs) ∧
      ∀ read cs v rest, readElements bound read cs = .ok (v, rest) → rest <:+ cs := by
  induction bound with
  | zero =>
      constructor
      · intro cs v rest h
        rw [readValue] at h
        cases h
      · intro read cs v rest h
        rw [readElements] at h
        cases h
  | succ bound ih =>
      obtain ⟨hvalue, helements⟩ := ih
      constructor
      · intro cs v rest h
        rw [readValue] at h
        split at h
        · cases h
        · next tail htext =>
          have htail := suffix_of_skipBlanks htext
          split at h
          · next more hclose =>
            cases h
            exact (suffix_of_skipBlanks hclose).trans htail
          · exact (helements _ _ _ _ h).trans htail
        · next c tail _ htext =>
          split at h
          · cases hstring : readString c [] tail with
            | error e =>
                rw [hstring] at h
                cases h
            | ok reading =>
                rw [hstring] at h
                cases h
                exact (suffix_of_readString hstring).trans (suffix_of_skipBlanks htext)
          · exact (suffix_of_readWord h).trans (htext ▸ skipBlanks_suffix cs)
      · intro read cs v rest h
        rw [readElements] at h
        split at h
        · cases h
        · next first after hfirst =>
          have hafter := hvalue _ _ _ hfirst
          split at h
          · next more hcomma =>
            exact (helements _ _ _ _ h).trans ((suffix_of_skipBlanks hcomma).trans hafter)
          · next more hclose =>
            cases h
            exact (suffix_of_skipBlanks hclose).trans hafter
          · cases h
          · cases h

/-- Bounds that are not too small for the text make no difference. -/
theorem read_eq_of_bounds (bound other : Nat) :
    (∀ cs, 2 * cs.length + 2 ≤ bound → 2 * cs.length + 2 ≤ other →
      readValue bound cs = readValue other cs) ∧
    ∀ read cs, 2 * cs.length + 3 ≤ bound → 2 * cs.length + 3 ≤ other →
      readElements bound read cs = readElements other read cs := by
  induction bound generalizing other with
  | zero => exact ⟨fun cs hbound => by omega, fun read cs hbound => by omega⟩
  | succ bound ih =>
      constructor
      · intro cs hbound hother
        obtain ⟨other, rfl⟩ : ∃ less, other = less + 1 := ⟨other - 1, by omega⟩
        rw [← readValue_skipBlanks bound, ← readValue_skipBlanks other]
        rcases skipBlanks_cases cs with
          hskip | ⟨tail, hskip⟩ | ⟨quote, tail, hquote, hskip⟩ | ⟨c, tail, hblank, hmark, hskip⟩
        · rw [hskip]
          rfl
        · have htail := length_of_skipBlanks hskip
          rw [hskip, readValue_open, readValue_open, (ih other).2 [] tail (by omega) (by omega)]
        · rw [hskip, readValue_string hquote, readValue_string hquote]
        · rw [hskip, readValue_word hblank hmark, readValue_word hblank hmark]
      · intro read cs hbound hother
        obtain ⟨other, rfl⟩ : ∃ less, other = less + 1 := ⟨other - 1, by omega⟩
        rw [readElements, readElements, (ih other).1 cs (by omega) (by omega)]
        cases hread : readValue other cs with
        | error e => rfl
        | ok reading =>
            obtain ⟨v, rest⟩ := reading
            have hrest := ((suffix_of_read other).1 cs v rest hread).length_le
            dsimp only
            split
            · next more hcomma =>
              have hmore := length_of_skipBlanks hcomma
              exact (ih other).2 _ more (by omega) (by omega)
            · rfl
            · rfl
            · rfl

end Rest

end Literal

end ScriptValues
