import ScriptValues.Proofs.CodePoints
import ScriptValues.Proofs.LiteralCharacters

/-!
Readings of bytes. The reader that moves through the bytes of a text does what the reader of
characters does: it stands where the characters that are left begin, so it never stops inside of a
character, and it does not use up a bound of twice the length of the text.
-/

namespace ScriptValues

namespace Literal

/-- The offset at which the last characters of a text begin. -/
def offsetOf (source : String) (cs : List Char) : Nat :=
  source.utf8ByteSize - (String.ofList cs).utf8ByteSize

/-- A reading of characters with offsets for the texts that are left. -/
def located {α : Type} (source : String) : Reading α → Except Interruption (α × Nat)
  | .ok (v, rest) => .ok (v, offsetOf source rest)
  | .error e => .error (.problem ⟨e.problem, offsetOf source e.rest⟩)

section Offsets

variable {source : String} {cs : List Char}

/-- The text before the last characters ends where these begin. -/
theorem exists_front (h : cs <:+ source.toList) :
    ∃ front : String, source = front ++ String.ofList cs ∧
      offsetOf source cs = front.utf8ByteSize := by
  obtain ⟨front, hfront⟩ := h
  have hsource : source = String.ofList front ++ String.ofList cs := by
    rw [← String.ofList_append, hfront, String.ofList_toList]
  refine ⟨String.ofList front, hsource, ?_⟩
  rw [offsetOf, hsource, String.utf8ByteSize_append, Nat.add_sub_cancel]

theorem offsetOf_nil (source : String) : offsetOf source [] = source.utf8ByteSize := by
  simp [offsetOf]

theorem offsetOf_toList (source : String) : offsetOf source source.toList = 0 := by
  simp [offsetOf]

theorem offsetOf_cons {c : Char} (h : c :: cs <:+ source.toList) :
    offsetOf source cs = offsetOf source (c :: cs) + c.utf8Size := by
  obtain ⟨front, hsource, hoffset⟩ := exists_front h
  rw [hoffset, offsetOf, hsource, String.utf8ByteSize_append, Text.utf8ByteSize_ofList_cons]
  omega

/-- Only the empty text begins at the end. -/
theorem offsetOf_eq_size_iff (h : cs <:+ source.toList) :
    offsetOf source cs = source.utf8ByteSize ↔ cs = [] := by
  obtain ⟨front, hsource, hoffset⟩ := exists_front h
  rw [hoffset, hsource, String.utf8ByteSize_append]
  simp

/-- A text begins at a place between characters. -/
theorem isValid_offsetOf (h : cs <:+ source.toList) :
    String.Pos.Raw.IsValid source ⟨offsetOf source cs⟩ := by
  obtain ⟨front, hsource, hoffset⟩ := exists_front h
  rw [hoffset]
  exact String.Pos.Raw.isValid_iff_exists_append.2 ⟨front, String.ofList cs, hsource, rfl⟩

theorem get?_eq (p : source.Pos) :
    p.get? = if h : p = source.endPos then none else some (p.get h) := by
  unfold String.Pos.get? String.Slice.Pos.get?
  by_cases hend : p = source.endPos
  · subst hend
    rw [dif_pos rfl]
    exact dif_pos rfl
  · rw [dif_neg hend]
    exact dif_neg fun h => hend (String.Pos.toSlice_inj.1 h)

/-- The character at a place is the first one after it. -/
theorem get?_of_splits {p : source.Pos} {front : String} (h : p.Splits front (String.ofList cs)) :
    p.get? = cs.head? := by
  rw [get?_eq]
  cases cs with
  | nil =>
      have hend : p = source.endPos := by
        apply String.Pos.ext
        rw [h.offset_eq_rawEndPos, h.eq_append]
        simp
      rw [dif_pos hend]
      rfl
  | cons c cs =>
      rw [String.ofList_cons] at h
      have hend := h.ne_endPos_of_singleton
      have hrest := congrArg String.toList ((String.Pos.splits_next_right p hend).eq_right h)
      simp only [String.toList_append, String.toList_singleton, List.singleton_append,
        List.cons.injEq] at hrest
      rw [dif_neg hend, hrest.1]
      rfl

end Offsets

namespace Reader

variable {α β : Type} {source : String} {cs : List Char}

theorem run_bind_ok {x : Reader α} {f : α → Reader β} {offset next : Nat} {a : α}
    (h : x.run offset = .ok (a, next)) : (x >>= f).run offset = (f a).run next := by
  rw [StateT.run_bind, h]
  rfl

theorem run_bind_error {x : Reader α} {f : α → Reader β} {offset : Nat} {e : Interruption}
    (h : x.run offset = .error e) : (x >>= f).run offset = .error e := by
  rw [StateT.run_bind, h]
  rfl

theorem run_fail (problem : LiteralProblem) (offset : Nat) :
    (fail problem : Reader α).run offset = .error (.problem ⟨problem, offset⟩) := rfl

theorem peek_run (h : cs <:+ source.toList) :
    (peek source).run (offsetOf source cs) = .ok (cs.head?, offsetOf source cs) := by
  obtain ⟨front, hsource, hoffset⟩ := exists_front h
  have hvalid := isValid_offsetOf h
  have hsplits : (source.pos ⟨offsetOf source cs⟩ hvalid).Splits front (String.ofList cs) :=
    ⟨hsource, by rw [String.offset_pos, hoffset]; rfl⟩
  rw [peek, run_bind_ok rfl, dif_pos hvalid, get?_of_splits hsplits]
  rfl

theorem bump_run_nil (source : String) :
    (bump source).run (offsetOf source []) = .ok (none, offsetOf source []) := by
  rw [bump, run_bind_ok (peek_run (List.nil_suffix))]
  rfl

theorem bump_run_cons {c : Char} (h : c :: cs <:+ source.toList) :
    (bump source).run (offsetOf source (c :: cs)) = .ok (some c, offsetOf source cs) := by
  rw [bump, run_bind_ok (peek_run h), offsetOf_cons h]
  rfl

theorem suffix_of_cons {c : Char} (h : c :: cs <:+ source.toList) : cs <:+ source.toList :=
  (List.suffix_cons c cs).trans h

/-- A bound above the number of characters is never used up. -/
theorem skipWhile_run (test : Char → Bool) {bound : Nat} (h : cs <:+ source.toList)
    (hbound : cs.length < bound) :
    (skipWhile source test bound).run (offsetOf source cs) =
      .ok ((), offsetOf source (cs.dropWhile test)) := by
  induction cs generalizing bound with
  | nil =>
      obtain ⟨bound, rfl⟩ : ∃ less, bound = less + 1 := ⟨bound - 1, by omega⟩
      rw [skipWhile, run_bind_ok (peek_run h)]
      rfl
  | cons c cs ih =>
      obtain ⟨bound, rfl⟩ : ∃ less, bound = less + 1 := ⟨bound - 1, by omega⟩
      rw [skipWhile, run_bind_ok (peek_run h), List.head?_cons, Option.any_some]
      cases hc : test c with
      | false =>
          rw [List.dropWhile_cons_of_neg (by simp [hc])]
          rfl
      | true =>
          rw [if_pos rfl, run_bind_ok (bump_run_cons h), List.dropWhile_cons_of_pos hc]
          exact ih (suffix_of_cons h) (Nat.lt_of_succ_lt_succ hbound)

theorem textSince_run {text : List Char} (h : text ++ cs <:+ source.toList) :
    (textSince source (offsetOf source (text ++ cs))).run (offsetOf source cs) =
      .ok (String.ofList text, offsetOf source cs) := by
  obtain ⟨front, hsource, hoffset⟩ := exists_front h
  have hstop : offsetOf source cs = front.utf8ByteSize + (String.ofList text).utf8ByteSize := by
    rw [offsetOf, hsource, String.ofList_append, String.utf8ByteSize_append,
      String.utf8ByteSize_append]
    omega
  have hcut := Text.cut?_append front (String.ofList text) (String.ofList cs)
  rw [String.append_assoc, ← String.ofList_append, ← hsource, ← hstop, ← hoffset] at hcut
  rw [textSince, run_bind_ok rfl, hcut]
  rfl

theorem push_ofList_reverse (read : List Char) (c : Char) :
    (String.ofList read.reverse).push c = String.ofList (c :: read).reverse := by
  rw [List.reverse_cons, String.ofList_append, String.push_eq_append]
  rfl

/-- A character that is no backslash closes a string or is a part of it. -/
theorem string_run_cons {quote c : Char} (hc : c ≠ '\\') (text : String) (bound : Nat)
    (h : c :: cs <:+ source.toList) :
    (string source quote text (bound + 1)).run (offsetOf source (c :: cs)) =
      if c = quote then .ok (.string text, offsetOf source cs)
      else (string source quote (text.push c) bound).run (offsetOf source cs) := by
  rw [string, run_bind_ok (bump_run_cons h)]
  split
  · next hnone => cases hnone
  · next hsome =>
    cases hsome
    exact absurd rfl hc
  · next hsome =>
    cases hsome
    split
    · rfl
    · rfl

/-- A string is read as from characters. -/
theorem string_run (quote : Char) (read : List Char) {bound : Nat} (h : cs <:+ source.toList)
    (hbound : cs.length < bound) :
    (string source quote (String.ofList read.reverse) bound).run (offsetOf source cs) =
      located source ((readString quote read cs).map fun (s, rest) => (.string s, rest)) := by
  -- every character that is taken leaves less to read and less of the bound
  obtain ⟨bound, rfl⟩ : ∃ less, bound = less + 1 := ⟨bound - 1, by omega⟩
  fun_induction readString quote read cs generalizing bound with
  | case1 =>
      rw [string, run_bind_ok (bump_run_nil source)]
      rfl
  | case2 =>
      rw [string, run_bind_ok (bump_run_cons h)]
      exact run_bind_ok (bump_run_nil source)
  | case3 read c cs ih =>
      obtain ⟨bound, rfl⟩ : ∃ less, bound = less + 1 := ⟨bound - 1, by simp at hbound; omega⟩
      rw [List.length_cons, List.length_cons] at hbound
      have hrest := suffix_of_cons h
      rw [string, run_bind_ok (bump_run_cons h)]
      refine (run_bind_ok (bump_run_cons hrest)).trans ?_
      dsimp only
      rw [push_ofList_reverse]
      exact ih (suffix_of_cons hrest) bound (by omega)
  | case4 read cs hlast hescape =>
      have hplain : quote ≠ '\\' := ne_backslash_of_readString hlast hescape
      rw [string_run_cons hplain _ _ h, if_pos rfl]
      rfl
  | case5 read c cs hlast hescape hne ih =>
      have hplain : c ≠ '\\' := ne_backslash_of_readString hlast hescape
      obtain ⟨bound, rfl⟩ : ∃ less, bound = less + 1 := ⟨bound - 1, by simp at hbound; omega⟩
      rw [string_run_cons hplain _ _ h, if_neg hne, push_ofList_reverse]
      exact ih (suffix_of_cons h) bound (Nat.lt_of_succ_lt_succ hbound)

/-- A word is read as from characters. -/
theorem word_run {bound : Nat} (h : cs <:+ source.toList) (hbound : cs.length < bound) :
    (word source bound).run (offsetOf source cs) = located source (readWord cs) := by
  have hsplit : cs.takeWhile isWordChar ++ cs.dropWhile isWordChar = cs :=
    List.takeWhile_append_dropWhile
  have htext := textSince_run (hsplit.symm ▸ h)
  rw [hsplit] at htext
  rw [word, run_bind_ok rfl, run_bind_ok (skipWhile_run isWordChar h hbound), run_bind_ok htext,
    String.toList_ofList, readWord]
  cases wordValue? (cs.takeWhile isWordChar) with
  | none => rfl
  | some v => rfl

theorem skipBlanks_run {bound : Nat} (h : cs <:+ source.toList) (hbound : cs.length < bound) :
    (skipWhile source Text.isWhiteSpace bound).run (offsetOf source cs) =
      .ok ((), offsetOf source (skipBlanks cs)) :=
  skipWhile_run Text.isWhiteSpace h hbound

/-- A list is read as from characters, if its elements are. -/
theorem list_run {bound : Nat} {elements : Reader Value}
    (helements : elements.run (offsetOf source (skipBlanks cs)) =
      located source (readElements bound [] cs))
    (h : '[' :: cs <:+ source.toList) (hbound : cs.length < bound) :
    (list source bound elements).run (offsetOf source ('[' :: cs)) =
      located source (readValue (bound + 1) ('[' :: cs)) := by
  have htail := suffix_of_cons h
  have hinside := (skipBlanks_suffix cs).trans htail
  rw [list, run_bind_ok (bump_run_cons h), run_bind_ok (skipBlanks_run htail hbound),
    run_bind_ok (peek_run hinside), readValue_open]
  split
  · next hhead =>
    obtain ⟨after, hclose⟩ := List.head?_eq_some_iff.1 hhead
    rw [hclose] at hinside ⊢
    exact run_bind_ok (bump_run_cons hinside)
  · next hhead =>
    split
    · next after hclose =>
      rw [hclose] at hhead
      exact absurd rfl hhead
    · exact helements

/-- A reading of one value, given what readings with a smaller bound do. -/
private theorem value_run_succ {bound : Nat}
    (ih : ∀ read cs, cs <:+ source.toList → 2 * cs.length + 3 ≤ bound →
      (elements source read bound).run (offsetOf source cs) =
        located source (readElements bound read cs))
    (h : cs <:+ source.toList) (hbound : 2 * cs.length + 1 ≤ bound) :
    (value source (bound + 1)).run (offsetOf source cs) =
      located source (readValue (bound + 1) cs) := by
  have htext : skipBlanks cs <:+ source.toList := (skipBlanks_suffix cs).trans h
  rw [value, run_bind_ok (skipBlanks_run h (by omega)), run_bind_ok (peek_run htext),
    ← readValue_skipBlanks]
  rcases skipBlanks_cases cs with
    hskip | ⟨tail, hskip⟩ | ⟨quote, tail, hquote, hskip⟩ | ⟨c, tail, hblank, hmark, hskip⟩
  · rw [hskip]
    rfl
  · have htail := length_of_skipBlanks hskip
    rw [hskip] at htext ⊢
    have hlength := (skipBlanks_suffix tail).length_le
    have hinside := (skipBlanks_suffix tail).trans (suffix_of_cons htext)
    -- elements may start after the blanks, as the first of them skips these
    have helements := ih [] _ hinside (by omega)
    obtain ⟨bound, rfl⟩ : ∃ less, bound = less + 2 := ⟨bound - 2, by omega⟩
    rw [readElements_skipBlanks] at helements
    exact list_run helements htext (by omega)
  · have htail := length_of_skipBlanks hskip
    rw [hskip] at htext ⊢
    have hstring := string_run quote [] (suffix_of_cons htext) (by omega : tail.length < bound)
    have hopen : quote ≠ '[' := by
      rcases hquote with rfl | rfl <;> decide
    rw [List.reverse_nil, String.ofList_nil] at hstring
    rw [readValue_string hquote, ← hstring, List.head?_cons]
    dsimp only
    rw [if_neg hopen, if_pos hquote, run_bind_ok (bump_run_cons htext)]
  · have hlength := (skipBlanks_suffix cs).length_le
    rw [hskip] at htext hlength ⊢
    have hmarks := not_or.1 (mt (isMark_iff c).2 (Bool.eq_false_iff.1 hmark))
    rw [readValue_word hblank hmark, List.head?_cons]
    dsimp only
    rw [if_neg hmarks.1, if_neg hmarks.2]
    exact word_run htext (by omega)

/-- The two readers do the same when the bound is not too small for the text. -/
theorem run_eq_located (source : String) (bound : Nat) :
    (∀ cs, cs <:+ source.toList → 2 * cs.length + 2 ≤ bound →
      (value source bound).run (offsetOf source cs) = located source (readValue bound cs)) ∧
    ∀ read cs, cs <:+ source.toList → 2 * cs.length + 3 ≤ bound →
      (elements source read bound).run (offsetOf source cs) =
        located source (readElements bound read cs) := by
  induction bound with
  | zero => exact ⟨fun cs _ hbound => by omega, fun read cs _ hbound => by omega⟩
  | succ bound ih =>
      obtain ⟨hvalue, helements⟩ := ih
      constructor
      · exact fun cs h hbound => value_run_succ helements h (by omega)
      · intro read cs h hbound
        have hfirst := hvalue cs h (by omega)
        rw [elements, readElements]
        cases hread : readValue bound cs with
        | error e =>
            rw [hread] at hfirst
            exact run_bind_error hfirst
        | ok reading =>
            obtain ⟨v, rest⟩ := reading
            rw [hread] at hfirst
            have hrest := (suffix_of_read bound).1 cs v rest hread
            have hlength := hrest.length_le
            have htext := (skipBlanks_suffix rest).trans (hrest.trans h)
            rw [run_bind_ok hfirst, run_bind_ok (skipBlanks_run (hrest.trans h) (by omega))]
            dsimp only
            cases hskip : skipBlanks rest with
            | nil =>
                rw [run_bind_ok (bump_run_nil source)]
                rfl
            | cons c more =>
                rw [hskip] at htext
                have hmore := length_of_skipBlanks hskip
                rw [run_bind_ok (bump_run_cons htext)]
                by_cases hcomma : c = ','
                · subst hcomma
                  exact helements _ more (suffix_of_cons htext) (by omega)
                · by_cases hclose : c = ']'
                  · subst hclose
                    rfl
                  · simp [hcomma, hclose, run_fail, located]

/-- A whole text is read as its characters are, whatever the bound if it is large enough. -/
theorem whole_run (source : String) {bound : Nat}
    (hbound : 2 * source.toList.length + 2 ≤ bound) :
    (whole source bound).run 0 =
      located source (readWhole (2 * source.toList.length + 2) source.toList) := by
  have hvalue := (run_eq_located source bound).1 source.toList (List.suffix_refl _) hbound
  rw [(read_eq_of_bounds bound _).1 source.toList hbound (Nat.le_refl _),
    offsetOf_toList] at hvalue
  rw [whole, readWhole]
  cases hread : readValue (2 * source.toList.length + 2) source.toList with
  | error e =>
      rw [hread] at hvalue
      exact run_bind_error hvalue
  | ok reading =>
      obtain ⟨v, rest⟩ := reading
      rw [hread] at hvalue
      have hrest := (suffix_of_read _).1 _ v rest hread
      have hlength := hrest.length_le
      have htext := (skipBlanks_suffix rest).trans hrest
      rw [run_bind_ok hvalue, run_bind_ok (skipBlanks_run hrest (by omega)), run_bind_ok rfl]
      dsimp only
      cases hskip : skipBlanks rest with
      | nil =>
          rw [offsetOf_nil, if_pos rfl]
          exact congrArg (fun offset => Except.ok (v, offset)) (offsetOf_nil source).symm
      | cons c more =>
          rw [hskip] at htext
          have hend : offsetOf source (c :: more) ≠ source.utf8ByteSize := fun h =>
            List.cons_ne_nil c more ((offsetOf_eq_size_iff htext).1 h)
          rw [if_neg hend]
          rfl

end Reader

/-- Reading gives the value of the reading of characters, or the place where that one fails. -/
theorem read_eq (source : String) :
    read source =
      match readWhole (2 * source.toList.length + 2) source.toList with
      | .ok (v, _) => .ok v
      | .error e => .error ⟨e.problem, offsetOf source e.rest⟩ := by
  have hrun := Reader.whole_run source (Nat.le_refl _)
  rw [read]
  rw [← String.length_toList, hrun]
  cases readWhole (2 * source.toList.length + 2) source.toList with
  | ok reading => rfl
  | error e => rfl

end Literal

end ScriptValues
