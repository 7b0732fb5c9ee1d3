import Mathlib.Order.Nat
import ScriptValues.Proofs.TextElements

/-!
Where one text occurs in another. A search goes through the bytes of a text, from the offset of a
position on, and counts what it finds in code points again. The bytes of a text that is not empty
can only be found where characters start and end, and offsets grow with code point indices, so the
first place among the bytes is the first one among the characters, and no cut falls inside a
character.
-/

namespace ScriptValues

/-- Places with a property have a first one, or there are none. -/
theorem exists_isLeast_or_forall_not (P : Nat → Prop) :
    (∃ i, IsLeast {i | P i} i) ∨ ∀ i, ¬ P i := by
  classical
  by_cases h : ∃ i, P i
  · exact .inl ⟨Nat.find h, Nat.isLeast_find h⟩
  · exact .inr (not_exists.1 h)

namespace Text

section Lists

variable {α : Type} [BEq α] [LawfulBEq α] {needle xs : List α}

/-- A search in a list finds the first place at which the list goes on with the needle. -/
theorem findFrom_of_isLeast {i : Nat} (h : IsLeast {i | needle <+: xs.drop i} i) (place : Nat) :
    findFrom needle place xs = some (place + i) := by
  induction i generalizing xs place with
  | zero =>
      have hfirst := List.isPrefixOf_iff_prefix.2 h.1
      cases xs with
      | nil => exact if_pos hfirst
      | cons x xs => exact if_pos hfirst
  | succ i ih =>
      have hlater : ¬ needle <+: xs := fun hfirst =>
        absurd (mem_lowerBounds.1 h.2 0 hfirst) (by omega)
      cases xs with
      | nil => exact absurd h.1 hlater
      | cons x xs =>
          have hrest : IsLeast {i | needle <+: xs.drop i} i :=
            ⟨h.1, fun j hj => Nat.le_of_succ_le_succ (mem_lowerBounds.1 h.2 (j + 1) hj)⟩
          rw [findFrom, if_neg (by rwa [List.isPrefixOf_iff_prefix]), ih hrest]
          congr 1
          omega

theorem findFrom_of_forall_not (h : ∀ i, ¬ needle <+: xs.drop i) (place : Nat) :
    findFrom needle place xs = none := by
  induction xs generalizing place with
  | nil => exact if_neg (by rw [List.isPrefixOf_iff_prefix]; exact h 0)
  | cons x xs ih =>
      rw [findFrom, if_neg (by rw [List.isPrefixOf_iff_prefix]; exact h 0)]
      exact ih (fun i => h (i + 1)) _

end Lists

theorem bytes_append (s t : String) : bytes (s ++ t) = bytes s ++ bytes t := by
  rw [bytes, String.toByteArray_append, ByteArray.data_append, Array.toList_append]
  rfl

theorem length_bytes (s : String) : (bytes s).length = s.utf8ByteSize :=
  Array.length_toList.trans (String.size_toByteArray)

theorem bytes_inj {s t : String} : bytes s = bytes t ↔ s = t := by
  rw [bytes, bytes, Array.toList_inj, ← String.toByteArray_inj]
  exact ⟨ByteArray.ext, congrArg _⟩

/-- The text `t` stands in `s` with `k` characters in front of it. -/
def OccursAt (s t : String) (k : Nat) : Prop :=
  ∃ front back, s = front ++ t ++ back ∧ front.length = k

variable {s t : String}

/-- Where the bytes of a text are found, there is the text: both ends of what is found lie between
characters. -/
theorem exists_of_bytes_prefix (ht : t ≠ "") {offset : Nat}
    (h : bytes t <+: (bytes s).drop offset) :
    ∃ front back, s = front ++ t ++ back ∧ front.utf8ByteSize = offset := by
  have hpos : 0 < t.utf8ByteSize := Nat.pos_of_ne_zero (mt String.utf8ByteSize_eq_zero_iff.1 ht)
  have hle : offset + t.utf8ByteSize ≤ s.utf8ByteSize := by
    have := h.length_le
    rw [List.length_drop, length_bytes, length_bytes] at this
    omega
  have hextract : s.toByteArray.extract offset (offset + t.utf8ByteSize) = t.toByteArray := by
    refine ByteArray.ext (Array.toList_inj.1 ?_)
    rw [ByteArray.data_extract, Array.toList_extract, List.extract, Nat.add_sub_cancel_left,
      ← length_bytes]
    exact (List.prefix_iff_eq_take.1 h).symm
  obtain hnone | ⟨hstart, hstop⟩ := (String.Pos.Raw.isValidUTF8_extract_iff (s := s) ⟨offset⟩
    ⟨offset + t.utf8ByteSize⟩ (Nat.le_add_right _ _) hle).1 (hextract ▸ t.isValidUTF8)
  · exact absurd (congrArg String.Pos.Raw.byteIdx hnone) (Nat.ne_of_lt (Nat.lt_add_of_pos_right hpos))
  obtain ⟨front, rest, hsplit, hfront⟩ := String.Pos.Raw.isValid_iff_exists_append.1 hstart
  obtain ⟨whole, back, hcut, hwhole⟩ := String.Pos.Raw.isValid_iff_exists_append.1 hstop
  have hfront : offset = front.utf8ByteSize := congrArg String.Pos.Raw.byteIdx hfront
  have hwhole : offset + t.utf8ByteSize = whole.utf8ByteSize :=
    congrArg String.Pos.Raw.byteIdx hwhole
  obtain ⟨later, hlater⟩ := h
  have hbytes : bytes (front ++ t) ++ later = bytes whole ++ bytes back := by
    rw [← bytes_append whole, ← hcut, bytes_append, List.append_assoc, hlater, hsplit, bytes_append,
      hfront, ← length_bytes, List.drop_left]
  have hfound : front ++ t = whole := by
    refine bytes_inj.1 (List.append_inj_left hbytes ?_)
    rw [length_bytes, length_bytes, String.utf8ByteSize_append, ← hwhole, hfront]
  exact ⟨front, back, by rw [hfound, hcut], hfront.symm⟩

/-- In code points: the characters of a text go on with another one. -/
theorem occursAt_iff {k : Nat} :
    OccursAt s t k ↔ k ≤ s.toList.length ∧ t.toList <+: s.toList.drop k := by
  constructor
  · rintro ⟨front, back, rfl, rfl⟩
    rw [String.toList_append, String.toList_append, ← String.length_toList, List.append_assoc,
      List.drop_left, List.length_append]
    exact ⟨Nat.le_add_right _ _, List.prefix_append _ _⟩
  · rintro ⟨hk, back, hback⟩
    refine ⟨.ofList (s.toList.take k), .ofList back, ?_, ?_⟩
    · rw [← String.toList_inj, String.toList_append, String.toList_append, String.toList_ofList,
        String.toList_ofList, List.append_assoc, hback, List.take_append_drop]
    · rw [← String.length_toList, String.toList_ofList, List.length_take_of_le hk]

theorem bytesBefore_append (front back : String) :
    bytesBefore (front ++ back).toList front.length = front.utf8ByteSize := by
  rw [bytesBefore, String.toList_append, ← String.length_toList, List.take_left,
    String.ofList_toList]

theorem bytesBefore_add (cs : List Char) (i j : Nat) :
    bytesBefore cs (i + j) = bytesBefore cs i + bytesBefore (cs.drop i) j := by
  rw [bytesBefore, List.take_add, String.ofList_append, String.utf8ByteSize_append, bytesBefore,
    bytesBefore]

/-- Every character has bytes, so offsets grow with the indices of code points. -/
theorem bytesBefore_lt {cs : List Char} {i j : Nat} (hij : i < j) (hj : j ≤ cs.length) :
    bytesBefore cs i < bytesBefore cs j := by
  obtain ⟨later, rfl⟩ := Nat.exists_eq_add_of_lt hij
  have hnil : (cs.drop i).take (later + 1) ≠ [] := by
    rw [← List.length_pos_iff, List.length_take, List.length_drop]
    omega
  have hpos : bytesBefore (cs.drop i) (later + 1) ≠ 0 := by
    rwa [bytesBefore, ne_eq, String.utf8ByteSize_eq_zero_iff, String.ofList_eq_empty_iff]
  rw [Nat.add_assoc, bytesBefore_add]
  omega

/-- An occurrence among the characters is one among the bytes. -/
theorem OccursAt.bytes_prefix {k : Nat} (h : OccursAt s t k) :
    bytes t <+: (bytes s).drop (bytesBefore s.toList k) := by
  obtain ⟨front, back, rfl, rfl⟩ := h
  rw [String.append_assoc, bytesBefore_append, bytes_append, ← length_bytes, List.drop_left,
    bytes_append]
  exact List.prefix_append _ _

/-- An occurrence among the bytes is one among the characters; only the empty text occurs elsewhere,
and it occurs at the start. -/
theorem exists_occursAt_of_bytes_prefix {offset : Nat} (h : bytes t <+: (bytes s).drop offset) :
    ∃ k, OccursAt s t k ∧ bytesBefore s.toList k ≤ offset := by
  by_cases ht : t = ""
  · subst ht
    exact ⟨0, ⟨"", s, by simp, rfl⟩, Nat.zero_le _⟩
  · obtain ⟨front, back, rfl, rfl⟩ := exists_of_bytes_prefix ht h
    refine ⟨front.length, ⟨front, back, rfl, rfl⟩, Nat.le_of_eq ?_⟩
    rw [String.append_assoc, bytesBefore_append]

/-- The first occurrence among the bytes is the first one among the characters. -/
theorem findFrom_bytes_of_isLeast {k : Nat} (h : IsLeast {k | OccursAt s t k} k) :
    findFrom (bytes t) 0 (bytes s) = some (bytesBefore s.toList k) := by
  have hleast : IsLeast {i | bytes t <+: (bytes s).drop i} (bytesBefore s.toList k) := by
    refine ⟨OccursAt.bytes_prefix h.1, fun i hi => ?_⟩
    obtain ⟨j, hj, hle⟩ := exists_occursAt_of_bytes_prefix hi
    refine Nat.le_trans ?_ hle
    rcases Nat.eq_or_lt_of_le (h.2 hj) with rfl | hlt
    · exact Nat.le_refl _
    · exact Nat.le_of_lt (bytesBefore_lt hlt (occursAt_iff.1 hj).1)
  rw [findFrom_of_isLeast hleast, Nat.zero_add]

theorem findFrom_bytes_of_forall_not (h : ∀ k, ¬ OccursAt s t k) :
    findFrom (bytes t) 0 (bytes s) = none := by
  refine findFrom_of_forall_not (fun i hi => ?_) 0
  obtain ⟨k, hk, -⟩ := exists_occursAt_of_bytes_prefix hi
  exact h k hk

/-- An offset between characters is counted back to the index it came from. -/
theorem codePointIndex_bytesBefore {k : Nat} (hk : k ≤ s.toList.length) :
    codePointIndex s (bytesBefore s.toList k) = k := by
  have hcut := cut?_byteOffset s (Nat.zero_le k)
  rw [byteOffset_eq, byteOffset_eq] at hcut
  rw [codePointIndex]
  split
  · next hascii =>
    rw [← byteOffset_eq, byteOffset, if_pos hascii, utf8ByteSize_of_isAscii hascii,
      Nat.min_eq_left hk]
  · have hzero : bytesBefore s.toList 0 = 0 := rfl
    rw [hzero] at hcut
    rw [hcut, Option.getD_some, String.toList_ofList, List.drop_zero, List.length_take_of_le hk]

/-- The rest of a text from a place on is cut off between characters. -/
theorem cut?_rest {start : Nat} (hstart : start ≤ s.toList.length) :
    cut? s (byteOffset s start) s.utf8ByteSize = some (.ofList (s.toList.drop start)) := by
  have hend : byteOffset s s.toList.length = s.utf8ByteSize := by
    rw [byteOffset_eq, bytesBefore, List.take_length, String.ofList_toList]
  have hcut := cut?_byteOffset s hstart
  rwa [hend, List.take_length] at hcut

theorem occursAt_rest {start i : Nat} (hstart : start ≤ s.toList.length) :
    OccursAt (.ofList (s.toList.drop start)) t i ↔ OccursAt s t (start + i) := by
  rw [occursAt_iff, occursAt_iff, String.toList_ofList, List.drop_drop, List.length_drop]
  exact and_congr_left' (by omega)

theorem clamped_le (s : String) (position : Int) :
    Position.clamped s.length position ≤ s.toList.length := by
  rw [← String.length_toList]
  exact Nat.min_le_right _ _

/-- The search of a text, in terms of the place it starts from. -/
theorem indexOf?_eq {s t : String} {position : Int} {start : Nat}
    (hstart : start = Position.clamped s.length position) :
    indexOf? s t position =
      (findFrom (bytes t) 0 (bytes (.ofList (s.toList.drop start)))).map fun found =>
        codePointIndex s (byteOffset s start + found) := by
  subst hstart
  rw [indexOf?, length_eq, String.length_toList, cut?_rest (clamped_le s position), Option.getD_some]

/-- What is found behind a place is counted from the start of the text. -/
theorem codePointIndex_found {start i : Nat} (hi : start + i ≤ s.toList.length) :
    codePointIndex s
      (byteOffset s start + bytesBefore (String.ofList (s.toList.drop start)).toList i) =
        start + i := by
  rw [String.toList_ofList, byteOffset_eq, ← bytesBefore_add, codePointIndex_bytesBefore hi]

theorem indexOf?_of_isLeast {position : Int} {k : Nat}
    (h : IsLeast {k | Position.clamped s.length position ≤ k ∧ OccursAt s t k} k) :
    indexOf? s t position = some k := by
  have hstart := clamped_le s position
  rw [indexOf?_eq rfl]
  generalize Position.clamped s.length position = start at *
  obtain ⟨i, rfl⟩ := Nat.exists_eq_add_of_le h.1.1
  have hleast : IsLeast {i | OccursAt (.ofList (s.toList.drop start)) t i} i := by
    refine ⟨(occursAt_rest hstart).2 h.1.2, fun j hj => ?_⟩
    exact Nat.le_of_add_le_add_left (h.2 ⟨Nat.le_add_right start j, (occursAt_rest hstart).1 hj⟩)
  rw [findFrom_bytes_of_isLeast hleast, Option.map_some,
    codePointIndex_found (occursAt_iff.1 h.1.2).1]

theorem indexOf?_of_forall_not {position : Int}
    (h : ∀ k, ¬ (Position.clamped s.length position ≤ k ∧ OccursAt s t k)) :
    indexOf? s t position = none := by
  have hstart := clamped_le s position
  rw [indexOf?_eq rfl]
  generalize Position.clamped s.length position = start at *
  rw [findFrom_bytes_of_forall_not, Option.map_none]
  intro i hi
  exact h (start + i) ⟨Nat.le_add_right start i, (occursAt_rest hstart).1 hi⟩

theorem indexOf?_eq_some_iff {position : Int} {k : Nat} :
    indexOf? s t position = some k ↔
      IsLeast {k | Position.clamped s.length position ≤ k ∧ OccursAt s t k} k := by
  refine ⟨fun hfound => ?_, indexOf?_of_isLeast⟩
  rcases exists_isLeast_or_forall_not
    fun k => Position.clamped s.length position ≤ k ∧ OccursAt s t k with ⟨j, hj⟩ | hnone
  · rw [indexOf?_of_isLeast hj, Option.some.injEq] at hfound
    exact hfound ▸ hj
  · rw [indexOf?_of_forall_not hnone] at hfound
    cases hfound

theorem indexOf?_eq_none_iff {position : Int} :
    indexOf? s t position = none ↔
      ∀ k, Position.clamped s.length position ≤ k → ¬ OccursAt s t k := by
  constructor
  · intro hnone k hk hoccurs
    rcases exists_isLeast_or_forall_not
      fun k => Position.clamped s.length position ≤ k ∧ OccursAt s t k with ⟨j, hj⟩ | hnever
    · rw [indexOf?_of_isLeast hj] at hnone
      cases hnone
    · exact hnever k ⟨hk, hoccurs⟩
  · intro h
    exact indexOf?_of_forall_not fun k hk => h k hk.1 hk.2

theorem includes_iff : includes s t = true ↔ ∃ k, OccursAt s t k := by
  rw [includes]
  rcases exists_isLeast_or_forall_not (OccursAt s t) with ⟨k, hk⟩ | hnever
  · exact iff_of_true (by rw [findFrom_bytes_of_isLeast hk]; rfl) ⟨k, hk.1⟩
  · refine iff_of_false ?_ (not_exists.2 hnever)
    rw [findFrom_bytes_of_forall_not hnever]
    exact Bool.false_ne_true

theorem startsWith_iff : startsWith s t = true ↔ OccursAt s t 0 := by
  rw [startsWith, List.isPrefixOf_iff_prefix]
  constructor
  · intro h
    have hfound : bytes t <+: (bytes s).drop 0 := h
    obtain ⟨k, hk, hoffset⟩ := exists_occursAt_of_bytes_prefix hfound
    rcases Nat.eq_zero_or_pos k with rfl | hpos
    · exact hk
    · exact absurd (bytesBefore_lt hpos (occursAt_iff.1 hk).1) (Nat.not_lt_of_le (by omega))
  · exact fun h => h.bytes_prefix

theorem isSome_cut?_found {start found : Nat}
    (h : findFrom (bytes t) 0 (bytes (.ofList (s.toList.drop start))) = some found) :
    (cut? s 0 (byteOffset s start + found)).isSome = true := by
  rcases exists_isLeast_or_forall_not (OccursAt (.ofList (s.toList.drop start)) t) with
    ⟨i, hi⟩ | hnever
  · rw [findFrom_bytes_of_isLeast hi, Option.some.injEq] at h
    have hcut := cut?_byteOffset s (Nat.zero_le (start + i))
    have hzero : byteOffset s 0 = 0 := byteOffset_eq s 0
    rw [hzero, byteOffset_eq s (start + i), bytesBefore_add] at hcut
    rw [← h, byteOffset_eq, String.toList_ofList, hcut]
    rfl
  · rw [findFrom_bytes_of_forall_not hnever] at h
    cases h

/-- A search finds the first place, from its position on, at which a text occurs; the empty text
occurs at every place. Both of its cuts are made between characters. Searching the whole text is
the test for an occurrence, and finding it at the first place the test for a start. -/
theorem search_finds_first (s t : String) (position : Int) :
    (∀ k : Nat, indexOf? s t position = some k ↔
      IsLeast {j : Nat | clamp 0 s.length position ≤ j ∧ OccursAt s t j} k) ∧
    (indexOf? s t position = none ↔
      ∀ k : Nat, clamp 0 s.length position ≤ k → ¬ OccursAt s t k) ∧
    (∃ k : Nat, k = clamp 0 s.length position ∧ indexOf? s "" position = some k) ∧
    (∃ rest, cut? s (byteOffset s (Position.clamped (length s) position)) s.utf8ByteSize =
        some rest ∧
      ∀ found, findFrom (bytes t) 0 (bytes rest) = some found →
        (cut? s 0 (byteOffset s (Position.clamped (length s) position) + found)).isSome = true) ∧
    (includes s t = true ↔ ∃ k, indexOf? s t 0 = some k) ∧
    (startsWith s t = true ↔ indexOf? s t 0 = some 0) := by
  have hclamp := Position.clamp_eq_clamped s.length position
  have hstart : Position.clamped s.length 0 = 0 := Nat.zero_min _
  refine ⟨fun k => ?_, ?_, ?_, ?_, ?_, ?_⟩
  · rw [indexOf?_eq_some_iff, hclamp]
    simp only [Int.ofNat_le]
  · rw [indexOf?_eq_none_iff, hclamp]
    simp only [Int.ofNat_le]
  · refine ⟨_, hclamp.symm, indexOf?_of_isLeast ⟨⟨Nat.le_refl _, ?_⟩, fun j hj => hj.1⟩⟩
    exact occursAt_iff.2 ⟨clamped_le s position, List.nil_prefix⟩
  · rw [length_eq, String.length_toList]
    exact ⟨_, cut?_rest (clamped_le s position),
      fun found h => isSome_cut?_found h⟩
  · rw [includes_iff, ← Option.ne_none_iff_exists', ne_eq, indexOf?_eq_none_iff, hstart]
    push Not
    simp only [Nat.zero_le, true_and]
  · rw [startsWith_iff, indexOf?_eq_some_iff, hstart]
    exact ⟨fun h => ⟨⟨Nat.le_refl 0, h⟩, fun j _ => Nat.zero_le j⟩, fun h => h.1.2⟩

/-- Places count characters, however many bytes these have. -/
example : indexOf? "é😀é😀" "😀" 2 = some 3 := by decide +kernel

end Text

end ScriptValues
