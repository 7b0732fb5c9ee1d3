import ScriptValues.Text.Operations

/-!
Bytes and code points name the same characters. In a text of ASCII characters the bytes are the
characters. In every text the offset of a code point is the number of bytes of the characters in
front of it, so what is cut out between two code points starts and ends between characters.
-/

namespace ScriptValues

namespace Text

/-- Only the first 128 code points are written as one byte that is below 128. -/
theorem forall_byte_lt_iff (c : Char) :
    (∀ b ∈ String.utf8EncodeChar c, b < 128) ↔ c.toNat < 128 := by
  have hsmall : ∀ n < 256, (UInt8.ofNat n < 128 ↔ n < 128) := by
    intro n hn
    rw [UInt8.lt_iff_toNat_lt, UInt8.toNat_ofNat', Nat.mod_eq_of_lt hn]
    rfl
  have hlarge : ∀ n < 256, 128 ≤ n → ∀ rest, ¬ ∀ b ∈ UInt8.ofNat n :: rest, b < 128 := by
    intro n hn hle rest hall
    have := (hsmall n hn).1 (hall _ List.mem_cons_self)
    omega
  rw [Char.toNat]
  unfold String.utf8EncodeChar
  generalize c.val.toNat = v
  dsimp only
  split
  · rw [List.forall_mem_singleton, hsmall _ (by omega)]
  -- longer encodings start with a byte that is not ASCII
  · refine iff_of_false ?_ (by omega)
    split
    · exact hlarge _ (by omega) (by omega) _
    · split
      · exact hlarge _ (by omega) (by omega) _
      · exact hlarge _ (by omega) (by omega) _

theorem utf8EncodeChar_of_lt {c : Char} (hc : c.toNat < 128) :
    String.utf8EncodeChar c = [UInt8.ofNat c.toNat] := by
  unfold String.utf8EncodeChar
  exact if_pos (Nat.le_of_lt_succ hc)

theorem bytes_eq_flatMap (s : String) :
    s.toByteArray.data.toList = s.toList.flatMap String.utf8EncodeChar := by
  rw [← String.utf8Encode_toList, List.utf8Encode, List.toList_data_toByteArray]

/-- All bytes are ASCII when all characters are. -/
theorem isAscii_iff (s : String) : isAscii s = true ↔ ∀ c ∈ s.toList, c.toNat < 128 := by
  rw [isAscii, ← Array.all_toList, bytes_eq_flatMap, List.all_eq_true]
  simp only [decide_eq_true_eq, List.mem_flatMap, forall_exists_index, and_imp]
  constructor
  · intro hall c hc
    exact (forall_byte_lt_iff c).1 fun b hb => hall b c hc hb
  · intro hall b c hc
    exact (forall_byte_lt_iff c).2 (hall c hc) b

/-- In a text of ASCII characters each byte is one of them. -/
theorem bytes_of_isAscii {s : String} (h : isAscii s = true) :
    s.toByteArray.data.toList = s.toList.map (UInt8.ofNat ·.toNat) := by
  have hall := (isAscii_iff s).1 h
  rw [bytes_eq_flatMap]
  generalize s.toList = cs at hall
  induction cs with
  | nil => rfl
  | cons c cs ih =>
      rw [List.flatMap_cons, utf8EncodeChar_of_lt (hall c List.mem_cons_self), List.map_cons,
        ih fun d hd => hall d (List.mem_cons_of_mem c hd), List.singleton_append]

theorem utf8ByteSize_of_isAscii {s : String} (h : isAscii s = true) :
    s.utf8ByteSize = s.toList.length := by
  rw [← String.size_toByteArray, ByteArray.size, ← Array.length_toList, bytes_of_isAscii h,
    List.length_map]

theorem length_eq (s : String) : length s = s.toList.length := by
  rw [length]
  split
  · next hascii => exact utf8ByteSize_of_isAscii hascii
  · rfl

theorem codePoint?_eq (s : String) (i : Nat) : codePoint? s i = s.toList[i]? := by
  rw [codePoint?]
  split
  · next hascii =>
    have hall := (isAscii_iff s).1 hascii
    rw [← Array.getElem?_toList, bytes_of_isAscii hascii, List.getElem?_map, Option.map_map]
    cases hi : s.toList[i]? with
    | none => rfl
    | some c =>
        have hc := hall c (List.mem_of_getElem? hi)
        have hbyte : (UInt8.ofNat c.toNat).toNat = c.toNat := by
          rw [UInt8.toNat_ofNat']
          omega
        simp only [Option.map_some, Function.comp_apply, hbyte, Char.ofNat_toNat]
  · rfl

/-- The number of bytes of the first `count` characters of a text. -/
def bytesBefore (cs : List Char) (count : Nat) : Nat :=
  (String.ofList (cs.take count)).utf8ByteSize

theorem utf8ByteSize_ofList_cons (c : Char) (cs : List Char) :
    (String.ofList (c :: cs)).utf8ByteSize = c.utf8Size + (String.ofList cs).utf8ByteSize := by
  rw [String.ofList_cons, String.utf8ByteSize_append, String.utf8ByteSize_singleton]

theorem startsFrom_getD (offset i : Nat) (cs : List Char) :
    (startsFrom offset cs)[i]?.getD (offset + (String.ofList cs).utf8ByteSize) =
      offset + bytesBefore cs i := by
  induction cs generalizing offset i with
  | nil => simp [startsFrom, bytesBefore]
  | cons c cs ih =>
      rw [startsFrom, bytesBefore]
      cases i with
      | zero => simp
      | succ i =>
          rw [List.getElem?_cons_succ, List.take_succ_cons, utf8ByteSize_ofList_cons,
            utf8ByteSize_ofList_cons, ← Nat.add_assoc, ← Nat.add_assoc, ih, bytesBefore]

/-- A code point starts after the bytes of the characters in front of it. -/
theorem byteOffset_eq (s : String) (i : Nat) : byteOffset s i = bytesBefore s.toList i := by
  rw [byteOffset]
  split
  · next hascii =>
    have hfront : isAscii (String.ofList (s.toList.take i)) = true := by
      rw [isAscii_iff, String.toList_ofList]
      exact fun c hc => (isAscii_iff s).1 hascii c (List.mem_of_mem_take hc)
    rw [bytesBefore, utf8ByteSize_of_isAscii hfront, utf8ByteSize_of_isAscii hascii,
      String.toList_ofList, List.length_take]
  · have hstart := startsFrom_getD 0 i s.toList
    rwa [String.ofList_toList, Nat.zero_add, Nat.zero_add] at hstart

/-- Bytes in front of a text and behind it can be cut off. -/
theorem cut?_append (front middle back : String) :
    cut? (front ++ middle ++ back) front.utf8ByteSize
      (front.utf8ByteSize + middle.utf8ByteSize) = some middle := by
  have hstart : String.Pos.Raw.IsValid (front ++ middle ++ back) ⟨front.utf8ByteSize⟩ :=
    String.Pos.Raw.isValid_iff_exists_append.2
      ⟨front, middle ++ back, String.append_assoc .., rfl⟩
  have hstop : String.Pos.Raw.IsValid (front ++ middle ++ back)
      ⟨front.utf8ByteSize + middle.utf8ByteSize⟩ :=
    String.Pos.Raw.isValid_iff_exists_append.2
      ⟨front ++ middle, back, rfl, String.Pos.Raw.ext String.utf8ByteSize_append.symm⟩
  rw [cut?, dif_pos ⟨hstart, hstop, Nat.le_add_right _ _⟩, Option.some_inj,
    ← String.toByteArray_inj, String.toByteArray_extract]
  simp only [String.offset_pos, String.toByteArray_append, ByteArray.append_assoc]
  have hbehind := @ByteArray.extract_append_size_add front.toByteArray
    (middle.toByteArray ++ back.toByteArray) 0 middle.toByteArray.size
  rw [Nat.add_zero, ByteArray.extract_append_eq_left rfl] at hbehind
  exact hbehind

/-- What is cut out between two code points is the characters between them. -/
theorem cut?_byteOffset (s : String) {first last : Nat} (h : first ≤ last) :
    cut? s (byteOffset s first) (byteOffset s last) =
      some (String.ofList ((s.toList.take last).drop first)) := by
  have hcut := cut?_append (String.ofList (s.toList.take first))
    (String.ofList ((s.toList.take last).drop first)) (String.ofList (s.toList.drop last))
  have htake : s.toList.take first ++ (s.toList.take last).drop first = s.toList.take last := by
    have hsplit := List.take_append_drop first (s.toList.take last)
    rwa [List.take_take, Nat.min_eq_left h] at hsplit
  rwa [← String.utf8ByteSize_append, ← String.ofList_append, htake, ← String.ofList_append,
    List.take_append_drop, String.ofList_toList, ← bytesBefore, ← bytesBefore, ← byteOffset_eq,
    ← byteOffset_eq] at hcut

theorem codePointsBetween_eq (s : String) {first last : Nat} (h : first ≤ last) :
    codePointsBetween s first last = String.ofList ((s.toList.take last).drop first) := by
  have hcut := cut?_byteOffset s h
  rw [codePointsBetween]
  split
  · next hall =>
    rw [hall.1, hall.2] at hcut
    have hwhole := cut?_append "" s ""
    rw [String.empty_append, String.append_empty, String.utf8ByteSize_empty, Nat.zero_add] at hwhole
    rwa [hwhole, Option.some_inj] at hcut
  · rw [hcut, Option.getD_some]

theorem relativeChar?_eq (s : String) (p : Int) :
    relativeChar? s p = Position.relativeElement? s.toList p := by
  rw [relativeChar?, Position.relativeElement?, Position.element?, length_eq]
  generalize (if p < 0 then (ExtendedInt.ofInt (s.toList.length + p)).saturate else p) = k
  by_cases hneg : k < 0
  · rw [if_pos (Or.inl hneg), if_pos hneg]
  · rw [if_neg hneg, codePoint?_eq]
    split
    · rw [List.getElem?_eq_none (by omega)]
    · rfl

theorem placeIn?_bind (s : String) (p : Int) :
    (placeIn? s p).bind (codePoint? s) = Position.element? s.toList p := by
  rw [placeIn?, Position.element?, length_eq]
  by_cases hneg : p < 0
  · rw [if_neg (by omega), if_pos hneg]
    rfl
  · rw [if_neg hneg]
    split
    · exact codePoint?_eq s p.toNat
    · rw [List.getElem?_eq_none (by omega)]
      rfl

theorem charAt_eq (s : String) (p : Int) :
    charAt s p = ((Position.element? s.toList p).map .singleton).getD "" := by
  rw [charAt, placeIn?_bind]

theorem codePointAt?_eq (s : String) (p : Int) :
    codePointAt? s p = (Position.element? s.toList p).map (·.toNat) := by
  rw [codePointAt?, placeIn?_bind]

theorem slice_eq (s : String) (start : Int) (stop? : Option Int) :
    slice s start stop? = String.ofList (Position.slice s.toList start stop?) := by
  rw [slice, Position.slice, Position.between, length_eq]
  split
  · next hcrossed =>
    rw [List.drop_eq_nil_of_le, String.ofList_nil]
    exact Nat.le_trans (List.length_take_le _ _) hcrossed
  · next hordered => exact codePointsBetween_eq s (Nat.le_of_lt (Nat.lt_of_not_le hordered))

theorem substring_eq (s : String) (start : Int) (stop? : Option Int) :
    substring s start stop? = String.ofList (Position.between s.toList
      (min (Position.clamped s.toList.length start)
        (stop?.elim s.toList.length (Position.clamped s.toList.length)))
      (max (Position.clamped s.toList.length start)
        (stop?.elim s.toList.length (Position.clamped s.toList.length)))) := by
  have hstop : Position.clamped s.toList.length (stop?.getD s.toList.length) =
      stop?.elim s.toList.length (Position.clamped s.toList.length) := by
    cases stop? with
    | none => simp [Position.clamped]
    | some stop => rfl
  rw [substring, length_eq, hstop]
  exact codePointsBetween_eq s (by omega)

end Text

end ScriptValues
