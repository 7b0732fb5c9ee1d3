import ScriptValues.Proofs.IndexKeys

/-!
A text and the array of its code points. Splitting a text at the empty text gives an array of its
characters; whatever reads the text by position agrees with what the array holds there, and joining
the array gives the text back.
-/

namespace ScriptValues

namespace Position

variable {α β : Type} (f : α → β) (xs : List α)

theorem element?_map (p : Int) : element? (xs.map f) p = (element? xs p).map f := by
  unfold element?
  split
  · rfl
  · rw [List.getElem?_map]

theorem relativeElement?_map (p : Int) :
    relativeElement? (xs.map f) p = (relativeElement? xs p).map f := by
  rw [relativeElement?, relativeElement?, element?_map, List.length_map]

theorem slice_map (start : Int) (stop? : Option Int) :
    slice (xs.map f) start stop? = (slice xs start stop?).map f := by
  rw [slice, slice, between, between, List.length_map, List.map_drop, List.map_take]

/-- A position kept within a list is one of its places, also counted from the end. -/
theorem relative_natCast {n k : Nat} (hk : k ≤ n) : relative n k = k := by
  unfold relative
  split <;> omega

theorem clamp_eq_clamped (n : Nat) (p : Int) : clamp 0 n p = clamped n p := by
  unfold clamp clamped
  omega

end Position

namespace Text

/-- The array of the code points of a text: its parts between empty texts. -/
def elements (s : String) : List Value := splitValues s (some "") .undefined

theorem elements_eq (s : String) :
    elements s = s.toList.map (Value.string ∘ String.singleton) := by
  have hsplit : split "".toList s.toList = s.toList.map ([·]) := if_pos rfl
  rw [elements, splitValues, parts, hsplit, List.map_map, List.map_map]
  exact List.map_congr_left fun c _ => congrArg Value.string String.singleton_eq_ofList.symm

/-- How a text answers for a position at which the array of its code points has this element, or
none. -/
def Names (s : String) (i : Int) : Option Value → Prop
  | some element => ∃ c : Char, element = .string (.singleton c) ∧
      charAt s i = .singleton c ∧
      (Value.string s).property (Numeral.intText i) = .ok element ∧
      codePointAt? s i = some c.toNat ∧
      charCodeAt s i = .ofNat c.toNat
  | none => charAt s i = "" ∧
      (Value.string s).property (Numeral.intText i) = .ok .undefined ∧
      codePointAt? s i = none ∧
      charCodeAt s i = .nan

/-- A property of a text with the key of a position is the character at that position. -/
theorem property_intText (s : String) {i : Int} (hi : i < 2 ^ (64 : Nat)) :
    (Value.string s).property (Numeral.intText i) =
      .ok (((Position.element? s.toList i).map (Value.string ∘ .singleton)).getD .undefined) := by
  have hlengthKey : indexOfKey? "length" = none := by decide
  rw [Numeral.intText, Position.element?]
  by_cases hneg : i < 0
  · have hkey : "-" ++ Numeral.natText i.natAbs ≠ "length" := by
      intro heq
      have hchars := congrArg String.toList heq
      rw [String.toList_append] at hchars
      exact absurd (congrArg List.head? hchars) (by simp)
    rw [if_pos hneg, if_pos hneg, Value.property, if_neg hkey, indexOfKey?_minus]
    rfl
  · have hindex := indexOfKey?_natText (n := i.natAbs) (by omega)
    have hkey : Numeral.natText i.natAbs ≠ "length" := by
      intro heq
      rw [heq, hlengthKey] at hindex
      cases hindex
    have htoNat : i.natAbs = i.toNat := by omega
    rw [if_neg hneg, if_neg hneg, Value.property, if_neg hkey, hindex, ← htoNat]
    exact congrArg (fun c? : Option Char => Except.ok ((c?.map _).getD _)) (codePoint?_eq s _)

theorem names_element? (s : String) {i : Int} (hi : i < 2 ^ (64 : Nat)) :
    Names s i (Position.element? (elements s) i) := by
  have hproperty := property_intText s hi
  have hcharAt := charAt_eq s i
  have hcodePoint := codePointAt?_eq s i
  rw [elements_eq, Position.element?_map]
  cases hc : Position.element? s.toList i with
  | none =>
      rw [hc] at hproperty hcharAt hcodePoint
      have hcharCode : charCodeAt s i = .nan := by
        rw [charCodeAt, hcodePoint, Option.map_none, Option.map_none, Option.getD_none]
      exact ⟨hcharAt, hproperty, hcodePoint, hcharCode⟩
  | some c =>
      rw [hc] at hproperty hcharAt hcodePoint
      have hcharCode : charCodeAt s i = .ofNat c.toNat := by
        rw [charCodeAt, hcodePoint, Option.map_some, Option.map_some, Option.getD_some]
      exact ⟨c, rfl, hcharAt, hproperty, hcodePoint, hcharCode⟩

/-- Taking a text between two places is slicing it, with the places put in order. -/
theorem substring_eq_slice (s : String) (a : Int) (b? : Option Int) :
    let n : Int := length s
    let first := clamp 0 n a
    let last := b?.elim n (clamp 0 n)
    substring s a b? = slice s (min first last) (some (max first last)) := by
  intro n first last
  rw [substring_eq, slice_eq, Position.slice]
  have hfirst : first = (Position.clamped s.toList.length a : Nat) := by
    rw [← length_eq]
    exact Position.clamp_eq_clamped _ a
  have hlast : last = (b?.elim s.toList.length (Position.clamped s.toList.length) : Nat) := by
    rw [← length_eq]
    cases b? with
    | none => rfl
    | some b => exact Position.clamp_eq_clamped _ b
  have hfirstLe : Position.clamped s.toList.length a ≤ s.toList.length := Nat.min_le_right _ _
  have hlastLe : b?.elim s.toList.length (Position.clamped s.toList.length) ≤
      s.toList.length := by
    cases b? with
    | none => exact Nat.le_refl _
    | some b => exact Nat.min_le_right _ _
  rw [hfirst, hlast, ← Nat.cast_min, ← Nat.cast_max, Option.elim_some,
    Position.relative_natCast (by omega), Position.relative_natCast (by omega)]

theorem joinOnto_characters (line : String) (cs : List Char) :
    Value.joinOnto "" line (cs.map (Value.string ∘ String.singleton)) =
      line ++ String.ofList cs := by
  induction cs generalizing line with
  | nil => rw [List.map_nil, Value.joinOnto, String.ofList_nil, String.append_empty]
  | cons c cs ih =>
      rw [List.map_cons, Value.joinOnto, ih, String.append_empty, String.append_assoc,
        String.ofList_cons]
      rfl

/-- Joining the characters of a text gives the text. -/
theorem join_elements (s : String) : Value.join "" (elements s) = s := by
  have hjoin : ∀ cs : List Char,
      Value.join "" (cs.map (Value.string ∘ String.singleton)) = String.ofList cs := by
    intro cs
    cases cs with
    | nil => rfl
    | cons c cs =>
        rw [List.map_cons, Value.join, joinOnto_characters, String.ofList_cons]
        rfl
  rw [elements_eq, hjoin, String.ofList_toList]

/-- A text and the array of its code points agree. They have the same length; what stands at a
relative position, and between two of them, is the same; the four ways to read a position name the
element there, and are empty where there is none; taking what is between two places, in either
order, is slicing; and joining the array gives the text. No cut that slicing makes falls inside a
character. -/
theorem agrees_with_elements (s : String) :
    length s = (elements s).length ∧
    (∀ i : Int64, ((relativeChar? s i.toInt).map (Value.string ∘ .singleton)).getD .undefined =
      Sequence.relativeElement (elements s) i.toInt) ∧
    (∀ (start : Int64) (stop? : Option Int64),
      elements (slice s start.toInt (stop?.map (·.toInt))) =
        Sequence.slice (elements s) start.toInt (stop?.map (·.toInt))) ∧
    (∀ i : Int64, Names s i.toInt (Position.element? (elements s) i.toInt)) ∧
    (∀ (a : Int64) (b? : Option Int64),
      let n : Int := length s
      let first := clamp 0 n a.toInt
      let last := b?.elim n fun b => clamp 0 n b.toInt
      substring s a.toInt (b?.map (·.toInt)) = slice s (min first last) (some (max first last))) ∧
    Value.join "" (elements s) = s ∧
    (∀ i j : Nat, (cut? s (byteOffset s (min i j)) (byteOffset s (max i j))).isSome = true) := by
  refine ⟨?_, ?_, ?_, ?_, ?_, join_elements s, ?_⟩
  · rw [length_eq, elements_eq, List.length_map]
  · intro i
    rw [relativeChar?_eq, Sequence.relativeElement, elements_eq, Position.relativeElement?_map]
  · intro start stop?
    rw [slice_eq, elements_eq, elements_eq, String.toList_ofList, Sequence.slice,
      Position.slice_map]
  · intro i
    have hi := i.toInt_lt
    exact names_element? s (by omega)
  · intro a b?
    have hsubstring := substring_eq_slice s a.toInt (b?.map (·.toInt))
    cases b? <;> exact hsubstring
  · intro i j
    rw [cut?_byteOffset s (by omega), Option.isSome_some]

end Text

end ScriptValues
