import ScriptValues.Invocation
import ScriptValues.Proofs.CodePoints
import ScriptValues.Proofs.WholeDigits

/-!
The keys of places. A key names a place when it is the decimal text of a number below 2^64: nothing
but ASCII digits, and no zero in front of others. So every place has one key, which is also the text
of its number as a value, and the properties of an array or a text with such keys are its elements.
-/

namespace ScriptValues

namespace Numeral

variable {base : Nat}

/-- Digits put together in words give their number, or nothing when it does not fit into a word. -/
theorem word?_eq (hbase : 0 < base) (ds : List Nat) :
    word? base ds = if value base ds < UInt64.size then some (value base ds) else none := by
  induction ds using List.reverseRecOn with
  | nil => rfl
  | append_singleton ds d ih =>
      have hstep : word? base (ds ++ [d]) =
          (word? base ds).bind fun n => pushDigit? base n d := by
        simp [word?]
      have hle := value_le_append hbase ds [d]
      rw [hstep, ih, value_append_singleton]
      rw [value_append_singleton] at hle
      split
      · rfl
      -- what does not fit does not fit with one more digit either
      · rw [if_neg (by omega)]
        rfl

/-- Decimal digits have one character each. -/
theorem eq_digitChar {c : Char} {d : Nat} (h : digitValue? 10 c = some d) : c = digitChar d := by
  have hrange : d < 10 ∧ c.toNat = 48 + d := by
    unfold digitValue? at h
    grind
  rw [digitChar, if_pos hrange.1, ← hrange.2, Char.ofNat_toNat]

theorem Spelled.eq_map {cs : List Char} {ds : List Nat} (h : Spelled 10 cs ds) :
    cs = ds.map digitChar := by
  induction h with
  | nil => rfl
  | cons hd _ ih => rw [List.map_cons, ← ih, eq_digitChar hd]

/-- A text of nothing but digits spells those that are read from it. -/
theorem spelled_of_all {cs : List Char} (h : cs.all (isDigit base) = true) :
    Spelled base cs (cs.filterMap (digitValue? base)) := by
  induction cs with
  | nil => exact .nil
  | cons c cs ih =>
      rw [List.all_cons, Bool.and_eq_true] at h
      obtain ⟨d, hd⟩ := Option.isSome_iff_exists.1 h.1
      rw [List.filterMap_cons_some hd]
      exact .cons hd (ih h.2)

/-- A number is written without a zero too many. -/
theorem canonical_shownDigits (hbase : 2 ≤ base) (n : Nat) :
    Canonical base (shownDigits base n) [] where
  nonempty := shownDigits_ne_nil hbase n
  whole_lt _ hd := shownDigits_lt hbase hd
  fraction_lt := by simp
  trailing := by simp
  leading hzero := by
    unfold shownDigits at hzero ⊢
    split
    · rfl
    · next hn =>
      rw [if_neg hn] at hzero
      exact absurd hzero (head?_digits_ne_zero hbase n)

/-- No other digits of a number are written this way. -/
theorem Canonical.shownDigits_value (hbase : 2 ≤ base) {ds : List Nat} (h : Canonical base ds []) :
    shownDigits base (value base ds) = ds := by
  by_cases hzero : ds.head? = some 0
  · rw [h.leading hzero]
    simp [shownDigits, value]
  have hdigits : digits base (value base ds) = ds := by
    rw [digits_eq_reverse hbase, value_eq_ofDigits, Nat.digits_ofDigits base (by omega),
      List.reverse_reverse]
    · exact fun d hd => h.whole_lt d (List.mem_reverse.1 hd)
    · intro hne hlast
      rw [List.getLast_reverse] at hlast
      exact hzero (hlast ▸ List.head?_eq_some_head h.nonempty)
  rw [shownDigits, if_neg, hdigits]
  intro hvalue
  rw [hvalue, digits_zero] at hdigits
  exact h.nonempty hdigits.symm

/-- What is tested on the characters of a text of digits holds of the digits. -/
theorem leads_iff_not_canonical {ds : List Nat} (hds : ∀ d ∈ ds, d < 10) :
    (ds.map digitChar = [] ∨
      (1 < (ds.map digitChar).length ∧ (ds.map digitChar).head? = some '0')) ↔
    ¬ Canonical 10 ds [] := by
  cases ds with
  | nil => exact iff_of_true (.inl rfl) fun h => h.nonempty rfl
  | cons d ds =>
      have hzero := digitChar_eq_zero_iff d (hds d List.mem_cons_self)
      simp only [List.map_cons, List.length_cons, List.length_map, List.head?_cons, Option.some_inj,
        hzero, reduceCtorEq, false_or]
      constructor
      · rintro ⟨hlong, rfl⟩ h
        cases h.leading rfl
        exact Nat.lt_irrefl 1 hlong
      · intro h
        by_contra hlead
        refine h ⟨List.cons_ne_nil _ _, hds, by simp, fun hhead => ?_, by simp⟩
        obtain rfl : d = 0 := Option.some_inj.1 hhead
        cases ds with
        | nil => rfl
        | cons e es => exact absurd ⟨by simp, rfl⟩ hlead

end Numeral

open Numeral

/-- A key of canonical digits names the place of their number. -/
theorem indexOfKey?_digits {ds : List Nat} (h : Canonical 10 ds []) :
    indexOfKey? (String.ofList (ds.map digitChar)) = word? 10 ds := by
  have hlead := mt (leads_iff_not_canonical h.whole_lt).1 (not_not_intro h)
  have hall := List.all_eq_true.2 (spelled_digitChars (by decide) h.whole_lt).isDigit_of_mem
  rw [indexOfKey?, String.toList_ofList, if_neg hlead, if_pos hall, filterMap_digitChar h.whole_lt]

/-- No other key names a place. -/
theorem exists_digits_of_indexOfKey? {key : String} {i : Nat} (h : indexOfKey? key = some i) :
    ∃ ds, Canonical 10 ds [] ∧ key = String.ofList (ds.map digitChar) := by
  unfold indexOfKey? at h
  dsimp only at h
  split at h
  · cases h
  · next hlead =>
    split at h
    · next hall =>
      have hspelled := spelled_of_all hall
      rw [hspelled.eq_map, leads_iff_not_canonical hspelled.lt_base, not_not] at hlead
      exact ⟨_, hlead, by rw [← hspelled.eq_map, String.ofList_toList]⟩
    · cases h

/-- A key names a place exactly when it is the decimal text of a number that fits into a word. -/
theorem indexOfKey?_eq_some_iff {key : String} {i : Nat} :
    indexOfKey? key = some i ↔ key = toString i ∧ i < 2 ^ (64 : Nat) := by
  have hsize : UInt64.size = 2 ^ (64 : Nat) := rfl
  rw [← natText_eq_toString, natText, natChars_eq, ← hsize]
  constructor
  · intro h
    obtain ⟨ds, hds, rfl⟩ := exists_digits_of_indexOfKey? h
    rw [indexOfKey?_digits hds, word?_eq (by decide)] at h
    split at h
    · next hword =>
      obtain rfl := Option.some.inj h
      rw [hds.shownDigits_value (by decide)]
      exact ⟨rfl, hword⟩
    · cases h
  · rintro ⟨rfl, hword⟩
    rw [indexOfKey?_digits (canonical_shownDigits (by decide) i), word?_eq (by decide),
      value_shownDigits (by decide), if_pos hword]

/-- No zeros in front, no sign and no digits of other scripts. -/
example : indexOfKey? "10" = some 10 ∧
    ∀ key ∈ ["010", "+1", "1.0", "١"], indexOfKey? key = none := by decide

/-- The decimal text of a number below 2^64 is the key of that place. -/
theorem indexOfKey?_natText {n : Nat} (hn : n < 2 ^ (64 : Nat)) :
    indexOfKey? (natText n) = some n :=
  indexOfKey?_eq_some_iff.2 ⟨natText_eq_toString n, hn⟩

/-- A text with a sign in front is no key of a place. -/
theorem indexOfKey?_minus (text : String) : indexOfKey? ("-" ++ text) = none := by
  have hsign : ("-" ++ text).toList.all (isDigit 10) = false := by
    rw [String.toList_append]
    rfl
  rw [indexOfKey?, hsign, if_neg Bool.false_ne_true, ite_self]

namespace Value

/-- The number of a place is printed as the key of the place, up to 2^53. -/
theorem text_ofNat {printer : DecimalPrinter} (hprinter : printer.Documented) {n : Nat}
    (hn : n ≤ 2 ^ (53 : Nat)) : (Value.ofNat n).text printer = toString n := by
  have hchars := Double.plain_ofNat hprinter hn
  rw [← natText_eq_toString, natText, ← hchars]
  simp [ofNat, text, scalarText, Double.text]

/-- The properties of a value with keys of places are these elements: the decimal text of a place,
which is a word, is the key of what stands there, past the end undefined; no other text is a key of
anything but the length; and the number of a place is a key of it by its own text, whatever library
prints it. -/
structure HasElements (receiver : Value) (es : List Value) : Prop where
  element : ∀ i < 2 ^ (64 : Nat), receiver.property (toString i) = .ok (Sequence.get es i)
  other : ∀ key : String, key ≠ "length" → (∀ i < es.length, key ≠ toString i) →
    receiver.property key = .ok .undefined
  number : ∀ i ≤ 2 ^ (53 : Nat), ∀ printer : DecimalPrinter, printer.Documented →
    receiver.property ((ofNat i).text printer) = .ok (Sequence.get es i)

theorem hasElements_of_property {receiver : Value} {es : List Value}
    (h : ∀ key : String, key ≠ "length" → receiver.property key =
      .ok ((indexOfKey? key).elim .undefined (Sequence.get es))) :
    receiver.HasElements es := by
  have helement : ∀ i < 2 ^ (64 : Nat),
      receiver.property (toString i) = .ok (Sequence.get es i) := by
    intro i hi
    have hindex := indexOfKey?_eq_some_iff.2 ⟨rfl, hi⟩
    have hkey : toString i ≠ "length" := by
      intro heq
      have hlength : indexOfKey? "length" = none := by decide
      rw [heq, hlength] at hindex
      cases hindex
    rw [h _ hkey, hindex, Option.elim_some]
  refine ⟨helement, ?_, ?_⟩
  · intro key hkey hnone
    rw [h key hkey]
    cases hindex : indexOfKey? key with
    | none => rfl
    | some i =>
        have hi : es.length ≤ i :=
          Nat.not_lt.1 fun hlt => hnone i hlt (indexOfKey?_eq_some_iff.1 hindex).1
        rw [Option.elim_some, Sequence.get, List.getD_eq_getElem?_getD, List.getElem?_eq_none hi,
          Option.getD_none]
  · intro i hi printer hprinter
    rw [text_ofNat hprinter hi]
    exact helement i (by omega)

/-- Arrays have their elements under the keys of places and texts have their code points. -/
theorem property_eq_elements :
    (∀ vs : List Value, (array vs).HasElements vs) ∧
    ∀ s : String, (string s).HasElements (s.toList.map (string ∘ String.singleton)) := by
  constructor
  · intro vs
    apply hasElements_of_property
    intro key hkey
    rw [property, if_neg hkey]
    cases indexOfKey? key <;> rfl
  · intro s
    apply hasElements_of_property
    intro key hkey
    rw [property, if_neg hkey]
    cases indexOfKey? key with
    | none => rfl
    | some i =>
        rw [Option.elim_some, Sequence.get, List.getD_eq_getElem?_getD, List.getElem?_map,
          ← Text.codePoint?_eq]

end Value

end ScriptValues
