import Mathlib.Tactic.SplitIfs
import ScriptValues.Proofs.FailedCalls
import ScriptValues.Proofs.TextSearch

/-!
Positions and counts without bounds. A method gets its positions cut down to the range of 64-bit
words; here each such method is given a second time, over whole parts of any size and the two
infinities. On lists shorter than 2^63 nothing can tell the two apart: each of the few ways to
resolve a position is shown to be unaffected by the cut, and the methods follow.
-/

namespace ScriptValues

namespace ExtendedInt

variable {α : Type}

/-- The place from 0 to `n` that is nearest to a position. -/
def clampTo (n : Nat) : ExtendedInt → Nat
  | .negInfinity => 0
  | .ofInt k => if k < 0 then 0 else if n < k then n else k.toNat
  | .posInfinity => n

/-- A position in a list of length `n`, where a negative one counts back from the end. -/
def fromEnd (n : Nat) : ExtendedInt → ExtendedInt
  | .negInfinity => .negInfinity
  | .ofInt k => .ofInt (if k < 0 then n + k else k)
  | .posInfinity => .posInfinity

/-- The element at a position; none out of range. -/
def elementOf? (xs : List α) : ExtendedInt → Option α
  | .ofInt k => if k < 0 then none else xs[k.toNat]?
  | .negInfinity | .posInfinity => none

/-- A list without the element at a position; the whole list out of range. -/
def removeFrom (xs : List α) : ExtendedInt → List α
  | .ofInt k => if k < 0 then xs else xs.take k.toNat ++ xs.drop (k.toNat + 1)
  | .negInfinity | .posInfinity => xs

/-- An integer stands for a position on lists of length `n`: it is the position, or both lie before
the list, or both lie at its end or after it. -/
inductive StandsFor (n : Nat) : Int → ExtendedInt → Prop
  | same {k : Int} : StandsFor n k (.ofInt k)
  | before {x k : Int} (hx : x < 0) (hk : k < 0) : StandsFor n x (.ofInt k)
  | behind {x k : Int} (hx : n ≤ x) (hk : n ≤ k) : StandsFor n x (.ofInt k)
  | negInfinity {x : Int} (hx : x < 0) : StandsFor n x .negInfinity
  | posInfinity {x : Int} (hx : n ≤ x) : StandsFor n x .posInfinity

namespace StandsFor

variable {n : Nat} {x : Int} {p : ExtendedInt}

theorem clamped_eq (h : StandsFor n x p) : Position.clamped n x = p.clampTo n := by
  unfold Position.clamped
  cases h with
  | same | behind hx hk =>
      simp only [clampTo]
      split_ifs <;> omega
  | before hx hk =>
      rw [clampTo, if_pos hk]
      omega
  | negInfinity hx | posInfinity hx =>
      rw [clampTo]
      omega

theorem element?_eq {xs : List α} (h : StandsFor xs.length x p) :
    Position.element? xs x = p.elementOf? xs := by
  cases h with
  | same => rfl
  | before hx hk => rw [Position.element?, elementOf?, if_pos hx, if_pos hk]
  | behind hx hk =>
      rw [Position.element?, elementOf?, if_neg (by omega), if_neg (by omega),
        List.getElem?_eq_none (by omega), List.getElem?_eq_none (by omega)]
  | negInfinity hx => exact if_pos hx
  | posInfinity hx =>
      rw [Position.element?, elementOf?, if_neg (by omega), List.getElem?_eq_none (by omega)]

theorem remove_eq {vs : List Value} (h : StandsFor vs.length x p) :
    Sequence.remove vs x = p.removeFrom vs := by
  rw [Sequence.remove]
  cases h with
  | same => rw [removeFrom, List.eraseIdx_eq_take_drop_succ]
  | before hx hk => rw [removeFrom, if_pos hx, if_pos hk]
  | behind hx hk =>
      rw [removeFrom, if_neg (by omega), if_neg (by omega), List.eraseIdx_of_length_le (by omega),
        List.take_of_length_le (by omega), List.drop_eq_nil_of_le (by omega), List.append_nil]
  | negInfinity hx => exact if_pos hx
  | posInfinity hx => rw [removeFrom, if_neg (by omega), List.eraseIdx_of_length_le (by omega)]

end StandsFor

theorem wordMin_eq : wordMin = -wordMax - 1 := by decide

theorem wordMax_pos : 0 < wordMax := by decide

theorem saturate_of_lt {k : Int} (h : k < wordMin) : (ofInt k).saturate = wordMin := if_pos h

theorem saturate_of_gt {k : Int} (h : wordMax < k) : (ofInt k).saturate = wordMax := by
  have hwords := wordMin_eq
  have hpos := wordMax_pos
  rw [saturate, if_neg (by omega), if_pos h]

theorem saturate_of_le {k : Int} (hleast : wordMin ≤ k) (hmost : k ≤ wordMax) :
    (ofInt k).saturate = k := by
  rw [saturate, if_neg (by omega), if_neg (by omega)]

variable {n : Nat}

/-- On a list that is not longer than the largest word, a position cut down to a word stands for the
position. -/
theorem standsFor_saturate (hn : n ≤ wordMax) (p : ExtendedInt) : StandsFor n p.saturate p := by
  have hwords := wordMin_eq
  have hpos := wordMax_pos
  cases p with
  | negInfinity => exact .negInfinity (by rw [saturate]; omega)
  | posInfinity => exact .posInfinity hn
  | ofInt k =>
      rcases Int.lt_or_le k wordMin with hleast | hleast
      · rw [saturate_of_lt hleast]
        exact .before (by omega) (by omega)
      · rcases Int.lt_or_le wordMax k with hmost | hmost
        · rw [saturate_of_gt hmost]
          exact .behind hn (by omega)
        · rw [saturate_of_le hleast hmost]
          exact .same

/-- Counting back from the end keeps this: what is before the list stays before it. -/
theorem standsFor_fromEnd (hn : n ≤ wordMax) (p : ExtendedInt) :
    StandsFor n (if p.saturate < 0 then n + p.saturate else p.saturate) (p.fromEnd n) := by
  have hwords := wordMin_eq
  have hpos := wordMax_pos
  cases p with
  | negInfinity =>
      rw [saturate, if_pos (by omega)]
      exact .negInfinity (by omega)
  | posInfinity =>
      rw [saturate, if_neg (by omega)]
      exact .posInfinity hn
  | ofInt k =>
      rcases Int.lt_or_le k wordMin with hleast | hleast
      · rw [saturate_of_lt hleast, fromEnd, if_pos (by omega), if_pos (by omega)]
        exact .before (by omega) (by omega)
      · rcases Int.lt_or_le wordMax k with hmost | hmost
        · rw [saturate_of_gt hmost, fromEnd, if_neg (by omega), if_neg (by omega)]
          exact .behind hn (by omega)
        · rw [saturate_of_le hleast hmost]
          exact .same

end ExtendedInt

open ExtendedInt

namespace Position

variable {α : Type} {n : Nat} {xs : List α}

theorem clamped_saturate (hn : n ≤ wordMax) (p : ExtendedInt) :
    clamped n p.saturate = p.clampTo n :=
  (standsFor_saturate hn p).clamped_eq

theorem relative_saturate (hn : n ≤ wordMax) (p : ExtendedInt) :
    relative n p.saturate = (p.fromEnd n).clampTo n := by
  rw [← (standsFor_fromEnd hn p).clamped_eq, relative, clamped]
  split <;> omega

theorem element?_saturate (hxs : xs.length ≤ wordMax) (p : ExtendedInt) :
    element? xs p.saturate = p.elementOf? xs :=
  (standsFor_saturate hxs p).element?_eq

theorem relativeElement?_saturate (hxs : xs.length ≤ wordMax) (p : ExtendedInt) :
    relativeElement? xs p.saturate = (p.fromEnd xs.length).elementOf? xs := by
  have hbounds := p.saturate_bounds
  rw [← (standsFor_fromEnd hxs p).element?_eq, relativeElement?]
  split
  · rw [saturate_of_le (by omega) (by omega)]
  · rfl

end Position

namespace Text

/-- From a place on, the first place at which one text occurs in another. -/
def occurrence? (needle cs : List Char) (start : Nat) : Option Nat :=
  (List.range' start (cs.length + 1 - start)).find? fun k => needle.isPrefixOf (cs.drop k)

/-- The first place is the one that a search in the text finds. -/
theorem indexOf?_eq_occurrence? (s t : String) (position : Int) :
    indexOf? s t position =
      occurrence? t.toList s.toList (Position.clamped s.toList.length position) := by
  have hoccurs : ∀ k, t.toList.isPrefixOf (s.toList.drop k) = true ↔ t.toList <+: s.toList.drop k :=
    fun k => List.isPrefixOf_iff_prefix
  have hstart := clamped_le s position
  cases hfound : occurrence? t.toList s.toList (Position.clamped s.toList.length position) with
  | some k =>
      rw [occurrence?, List.find?_range'_eq_some, List.mem_range'_1, hoccurs] at hfound
      obtain ⟨hk, hrange, hfirst⟩ := hfound
      refine indexOf?_of_isLeast ⟨⟨hrange.1, occursAt_iff.2 ⟨by omega, hk⟩⟩, fun j hj => ?_⟩
      by_contra hlt
      have hearlier := hfirst j hj.1 (Nat.lt_of_not_le hlt)
      rw [(hoccurs j).2 (occursAt_iff.1 hj.2).2] at hearlier
      cases hearlier
  | none =>
      rw [occurrence?, List.find?_range'_eq_none] at hfound
      refine indexOf?_of_forall_not fun k hk => ?_
      have hlate := (occursAt_iff.1 hk.2).1
      have hnever := hfound k hk.1 (by rw [String.length_toList] at *; omega)
      rw [(hoccurs k).2 (occursAt_iff.1 hk.2).2] at hnever
      cases hnever

end Text

/-- A place given by an argument that may be left out, which means the end of a list of length
`n`. -/
def Value.placeOr (n : Nat) (place : ExtendedInt → Nat) : Value → Nat
  | .undefined => n
  | v => place v.toExtendedInt

namespace Position

variable {α : Type} {n : Nat} {xs : List α}

/-- The part of a list from one place up to another. -/
def window (xs : List α) (first last : Nat) : List α :=
  (xs.drop first).take (last - first)

theorem between_eq_window (first last : Nat) : between xs first last = window xs first last := by
  rw [between, window, List.drop_take]

/-- An end that may be left out, cut down to a word if it is given. -/
theorem toPosition?_elim {place : Int → Nat} {exact : ExtendedInt → Nat}
    (h : ∀ p : ExtendedInt, place p.saturate = exact p) (v : Value) :
    v.toPosition?.elim n place = v.placeOr n exact := by
  cases v with
  | undefined => rfl
  | _ => exact h _

theorem slice_saturate (hxs : xs.length ≤ wordMax) (start : ExtendedInt) (stop : Value) :
    slice xs start.saturate stop.toPosition? =
      let place := fun p : ExtendedInt => (p.fromEnd xs.length).clampTo xs.length
      window xs (place start) (stop.placeOr xs.length place) := by
  rw [slice, between_eq_window, relative_saturate hxs,
    toPosition?_elim fun p => relative_saturate hxs p]

end Position

open Position

namespace Sequence

theorem splice_saturate {vs : List Value} (hvs : vs.length ≤ wordMax)
    (start count : ExtendedInt) (items : List Value) :
    splice vs start.saturate count.saturate items =
      let first := start.clampTo vs.length
      let taken := count.clampTo (vs.length - first)
      ((vs.drop first).take taken, vs.take first ++ items ++ vs.drop (first + taken)) := by
  have hrest : ((vs.length - start.clampTo vs.length : Nat) : Int) ≤ wordMax := by omega
  rw [splice, clamped_saturate hvs, clamped_saturate hrest, between_eq_window, window,
    Nat.add_sub_cancel_left]

/-- Splicing as called by name, over exact positions: nothing without a start, and without a count
everything after the start goes. -/
def exactSplice (vs : List Value) : List Value → List Value × List Value
  | [] => ([], vs)
  | start :: further =>
    let first := start.toExtendedInt.clampTo vs.length
    let taken := match further with
      | [] => vs.length - first
      | count :: _ => count.toExtendedInt.clampTo (vs.length - first)
    ((vs.drop first).take taken, vs.take first ++ further.drop 1 ++ vs.drop (first + taken))

theorem spliceCalled_eq_exactSplice {vs : List Value} (hvs : vs.length ≤ wordMax)
    (args : List Value) : spliceCalled vs args = exactSplice vs args := by
  rcases args with - | ⟨start, - | ⟨count, items⟩⟩
  · rfl
  · exact splice_saturate hvs start.toExtendedInt .posInfinity []
  · exact splice_saturate hvs start.toExtendedInt count.toExtendedInt items

end Sequence

namespace StringMethod

/-- The methods of strings that take positions. -/
def positional : List StringMethod :=
  [.at, .charAt, .charCodeAt, .codePointAt, .indexOf, .slice, .substring]

/-- The answers of the methods of strings that take positions, over exact positions; the other
methods have none here. -/
def exactAnswer? (m : StringMethod) (s : String) (args : List Value) : Option Value :=
  let cs := s.toList
  let first := (argument args 0).toExtendedInt
  let second := (argument args 1).toExtendedInt
  match m with
  | .at => some (((first.fromEnd cs.length).elementOf? cs).elim .undefined
      fun c => .string (.singleton c))
  | .charAt => some (.string ((first.elementOf? cs).elim "" .singleton))
  | .charCodeAt => some (.number ((first.elementOf? cs).elim .nan fun c => .ofNat c.toNat))
  | .codePointAt => some ((first.elementOf? cs).elim .undefined fun c => .ofNat c.toNat)
  | .indexOf =>
    let found? := Text.occurrence? (argument args 0).text.toList cs (second.clampTo cs.length)
    some (found?.elim (.ofInt (-1)) .ofNat)
  | .slice =>
    let place := fun p : ExtendedInt => (p.fromEnd cs.length).clampTo cs.length
    some (.string (.ofList
      (Position.window cs (place first) ((argument args 1).placeOr cs.length place))))
  | .substring =>
    let place := fun p : ExtendedInt => p.clampTo cs.length
    let start := place first
    let stop := (argument args 1).placeOr cs.length place
    some (.string (.ofList (Position.window cs (min start stop) (max start stop))))
  | _ => none

theorem exists_exactAnswer? {m : StringMethod} (hm : m ∈ positional) (s : String)
    (args : List Value) : ∃ v, m.exactAnswer? s args = some v := by
  cases m with
  | «at» | charAt | charCodeAt | codePointAt | indexOf | slice | substring => exact ⟨_, rfl⟩
  | _ => exact absurd hm (by decide)

/-- Cutting positions down to words does not change the answer of a method of strings. -/
theorem run_eq_of_exactAnswer? {m : StringMethod} {s : String} {args : List Value}
    {v : Value} (hs : s.toList.length ≤ wordMax) (h : m.exactAnswer? s args = some v) :
    m.run s args = .ok v := by
  cases m with
  | «at» =>
      cases h
      rw [run, Value.toPosition, Text.relativeChar?_eq, relativeElement?_saturate hs]
      cases ((argument args 0).toExtendedInt.fromEnd s.toList.length).elementOf? s.toList <;> rfl
  | charAt =>
      cases h
      rw [run, Value.toPosition, Text.charAt_eq, element?_saturate hs]
      cases (argument args 0).toExtendedInt.elementOf? s.toList <;> rfl
  | charCodeAt =>
      cases h
      rw [run, Value.toPosition, Text.charCodeAt, Text.codePointAt?_eq, element?_saturate hs]
      cases (argument args 0).toExtendedInt.elementOf? s.toList <;> rfl
  | codePointAt =>
      cases h
      rw [run, Value.toPosition, Text.codePointAt?_eq, element?_saturate hs]
      cases (argument args 0).toExtendedInt.elementOf? s.toList <;> rfl
  | indexOf =>
      cases h
      rw [run, Value.toPosition, Text.indexOf?_eq_occurrence?, clamped_saturate hs]
      cases Text.occurrence? (argument args 0).text.toList s.toList
        ((argument args 1).toExtendedInt.clampTo s.toList.length) <;> rfl
  | slice =>
      cases h
      rw [run, Value.toPosition, Text.slice_eq, slice_saturate hs]
  | substring =>
      cases h
      rw [run, Value.toPosition, Text.substring_eq, clamped_saturate hs,
        toPosition?_elim fun p => clamped_saturate hs p, between_eq_window]
  | _ => cases h

end StringMethod

namespace ArrayMethod

/-- The methods of arrays that take positions or counts. -/
def positional : List ArrayMethod := [.at, .slice, .remove, .splice]

/-- The answers of the methods of arrays that take positions or counts, over exact positions, and
the array after them; the other methods have none here. -/
def exactAnswer? (m : ArrayMethod) (vs args : List Value) :
    Option (Value × List Value) :=
  let first := (argument args 0).toExtendedInt
  match m with
  | .at => some (((first.fromEnd vs.length).elementOf? vs).getD .undefined, vs)
  | .slice =>
    let place := fun p : ExtendedInt => (p.fromEnd vs.length).clampTo vs.length
    some (.array
      (Position.window vs (place first) ((argument args 1).placeOr vs.length place)), vs)
  | .remove => some (.undefined, first.removeFrom vs)
  | .splice =>
    let (taken, rest) := Sequence.exactSplice vs args
    some (.array taken, rest)
  | _ => none

theorem exists_exactAnswer? {m : ArrayMethod} (hm : m ∈ positional)
    (vs args : List Value) : ∃ v after, m.exactAnswer? vs args = some (v, after) := by
  cases m with
  | «at» | slice | remove | splice => exact ⟨_, _, rfl⟩
  | _ => exact absurd hm (by decide)

/-- Nor does it change what a method of arrays does. -/
theorem run_eq_of_exactAnswer? {σ : Type} {m : ArrayMethod} {vs args : List Value}
    {v : Value} {after : List Value} (hvs : vs.length ≤ wordMax)
    (h : m.exactAnswer? vs args = some (v, after)) (host : Host σ) :
    m.run host vs args = pure (.ok v, after) := by
  cases m with
  | «at» =>
      cases h
      rw [run, Value.toPosition, Sequence.relativeElement, relativeElement?_saturate hvs]
  | slice =>
      cases h
      rw [run, Value.toPosition, Sequence.slice, slice_saturate hvs]
  | remove =>
      cases h
      rw [run, Value.toPosition, (standsFor_saturate hvs _).remove_eq]
  | splice =>
      cases h
      rw [run, Sequence.spliceCalled_eq_exactSplice hvs]
      rfl
  | _ => cases h

end ArrayMethod

namespace Value

variable {σ : Type}

/-- Cutting positions down to words cannot be observed: on strings and arrays shorter than 2^63 the
methods that take positions or counts, called by name with any arguments, give the answers that they
have over exact positions, and leave the same receiver behind. -/
theorem invoke_positional (args : List Value) (host : Host σ) :
    (∀ m ∈ StringMethod.positional, ∀ s : String, s.length < 2 ^ (63 : Nat) →
      ∃ v, m.exactAnswer? s args = some v ∧
        (Value.string s).invoke m.name args host = pure ⟨.ok v, .string s⟩) ∧
    (∀ m ∈ ArrayMethod.positional, ∀ vs : List Value, vs.length < 2 ^ (63 : Nat) →
      ∃ v after, m.exactAnswer? vs args = some (v, after) ∧
        (Value.array vs).invoke m.name args host = pure ⟨.ok v, .array after⟩) := by
  constructor
  · intro m hm s hs
    obtain ⟨v, hv⟩ := StringMethod.exists_exactAnswer? hm s args
    refine ⟨v, hv, ?_⟩
    have hlength : (s.toList.length : Int) ≤ wordMax := by
      rw [String.length_toList, wordMax]
      omega
    rw [invoke_string, StringMethod.run_eq_of_exactAnswer? hlength hv]
  · intro m hm vs hvs
    obtain ⟨v, after, hv⟩ := ArrayMethod.exists_exactAnswer? hm vs args
    refine ⟨v, after, hv, ?_⟩
    have hlength : (vs.length : Int) ≤ wordMax := by
      rw [wordMax]
      omega
    exact invoke_array (ArrayMethod.run_eq_of_exactAnswer? hlength hv host)

/-- From minus infinity on, infinitely many: every element is taken out. -/
theorem invoke_splice_infinite :
    (Value.array [.null, .undefined]).invoke "splice"
        [.number (.infinite true), .number (.infinite false)]
        (fun _ _ => pure .undefined : Host Unit) =
      pure ⟨.ok (.array [.null, .undefined]), .array []⟩ := by
  have hpositional := invoke_positional [.number (.infinite true), .number (.infinite false)]
    (fun _ _ => pure .undefined : Host Unit)
  obtain ⟨v, after, hexact, hinvoke⟩ :=
    hpositional.2 .splice (by decide) [.null, .undefined] (by decide)
  cases hexact
  exact hinvoke

end Value

end ScriptValues
