import ScriptValues.Proofs.ExactPositions
import ScriptValues.Proofs.Splices
import ScriptValues.Proofs.TextElements

/-!
A splice and the splice that undoes it. Start and count are first kept within the sequence; what is
then deleted is the window of that many elements from there on, and it is given back. So a second
splice that deletes the items and puts the deleted elements in their place gives the items back and
leaves the sequence as it was. Called by name a splice does the same; without a count its window
reaches to the end, and without any argument there is no window.
-/

namespace ScriptValues

namespace Sequence

variable {σ : Type} {vs : List Value}

/-- A splice deletes a window and gives it back. -/
theorem splice_window (vs : List Value) (start count : Int) (items : List Value) :
    ∃ first size : Nat, first = clamp 0 vs.length start ∧
      size = clamp 0 (vs.length - first) count ∧
      splice vs start count items =
        ((vs.drop first).take size, vs.take first ++ items ++ vs.drop (first + size)) := by
  let first := Position.clamped vs.length start
  have hfirst : first ≤ vs.length := Nat.min_le_right _ _
  refine ⟨first, Position.clamped (vs.length - first) count,
    (Position.clamp_eq_clamped _ _).symm, ?_, ?_⟩
  · rw [← Position.clamp_eq_clamped, Int.ofNat_sub hfirst]
  · rw [splice, Position.between, List.drop_take, Nat.add_sub_cancel_left]

/-- Putting the deleted elements of a window in the place of the items that replaced it gives the
items back and restores the sequence. -/
theorem splice_back {first : Nat} (hfirst : first ≤ vs.length) (size : Nat) (items : List Value) :
    splice (vs.take first ++ items ++ vs.drop (first + size)) first items.length
      ((vs.drop first).take size) = (items, vs) := by
  have hstart : (first : Int) = (vs.take first).length := by
    rw [List.length_take_of_le hfirst]
  rw [splice_eq rfl hstart rfl, take_window_drop]

/-- Without a count a splice by name deletes everything from its start on. -/
theorem spliceCalled_start (hvs : vs.length < 2 ^ (63 : Nat)) (start : Value) :
    ∃ first : Nat, first = clamp 0 vs.length start.toPosition ∧
      spliceCalled vs [start] = (vs.drop first, vs.take first) := by
  obtain ⟨first, size, hfirst, hsize, hsplice⟩ :=
    splice_window vs start.toPosition ExtendedInt.wordMax []
  have hall : size = vs.length - first := by
    unfold clamp ExtendedInt.wordMax at hsize
    unfold clamp at hfirst
    omega
  have htaken : (vs.drop first).take size = vs.drop first :=
    List.take_of_length_le (by simp [hall])
  have hbehind : vs.drop (first + size) = [] := List.drop_eq_nil_of_le (by omega)
  refine ⟨first, hfirst, ?_⟩
  rw [spliceCalled, hsplice, htaken, hbehind, List.append_nil, List.append_nil]

/-- With start and count kept within the sequence, a splice gives back the elements of its window
and puts the items in their place, and splicing the deleted elements back gives the items back and
restores the sequence. By name it does so with the positions that its arguments stand for; without
a count it deletes everything from its start on, and without arguments nothing changes. -/
theorem splice_undo (vs : List Value) (host : Host σ) :
    (∀ (start count : Int) (items : List Value),
      ∃ first size : Nat, first = clamp 0 vs.length start ∧
        size = clamp 0 (vs.length - first) count ∧
        let (deleted, after) := splice vs start count items
        deleted = (vs.drop first).take size ∧
          after = vs.take first ++ items ++ vs.drop (first + size) ∧
          splice after first items.length deleted = (items, vs)) ∧
    (∀ (start count : Value) (items : List Value),
      (Value.array vs).invoke "splice" (start :: count :: items) host =
        let (deleted, after) := splice vs start.toPosition count.toPosition items
        pure ⟨.ok (.array deleted), .array after⟩) ∧
    (vs.length < 2 ^ (63 : Nat) → ∀ start : Value,
      ∃ first : Nat, first = clamp 0 vs.length start.toPosition ∧
        (Value.array vs).invoke "splice" [start] host =
          pure ⟨.ok (.array (vs.drop first)), .array (vs.take first)⟩) ∧
    (Value.array vs).invoke "splice" [] host = pure ⟨.ok (.array []), .array vs⟩ := by
  have hnamed : ∀ args : List Value, (Value.array vs).invoke "splice" args host =
      pure ⟨.ok (.array (spliceCalled vs args).1), .array (spliceCalled vs args).2⟩ :=
    fun args => Value.invoke_array (m := .splice) rfl
  refine ⟨?_, fun start count items => hnamed _, ?_, hnamed []⟩
  · intro start count items
    obtain ⟨first, size, hfirst, hsize, hsplice⟩ := splice_window vs start count items
    have hle : first ≤ vs.length := by
      unfold clamp at hfirst
      omega
    refine ⟨first, size, hfirst, hsize, ?_⟩
    rw [hsplice]
    exact ⟨rfl, rfl, splice_back hle size items⟩
  · intro hvs start
    obtain ⟨first, hfirst, hspliced⟩ := spliceCalled_start hvs start
    refine ⟨first, hfirst, ?_⟩
    rw [hnamed, hspliced]

/-- Splicing by name from the second place on takes all elements but the first. -/
theorem splice_undo_tail :
    (Value.array [.null, .undefined, .null]).invoke "splice" [.boolean true]
        (fun _ _ => pure .undefined : Host Unit) =
      pure ⟨.ok (.array [.undefined, .null]), .array [.null]⟩ := by
  obtain ⟨first, hfirst, hinvoke⟩ :=
    (splice_undo [.null, .undefined, .null] (fun _ _ => pure .undefined : Host Unit)).2.2.1
      (by decide) (.boolean true)
  have hstart : (Value.boolean true).toPosition = 1 := by decide +kernel
  have hsecond : first = 1 := by
    rw [hstart] at hfirst
    exact Int.ofNat_inj.1 hfirst
  rw [hinvoke, hsecond]
  rfl

end Sequence

end ScriptValues
