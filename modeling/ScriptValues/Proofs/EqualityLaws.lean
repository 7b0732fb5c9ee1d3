import ScriptValues.Proofs.Equality
import ScriptValues.Sequence

/-!
The laws of an equality, and where they fail. Strict equality is symmetric and transitive, and the
values that are strictly equal to themselves are those without a NaN in them, however deep. The
equality that also finds NaN adds NaN itself and nothing else: elements of arrays are compared
strictly again, so an array that holds NaN is not the same as itself, and a sequence that holds such
an array is searched for it in vain.
-/

namespace ScriptValues

namespace Value

/-- There is a NaN in a value: the value is NaN, or there is one in an element of it. -/
inductive HoldsNaN : Value → Prop
  | nan : HoldsNaN (.number .nan)
  | element {vs : List Value} {v : Value} (hv : v ∈ vs) (h : HoldsNaN v) : HoldsNaN (.array vs)

variable {u v w : Value}

theorem holdsNaN_number_iff (x : Double) : (number x).HoldsNaN ↔ x.isNaN = true := by
  constructor
  · rintro ⟨⟩
    rfl
  · intro h
    cases x with
    | nan => exact .nan
    | _ => cases h

theorem holdsNaN_array_iff (vs : List Value) : (array vs).HoldsNaN ↔ ∃ v ∈ vs, v.HoldsNaN := by
  constructor
  · rintro (_ | ⟨hv, h⟩)
    exact ⟨_, hv, h⟩
  · rintro ⟨v, hv, h⟩
    exact .element hv h

/-- Relations of elements at the same places are put together as the relations of elements are. -/
private theorem forall₂_trans {related : Value → Value → Prop} {us vs ws : List Value}
    (h : ∀ u ∈ us, ∀ v w, related u v → related v w → related u w)
    (huv : List.Forall₂ related us vs) (hvw : List.Forall₂ related vs ws) :
    List.Forall₂ related us ws := by
  induction huv generalizing ws with
  | nil => exact hvw
  | @cons u v us vs hfirst _ ih =>
      obtain ⟨w, ws, hlast, hvws, rfl⟩ := List.forall₂_cons_left_iff.1 hvw
      refine .cons (h u (by simp) v w hfirst hlast) (ih ?_ hvws)
      intro u hu
      exact h u (List.mem_cons_of_mem _ hu)

theorem strictlyEqual_trans (huv : u.strictlyEqual v = true) (hvw : v.strictlyEqual w = true) :
    u.strictlyEqual w = true := by
  have hkind := kind_eq_of_strictlyEqual huv
  have hkind' := kind_eq_of_strictlyEqual hvw
  induction u using inductionOnElements generalizing v w with
  | scalar u hu =>
      cases u with
      | array us => exact absurd rfl hu
      | number x =>
          cases v with
          | number y =>
              cases w with
              | number z =>
                  change x.equal y = true at huv
                  change y.equal z = true at hvw
                  exact Double.equal_trans huv hvw
              | _ => cases hkind'
          | _ => cases hkind
      | _ =>
        cases v <;> cases hkind
        cases w <;> cases hkind'
        simp_all [strictlyEqual, kind]
  | array us ih =>
      cases v with
      | array vs =>
          cases w with
          | array ws =>
              rw [strictlyEqual_array_iff] at huv hvw ⊢
              exact forall₂_trans (fun u hu v w huv hvw => ih u hu huv hvw
                (kind_eq_of_strictlyEqual huv) (kind_eq_of_strictlyEqual hvw)) huv hvw
          | _ => cases hkind'
      | _ => cases hkind

/-- The values without a NaN in them are those that are strictly equal to themselves. -/
theorem strictlyEqual_self_iff (v : Value) : v.strictlyEqual v = true ↔ ¬ v.HoldsNaN := by
  induction v using inductionOnElements with
  | scalar v hv =>
      cases v with
      | array vs => exact absurd rfl hv
      | number x =>
          change x.equal x = true ↔ _
          rw [holdsNaN_number_iff, Double.equal_self]
          simp
      | _ =>
          refine iff_of_true (by simp [strictlyEqual]) ?_
          intro h
          cases h
  | array vs ih =>
      rw [strictlyEqual_array_iff, List.forall₂_same, holdsNaN_array_iff]
      push Not
      exact forall₂_congr ih

/-- A value that is strictly equal to any value has no NaN in it. -/
theorem not_holdsNaN_of_strictlyEqual (h : v.strictlyEqual w = true) : ¬ v.HoldsNaN := by
  rw [← strictlyEqual_self_iff]
  exact strictlyEqual_trans h (strictlyEqual_symm h)

/-- Strict equality is symmetric and transitive, and it holds of a value and itself exactly when
there is no NaN in the value. -/
theorem strictlyEqual_partial_equivalence (u v w : Value) :
    u.strictlyEqual v = v.strictlyEqual u ∧
    (u.strictlyEqual v = true → v.strictlyEqual w = true → u.strictlyEqual w = true) ∧
    (v.strictlyEqual v = true ↔ ¬ v.HoldsNaN) :=
  ⟨strictlyEqual_comm u v, strictlyEqual_trans, strictlyEqual_self_iff v⟩

/-- Zeros of either sign are equal inside arrays too. -/
theorem strictlyEqual_nested_zeros :
    let positive := array [null, array [number .zero]]
    let negative := array [null, array [number .negativeZero]]
    positive.strictlyEqual negative = true ∧ negative.strictlyEqual positive = true ∧
      positive.strictlyEqual positive = true := by
  intro positive negative
  have hforth : positive.strictlyEqual negative = true := rfl
  have hback : negative.strictlyEqual positive = true := rfl
  obtain ⟨-, htrans, -⟩ := strictlyEqual_partial_equivalence positive negative positive
  exact ⟨hforth, hback, htrans hforth hback⟩

/-- What the equality that also finds NaN adds to strict equality. -/
theorem sameValueZero_iff :
    v.sameValueZero w = true ↔
      v = number .nan ∧ w = number .nan ∨ v.strictlyEqual w = true := by
  cases v with
  | number x =>
      cases w with
      | number y =>
          change (x.isNaN && y.isNaN || x.equal y) = true ↔ _ ∨ x.equal y = true
          rw [Bool.or_eq_true, Bool.and_eq_true]
          cases x <;> cases y <;> simp [Double.isNaN]
      | _ => simp [sameValueZero]
  | _ => simp [sameValueZero]

theorem sameValueZero_self_iff (v : Value) :
    v.sameValueZero v = true ↔ v = number .nan ∨ ¬ v.HoldsNaN := by
  rw [sameValueZero_iff, and_self, strictlyEqual_self_iff]

theorem sameValueZero_comm (v w : Value) : v.sameValueZero w = w.sameValueZero v := by
  rw [Bool.eq_iff_iff, sameValueZero_iff, sameValueZero_iff, strictlyEqual_comm, and_comm]

theorem sameValueZero_trans (huv : u.sameValueZero v = true) (hvw : v.sameValueZero w = true) :
    u.sameValueZero w = true := by
  rw [sameValueZero_iff] at *
  rcases huv with ⟨rfl, rfl⟩ | huv
  · rcases hvw with ⟨-, rfl⟩ | hvw
    · exact .inl ⟨rfl, rfl⟩
    · exact absurd .nan (not_holdsNaN_of_strictlyEqual hvw)
  · rcases hvw with ⟨rfl, -⟩ | hvw
    · exact absurd .nan (not_holdsNaN_of_strictlyEqual (strictlyEqual_symm huv))
    · exact .inr (strictlyEqual_trans huv hvw)

end Value

namespace Sequence

/-- A search that succeeds looks for a value that is the same as itself. -/
theorem sameValueZero_self_of_includes {vs : List Value} {v : Value}
    (h : includes vs v = true) : v.sameValueZero v = true := by
  obtain ⟨w, -, hvw⟩ := List.any_eq_true.1 h
  rw [Value.sameValueZero_comm] at hvw
  exact Value.sameValueZero_trans (by rwa [Value.sameValueZero_comm]) hvw

/-- An element of a sequence is found in it unless it is an array with a NaN in it. -/
theorem includes_iff_of_mem {vs : List Value} {v : Value} (hv : v ∈ vs) :
    includes vs v = true ↔ v = .number .nan ∨ ¬ v.HoldsNaN := by
  rw [← Value.sameValueZero_self_iff]
  constructor
  · exact sameValueZero_self_of_includes
  · intro h
    exact List.any_eq_true.2 ⟨v, hv, h⟩

theorem get_mem {vs : List Value} {i : Nat} (hi : i < vs.length) : get vs i ∈ vs := by
  rw [get, List.getD_eq_getElem?_getD, List.getElem?_eq_getElem hi, Option.getD_some]
  exact List.getElem_mem hi

end Sequence

namespace Value

/-- The equality that also finds NaN is symmetric and transitive. It holds of a value and itself
exactly when the value is NaN or there is no NaN in it, and just those elements of a sequence are
found in it. -/
theorem sameValueZero_laws (u v w : Value) (vs : List Value) :
    (v.sameValueZero v = true ↔ v = number .nan ∨ ¬ v.HoldsNaN) ∧
    u.sameValueZero v = v.sameValueZero u ∧
    (u.sameValueZero v = true → v.sameValueZero w = true → u.sameValueZero w = true) ∧
    ∀ i < vs.length, Sequence.includes vs (Sequence.get vs i) = true ↔
      Sequence.get vs i = number .nan ∨ ¬ (Sequence.get vs i).HoldsNaN :=
  ⟨sameValueZero_self_iff v, sameValueZero_comm u v, sameValueZero_trans,
    fun _ hi => Sequence.includes_iff_of_mem (Sequence.get_mem hi)⟩

/-- NaN is the same as itself, and it is found behind an array that is not. -/
theorem sameValueZero_laws_nan :
    let nan := number .nan
    let vs := [array [nan], nan]
    nan.sameValueZero nan = true ∧ 1 < vs.length ∧
      Sequence.includes vs (Sequence.get vs 1) = true := by
  intro nan vs
  have hsame : nan.sameValueZero nan = true := rfl
  obtain ⟨-, -, htrans, hfound⟩ := sameValueZero_laws nan nan nan vs
  exact ⟨htrans hsame hsame, by decide, (hfound 1 (by decide)).2 (.inl rfl)⟩

/-- An array with a NaN in it is not the same as itself, and is not found where it is. -/
theorem sameValueZero_nested_nan :
    (array [number .nan]).sameValueZero (array [number .nan]) = false ∧
      Sequence.includes [array [number .nan]] (Sequence.get [array [number .nan]] 0) = false :=
  ⟨rfl, rfl⟩

end Value

end ScriptValues
