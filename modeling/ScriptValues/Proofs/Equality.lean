import Mathlib.Data.List.Forall2
import ScriptValues.Value.Equality

/-!
How the equalities of values relate. Strict equality tests the kind and then compares by hand, equal
content compares constructor by constructor, and the two agree on arrays of any depth because both
ask for the same relation element by element. Loose equality converts booleans and strings until it
meets two values of one kind; what comes out of the conversions is said in one closed form, from
which its symmetry and its reach are read off.
-/

namespace ScriptValues

namespace Double

theorem place?_eq_none_iff (x : Double) : x.place? = none ↔ x.isNaN = true := by
  cases x with
  | nan => exact iff_of_true rfl rfl
  | infinite negative => exact iff_of_false nofun nofun
  | finite negative m => exact iff_of_false nofun nofun

theorem equal_self (x : Double) : x.equal x = !x.isNaN := by
  have hnan := x.place?_eq_none_iff
  rw [equal]
  cases hplace : x.place? with
  | none =>
      rw [hnan.1 hplace]
      rfl
  | some p =>
      have hnumber : x.isNaN = false := by
        rw [Bool.eq_false_iff]
        intro h
        rw [hnan.2 h] at hplace
        cases hplace
      rw [hnumber]
      exact beq_self_eq_true p

theorem equal_comm (x y : Double) : x.equal y = y.equal x := by
  unfold equal
  cases x.place? with
  | none => cases y.place? <;> rfl
  | some p =>
      cases y.place? with
      | none => rfl
      | some q => exact Bool.beq_comm

/-- Equal doubles have one place on the line. -/
theorem equal_iff_place? {x y : Double} :
    x.equal y = true ↔ ∃ p, x.place? = some p ∧ y.place? = some p := by
  unfold equal
  cases x.place? with
  | none => simp
  | some p =>
      cases y.place? with
      | none => simp
      | some q =>
          change (p == q) = true ↔ _
          rw [beq_iff_eq]
          constructor
          · rintro rfl
            exact ⟨p, rfl, rfl⟩
          · rintro ⟨place, hp, hq⟩
            exact Option.some.inj (hp.trans hq.symm)

theorem equal_trans {x y z : Double} (hxy : x.equal y = true) (hyz : y.equal z = true) :
    x.equal z = true := by
  obtain ⟨p, hx, hy⟩ := equal_iff_place?.1 hxy
  obtain ⟨q, hy', hz⟩ := equal_iff_place?.1 hyz
  have hpq : p = q := by simpa [hy] using hy'
  exact equal_iff_place?.2 ⟨p, hx, hpq ▸ hz⟩

end Double

namespace Value

variable {v w : Value}

/-- What holds of every value without elements, and of an array if it holds of its elements, holds
of all values. -/
@[elab_as_elim]
theorem inductionOnElements {motive : Value → Prop}
    (scalar : ∀ v, v.kind ≠ .array → motive v)
    (array : ∀ vs, (∀ v ∈ vs, motive v) → motive (.array vs)) (v : Value) : motive v := by
  cases v with
  | array vs =>
      apply array
      intro w hw
      exact inductionOnElements scalar array w
  | _ => exact scalar _ nofun
termination_by sizeOf v
decreasing_by
  have := List.sizeOf_lt_of_mem hw
  simp only [Value.array.sizeOf_spec]
  omega

theorem sameContents_iff {vs ws : List Value} :
    sameContents vs ws = true ↔ List.Forall₂ (fun v w => v.sameContent w = true) vs ws := by
  induction vs generalizing ws with
  | nil => cases ws <;> simp [sameContents]
  | cons v vs ih => cases ws <;> simp [sameContents, ih]

/-- Arrays are strictly equal when they are so element by element, with none left over. -/
theorem strictlyEqual_array_iff {vs ws : List Value} :
    (array vs).strictlyEqual (array ws) = true ↔
      List.Forall₂ (fun v w => v.strictlyEqual w = true) vs ws := by
  have hlists : (vs.length == ws.length && pairwiseEqual vs ws) = true ↔
      List.Forall₂ (fun v w => v.strictlyEqual w = true) vs ws := by
    induction vs generalizing ws with
    | nil => cases ws <;> simp [pairwiseEqual]
    | cons v vs ih =>
        cases ws with
        | nil => simp
        | cons w ws =>
            rw [List.forall₂_cons, ← ih]
            simp [pairwiseEqual]
            tauto
  rw [← hlists, strictlyEqual]
  rfl

/-- Elements may be related in another way if those of the first list allow it. -/
theorem forall₂_of_mem {related other : Value → Value → Prop} {vs ws : List Value}
    (h : ∀ v ∈ vs, ∀ w, related v w → other v w) (hrelated : List.Forall₂ related vs ws) :
    List.Forall₂ other vs ws := by
  have hboth := (List.forall₂_and_left vs ws).2 ⟨h, hrelated⟩
  exact hboth.imp fun v w hvw => hvw.1 w hvw.2

/-- Strict equality is equality of content, however deep the arrays are. -/
theorem strictlyEqual_iff_beq (v w : Value) : v.strictlyEqual w = true ↔ (v == w) = true := by
  induction v using inductionOnElements generalizing w with
  | scalar v hv =>
      cases v with
      | array vs => exact absurd rfl hv
      | _ => cases w <;> rfl
  | array vs ih =>
      cases w with
      | array ws =>
          have hcontent : (array vs == array ws) = sameContents vs ws := rfl
          rw [strictlyEqual_array_iff, hcontent, sameContents_iff]
          constructor
          · exact forall₂_of_mem fun v hv w => (ih v hv w).1
          · exact forall₂_of_mem fun v hv w => (ih v hv w).2
      | _ => rfl

theorem strictlyEqual_of_kind_ne (h : v.kind ≠ w.kind) : v.strictlyEqual w = false := by
  unfold strictlyEqual
  simp [h]

theorem kind_eq_of_strictlyEqual (h : v.strictlyEqual w = true) : v.kind = w.kind := by
  by_contra hne
  rw [strictlyEqual_of_kind_ne hne] at h
  cases h

theorem strictlyEqual_symm (h : v.strictlyEqual w = true) : w.strictlyEqual v = true := by
  induction v using inductionOnElements generalizing w with
  | scalar v hv =>
      cases v with
      | array vs => exact absurd rfl hv
      | number x =>
          cases w with
          | number y =>
              change y.equal x = true
              rw [Double.equal_comm]
              exact h
          | _ => cases h
      | _ => cases w <;> simp_all [strictlyEqual, kind]
  | array vs ih =>
      cases w with
      | array ws =>
          rw [strictlyEqual_array_iff] at h ⊢
          apply List.Forall₂.flip
          exact forall₂_of_mem (fun v hv w hvw => ih v hv hvw) h
      | _ => cases h

theorem strictlyEqual_comm (v w : Value) : v.strictlyEqual w = w.strictlyEqual v := by
  rw [Bool.eq_iff_iff]
  exact ⟨strictlyEqual_symm, strictlyEqual_symm⟩

end Value

/-- The kinds whose values loose equality compares as numbers when it meets two of them. -/
def Kind.comparesAsNumber : Kind → Bool
  | .boolean | .number | .string => true
  | .undefined | .null | .symbol | .object | .array | .function => false

namespace Value

variable {v w : Value}

theorem looselyEqual_of_kind_eq (h : v.kind = w.kind) : v.looselyEqual w = v.strictlyEqual w := by
  unfold looselyEqual
  exact if_pos h

theorem number_looselyEqual (x : Double) (w : Value) :
    (number x).looselyEqual w = (w.kind.comparesAsNumber && x.equal w.toNumber) := by
  cases w <;> rfl

theorem looselyEqual_number (v : Value) (y : Double) :
    v.looselyEqual (number y) = (v.kind.comparesAsNumber && v.toNumber.equal y) := by
  cases v <;> rfl

/-- A boolean is compared as its number with values of other kinds. -/
theorem boolean_looselyEqual (b : Bool) (h : w.kind ≠ .boolean) :
    (boolean b).looselyEqual w = (number (boolean b).toNumber).looselyEqual w := by
  cases w <;> first | rfl | exact absurd rfl h

theorem looselyEqual_boolean (b : Bool) (h : v.kind ≠ .boolean) :
    v.looselyEqual (boolean b) = v.looselyEqual (number (boolean b).toNumber) := by
  cases v <;> first | rfl | exact absurd rfl h

/-- Of different kinds, undefined and null are loosely equal, and so are two values that compare as
numbers when their numbers are equal. -/
theorem looselyEqual_of_kind_ne (h : v.kind ≠ w.kind) :
    v.looselyEqual w =
      (v.isNullish && w.isNullish ||
        (v.kind.comparesAsNumber && w.kind.comparesAsNumber && v.toNumber.equal w.toNumber)) := by
  cases w with
  | number y =>
      rw [looselyEqual_number]
      simp [isNullish, kind, Kind.comparesAsNumber, toNumber]
  | boolean b =>
      rw [looselyEqual_boolean b h, looselyEqual_number]
      simp [isNullish, kind, Kind.comparesAsNumber, toNumber]
  | _ =>
      cases v with
      | number x =>
          rw [number_looselyEqual]
          rfl
      | boolean b =>
          rw [boolean_looselyEqual b h.symm, number_looselyEqual]
          rfl
      | _ => first | rfl | exact absurd rfl h -- nothing is left to convert

theorem looselyEqual_comm (v w : Value) : v.looselyEqual w = w.looselyEqual v := by
  by_cases hkind : v.kind = w.kind
  · rw [looselyEqual_of_kind_eq hkind, looselyEqual_of_kind_eq hkind.symm, strictlyEqual_comm]
  · rw [looselyEqual_of_kind_ne hkind, looselyEqual_of_kind_ne (Ne.symm hkind), Double.equal_comm,
      Bool.and_comm v.isNullish, Bool.and_comm v.kind.comparesAsNumber]

theorem looselyEqual_of_strictlyEqual (h : v.strictlyEqual w = true) :
    v.looselyEqual w = true := by
  rw [looselyEqual_of_kind_eq (kind_eq_of_strictlyEqual h), h]

/-- Symbols, objects, arrays and functions are loosely equal to no value of another kind. -/
theorem looselyEqual_of_mem (hkind : v.kind ≠ w.kind)
    (hv : v.kind ∈ [.symbol, .object, .array, .function]) : v.looselyEqual w = false := by
  rw [looselyEqual_of_kind_ne hkind]
  cases v <;> simp_all [kind, isNullish, Kind.comparesAsNumber]

/-- Loose equality in closed form. Values of one kind compare strictly; of different kinds,
undefined and null belong together, and booleans, numbers and strings compare as numbers. So loose
equality is symmetric, holds wherever strict equality does, and tells symbols, objects, arrays and
functions from all values of other kinds. -/
theorem looselyEqual_eq (v w : Value) :
    (v.looselyEqual w =
      if v.kind = w.kind then v.strictlyEqual w
      else v.isNullish && w.isNullish ||
        (v.kind.comparesAsNumber && w.kind.comparesAsNumber && v.toNumber.equal w.toNumber)) ∧
    v.looselyEqual w = w.looselyEqual v ∧
    (v.strictlyEqual w = true → v.looselyEqual w = true) ∧
    (v.kind ≠ w.kind →
      v.kind ∈ [.symbol, .object, .array, .function] ∨
        w.kind ∈ [.symbol, .object, .array, .function] →
      v.looselyEqual w = false) := by
  refine ⟨?_, looselyEqual_comm v w, looselyEqual_of_strictlyEqual, ?_⟩
  · split
    · next hkind => exact looselyEqual_of_kind_eq hkind
    · next hkind => exact looselyEqual_of_kind_ne hkind
  · rintro hkind (hv | hw)
    · exact looselyEqual_of_mem hkind hv
    · rw [looselyEqual_comm]
      exact looselyEqual_of_mem (Ne.symm hkind) hw

end Value

end ScriptValues
