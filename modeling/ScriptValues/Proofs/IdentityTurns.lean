import Mathlib.Data.Nat.ModEq
import ScriptValues.Proofs.Equality

/-!
Identities come back. Symbols and objects are numbered by words, each kind by a counter of its own, and
a counter that has gone through all words starts again. Two symbols of one run, or two objects, are
therefore equal exactly when the numbers of those made before them differ by full turns of the
counter. Fewer than a full turn are all different, whatever their descriptions.
-/

namespace ScriptValues

/-- What a program makes that has an identity. -/
inductive Creation
  | symbol (description? : Option String)
  | object
  | function (name : String) (behaviour : Behaviour)

namespace Creation

def kind : Creation → Kind
  | .symbol _ => .symbol
  | .object => .object
  | .function _ _ => .function

/-- The value that is made, and the identities left for later. -/
def make (ids : Identities) : Creation → Value × Identities
  | .symbol description? => (ids.newSymbol description?).map .symbol id
  | .object => ids.newObject.map .object id
  | .function name behaviour => (ids.newFunction name behaviour).map .function id

end Creation

/-- The word that numbers a symbol or an object. -/
def Value.word? : Value → Option UInt32
  | .symbol s => some s.identity
  | .object o => some o.identity
  | _ => none

namespace Identities

/-- The word for the next symbol or object. -/
def word? (ids : Identities) : Kind → Option UInt32
  | .symbol => some ids.symbol
  | .object => some ids.object
  | _ => none

/-- The identities left after a run of creations. -/
def after (ids : Identities) : List Creation → Identities
  | [] => ids
  | c :: run => (c.make ids).2.after run

/-- The values that a run of creations makes, in order. -/
def made (ids : Identities) : List Creation → List Value
  | [] => []
  | c :: run => (c.make ids).1 :: (c.make ids).2.made run

/-- How many values of a kind a run of creations makes. -/
def countOf (kind : Kind) (run : List Creation) : Nat := run.countP (·.kind = kind)

variable {ids : Identities} {run : List Creation} {kind : Kind}

theorem word?_make (c : Creation) : (c.make ids).1.word? = ids.word? c.kind := by
  cases c <;> rfl

theorem kind_make (c : Creation) : (c.make ids).1.kind = c.kind := by
  cases c <;> rfl

/-- A creation moves the counter of its own kind on by one, and no other. -/
theorem word?_after_make (c : Creation) :
    (c.make ids).2.word? kind = (ids.word? kind).map (· + UInt32.ofNat (countOf kind [c])) := by
  cases c <;> cases kind <;> simp [Creation.make, countOf, Creation.kind, word?, newSymbol,
    newObject, newFunction]

/-- A run moves each counter on by the number of its creations, in words. -/
theorem word?_after (ids : Identities) (run : List Creation) (kind : Kind) :
    (ids.after run).word? kind = (ids.word? kind).map (· + UInt32.ofNat (countOf kind run)) := by
  induction run generalizing ids with
  | nil => simp [after, countOf]
  | cons c run ih =>
      have hcount : countOf kind (c :: run) = countOf kind [c] + countOf kind run :=
        @List.countP_append _ _ [c] run
      rw [after, ih, word?_after_make, Option.map_map, hcount, UInt32.ofNat_add]
      simp only [Function.comp_def, UInt32.add_assoc]

/-- What stands at a place of a run is made with the identities that the creations before left. -/
theorem getElem?_made (ids : Identities) (run : List Creation) (i : Nat) :
    (ids.made run)[i]? = run[i]?.map fun c => (c.make (ids.after (run.take i))).1 := by
  induction run generalizing ids i with
  | nil => rfl
  | cons c run ih =>
      cases i with
      | zero => rfl
      | succ i => exact ih _ i

/-- The number of a symbol or object that a run makes. -/
theorem word?_made {i : Nat} {v : Value} (h : (ids.made run)[i]? = some v) :
    v.word? = (ids.word? v.kind).map (· + UInt32.ofNat (countOf v.kind (run.take i))) := by
  rw [getElem?_made] at h
  obtain ⟨c, -, rfl⟩ := Option.map_eq_some_iff.1 h
  rw [word?_make, kind_make, word?_after]

/-- Words come back after a full turn, and not before. -/
theorem add_ofNat_inj (start : UInt32) (m n : Nat) :
    start + UInt32.ofNat m = start + UInt32.ofNat n ↔ m ≡ n [MOD 2 ^ (32 : Nat)] := by
  rw [UInt32.add_right_inj, ← UInt32.toNat_inj, UInt32.toNat_ofNat', UInt32.toNat_ofNat']
  rfl

end Identities

namespace Value

variable {v w : Value}

/-- Symbols and objects are compared by their words. -/
theorem strictlyEqual_iff_word? (hkind : v.kind = w.kind) (hv : v.kind = .symbol ∨ v.kind = .object) :
    v.strictlyEqual w = true ↔ v.word? = w.word? := by
  cases v with
  | symbol s => cases w with
    | symbol t => simp [strictlyEqual, kind, word?]
    | _ => cases hkind
  | object a => cases w with
    | object b => simp [strictlyEqual, kind, word?]
    | _ => cases hkind
  | _ => rcases hv with hv | hv <;> cases hv

/-- Nothing but strict equality is asked of symbols and objects by the other equalities. -/
theorem equal_of_kind (hkind : v.kind = w.kind) (hv : v.kind = .symbol ∨ v.kind = .object) :
    v.looselyEqual w = v.strictlyEqual w ∧ (v == w) = v.strictlyEqual w := by
  refine ⟨looselyEqual_of_kind_eq hkind, ?_⟩
  cases v with
  | symbol s => cases w with
    | symbol t => simp [strictlyEqual, kind, BEq.beq, sameContent]
    | _ => cases hkind
  | object a => cases w with
    | object b => simp [strictlyEqual, kind, BEq.beq, sameContent]
    | _ => cases hkind
  | _ => rcases hv with hv | hv <;> cases hv

end Value

namespace Identities

variable {ids : Identities} {run : List Creation} {i j : Nat} {v w : Value}

theorem strictlyEqual_made_iff (hv : (ids.made run)[i]? = some v)
    (hw : (ids.made run)[j]? = some w) (hkind : v.kind = w.kind)
    (hword : v.kind = .symbol ∨ v.kind = .object) :
    v.strictlyEqual w = true ↔
      countOf v.kind (run.take i) ≡ countOf v.kind (run.take j) [MOD 2 ^ (32 : Nat)] := by
  obtain ⟨start, hstart⟩ : ∃ start, ids.word? v.kind = some start := by
    rcases hword with h | h <;> rw [h] <;> exact ⟨_, rfl⟩
  rw [Value.strictlyEqual_iff_word? hkind hword, word?_made hv, word?_made hw, ← hkind, hstart,
    Option.map_some, Option.map_some, Option.some_inj, add_ofNat_inj]

theorem exists_creation (hv : (ids.made run)[i]? = some v) :
    ∃ c, run[i]? = some c ∧ c.kind = v.kind := by
  rw [getElem?_made] at hv
  obtain ⟨c, hc, rfl⟩ := Option.map_eq_some_iff.1 hv
  exact ⟨c, hc, (kind_make c).symm⟩

/-- A creation is counted in every longer part of the run. -/
theorem countOf_take_lt {c : Creation} (hc : run[i]? = some c) (hij : i < j) :
    countOf c.kind (run.take i) < countOf c.kind (run.take j) := by
  have htake : run.take (i + 1) = run.take i ++ [c] := by
    rw [List.take_add_one, hc]
    rfl
  have hpart : countOf c.kind (run.take (i + 1)) ≤ countOf c.kind (run.take j) :=
    (List.take_sublist_take_left hij).countP_le
  have hone : countOf c.kind [c] = 1 := by simp [countOf]
  rw [htake, countOf, List.countP_append, ← countOf, ← countOf, hone] at hpart
  omega

/-- Two places of a run that makes no more than a full turn are not counted alike. -/
theorem not_modEq_of_le (hv : (ids.made run)[i]? = some v) (hw : (ids.made run)[j]? = some w)
    (hkind : v.kind = w.kind) (hne : i ≠ j) (hfew : countOf v.kind run ≤ 2 ^ (32 : Nat)) :
    ¬ countOf v.kind (run.take i) ≡ countOf v.kind (run.take j) [MOD 2 ^ (32 : Nat)] := by
  have hlt {k : Nat} {u : Value} (hu : (ids.made run)[k]? = some u) (hkind : u.kind = v.kind) :
      countOf v.kind (run.take k) < 2 ^ (32 : Nat) := by
    obtain ⟨c, hc, hcu⟩ := exists_creation hu
    have hk := (List.getElem?_eq_some_iff.1 hc).1
    have hall := countOf_take_lt hc hk
    rw [List.take_length, hcu, hkind] at hall
    omega
  intro hmod
  have hcount := hmod.eq_of_lt_of_lt (hlt hv rfl) (hlt hw hkind.symm)
  obtain ⟨c, hc, hcv⟩ := exists_creation hv
  obtain ⟨d, hd, hdw⟩ := exists_creation hw
  rcases Nat.lt_or_gt_of_ne hne with hij | hji
  · have := countOf_take_lt hc hij
    rw [hcv] at this
    omega
  · have := countOf_take_lt hd hji
    rw [hdw, ← hkind] at this
    omega

/-- Two symbols, or two objects, of one run are equal exactly when the numbers of those made before
them differ by full turns of the counter, in every equality and whatever their descriptions. So they
are all different as long as no more than one turn of them is made. -/
theorem equal_made_iff (hv : (ids.made run)[i]? = some v) (hw : (ids.made run)[j]? = some w)
    (hkind : v.kind = w.kind) (hword : v.kind = .symbol ∨ v.kind = .object) :
    (v.strictlyEqual w = true ↔
      countOf v.kind (run.take i) ≡ countOf v.kind (run.take j) [MOD 2 ^ (32 : Nat)]) ∧
    v.looselyEqual w = v.strictlyEqual w ∧ (v == w) = v.strictlyEqual w ∧
    (i ≠ j → countOf v.kind run ≤ 2 ^ (32 : Nat) → v.strictlyEqual w = false) := by
  have hturns := strictlyEqual_made_iff hv hw hkind hword
  obtain ⟨hloose, hcontent⟩ := Value.equal_of_kind hkind hword
  refine ⟨hturns, hloose, hcontent, fun hne hfew => ?_⟩
  rw [← Bool.not_eq_true, hturns]
  exact not_modEq_of_le hv hw hkind hne hfew

/-- The second symbol of a run differs from the first, although an object was made in between and
the descriptions are the same. -/
theorem equal_made_iff_second :
    let run := [.symbol (some "a"), .object, .symbol (some "a")]
    (first.made run)[0]? = some (.symbol ⟨1, some "a"⟩) ∧
      (first.made run)[2]? = some (.symbol ⟨2, some "a"⟩) ∧
      (Value.symbol ⟨1, some "a"⟩).strictlyEqual (.symbol ⟨2, some "a"⟩) = false := by
  have hv : (first.made [.symbol (some "a"), .object, .symbol (some "a")])[0]? =
      some (.symbol ⟨1, some "a"⟩) := rfl
  have hw : (first.made [.symbol (some "a"), .object, .symbol (some "a")])[2]? =
      some (.symbol ⟨2, some "a"⟩) := rfl
  exact ⟨hv, hw, (equal_made_iff hv hw rfl (Or.inl rfl)).2.2.2 (by decide) (by decide)⟩

theorem exists_made_replicate (ids : Identities) (c : Creation) {i n : Nat} (hi : i < n) :
    ∃ v, (ids.made (List.replicate n c))[i]? = some v ∧ v.kind = c.kind ∧
      countOf c.kind ((List.replicate n c).take i) = i := by
  refine ⟨(c.make (ids.after ((List.replicate n c).take i))).1, ?_, kind_make c, ?_⟩
  · rw [getElem?_made, List.getElem?_replicate, if_pos hi, Option.map_some]
  · rw [List.take_replicate, countOf, List.countP_replicate, Nat.min_eq_left hi.le]
    simp

/-- The symbol made after a full turn of symbols is the first one again. -/
theorem symbol_after_turn :
    let run := List.replicate (2 ^ (32 : Nat) + 1) (Creation.symbol none)
    ∃ v w, (first.made run)[0]? = some v ∧ (first.made run)[2 ^ (32 : Nat)]? = some w ∧
      v.kind = .symbol ∧ w.kind = .symbol ∧ v.strictlyEqual w = true ∧
      v.looselyEqual w = true := by
  intro run
  obtain ⟨v, hv, hvkind, hnone⟩ :=
    exists_made_replicate first (.symbol none) (Nat.succ_pos (2 ^ (32 : Nat)))
  obtain ⟨w, hw, hwkind, hturn⟩ :=
    exists_made_replicate first (.symbol none) (Nat.lt_succ_self (2 ^ (32 : Nat)))
  have hkind : v.kind = w.kind := hvkind.trans hwkind.symm
  have hword : v.kind = .symbol ∨ v.kind = .object := Or.inl hvkind
  have hequal : v.strictlyEqual w = true := by
    rw [strictlyEqual_made_iff hv hw hkind hword, hvkind, hnone, hturn]
    exact (Nat.modEq_zero_iff_dvd.2 (dvd_refl _)).symm
  refine ⟨v, w, hv, hw, hvkind, hwkind, hequal, ?_⟩
  rw [(Value.equal_of_kind hkind hword).1, hequal]

end Identities

end ScriptValues
