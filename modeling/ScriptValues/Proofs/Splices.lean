import Mathlib.Data.List.Perm.Subperm
import ScriptValues.Sequence

/-!
Every change of a sequence is a splice. Pushing, popping, shifting, unshifting, removing and writing
an element each put items in place of a stretch of elements, or do nothing at all. So over a whole
run of calls an element is only missing when a splice deleted it, only new when a splice put it in,
and the elements that stay keep their order.
-/

namespace ScriptValues

namespace Sequence

/-- A call that changes a sequence. Positions and counts are signed words, indices unsigned ones. -/
inductive Change
  | push (v : Value)
  | pop
  | shift
  | unshift (v : Value)
  | remove (p : Int64)
  | set (i : UInt64) (v : Value)
  | splice (start count : Int64) (items : List Value)

/-- What a call gives back. -/
inductive Answer
  | nothing
  | length (n : Nat)
  | element (v : Value)
  | elements (vs : List Value)

/-- The arguments of a splice. -/
structure Replacement where
  start : Int
  count : Int
  items : List Value

/-- The elements that a splice deletes, and the sequence after it. -/
def Replacement.apply (r : Replacement) (vs : List Value) : List Value × List Value :=
  Sequence.splice vs r.start r.count r.items

namespace Change

/-- Performs a call: what it gives back, and the sequence after it. -/
def perform (vs : List Value) : Change → Answer × List Value
  | .push v => (.length (Sequence.push vs v).length, Sequence.push vs v)
  | .pop => (.element (Sequence.pop vs).1, (Sequence.pop vs).2)
  | .shift => (.element (Sequence.shift vs).1, (Sequence.shift vs).2)
  | .unshift v => (.length (Sequence.unshift vs v).length, Sequence.unshift vs v)
  | .remove p => (.nothing, Sequence.remove vs p.toInt)
  | .set i v => (.nothing, Sequence.set vs i.toNat v)
  | .splice start count items =>
    let (deleted, after) := Sequence.splice vs start.toInt count.toInt items
    (.elements deleted, after)

/-- The splice that a call stands for on a sequence of length `n`; none where it changes nothing. -/
def replacement? (n : Nat) : Change → Option Replacement
  | .push v => some ⟨n, 0, [v]⟩
  | .pop => if n = 0 then none else some ⟨n - 1, 1, []⟩
  | .shift => if n = 0 then none else some ⟨0, 1, []⟩
  | .unshift v => some ⟨0, 0, [v]⟩
  | .remove p => if 0 ≤ p.toInt ∧ p.toInt < n then some ⟨p.toInt, 1, []⟩ else none
  | .set i v =>
    if i.toNat < n then some ⟨i.toNat, 1, [v]⟩
    else if i.toNat ≤ 2 ^ (32 : Nat) - 2 ∧ i.toNat - n ≤ 2 ^ (20 : Nat) then
      some ⟨n, 0, List.replicate (i.toNat - n) .undefined ++ [v]⟩
    else none
  | .splice start count items => some ⟨start.toInt, count.toInt, items⟩

/-- What a call gives back on a sequence of length `n`, told by the elements that its splice
deletes. -/
def answer (n : Nat) (deleted : List Value) : Change → Answer
  | .push _ | .unshift _ => .length (n + 1)
  | .pop | .shift =>
    match deleted with
    | [v] => .element v
    | _ => .element .undefined
  | .remove _ | .set _ _ => .nothing
  | .splice _ _ _ => .elements deleted

/-- What a call does, by its splice alone. -/
def spliced (vs : List Value) (c : Change) : Answer × List Value :=
  match c.replacement? vs.length with
  | none => (c.answer vs.length [], vs)
  | some r => (c.answer vs.length (r.apply vs).1, (r.apply vs).2)

end Change

variable {vs front deleted back : List Value}

/-- A splice leaves alone what stands in front of the elements it deletes and behind them. -/
theorem splice_eq (hvs : vs = front ++ deleted ++ back) {start count : Int}
    (hstart : start = front.length) (hcount : count = deleted.length) (items : List Value) :
    splice vs start count items = (deleted, front ++ items ++ back) := by
  have hfirst : Position.clamped vs.length start = front.length := by
    simp [Position.clamped, hvs, hstart]
  have hlast : front.length + Position.clamped (vs.length - front.length) count =
      (front ++ deleted).length := by
    simp [Position.clamped, hvs, hcount]
  rw [splice, hfirst, hlast, Position.between, hvs, List.take_left, List.drop_left, List.drop_left,
    List.append_assoc front deleted back, List.take_left]

theorem splice_push (vs : List Value) (v : Value) :
    splice vs vs.length 0 [v] = ([], push vs v) := by
  have hvs : vs = vs ++ [] ++ [] := by simp
  have hnone : (0 : Int) = ([] : List Value).length := rfl
  rw [splice_eq hvs rfl hnone, List.append_nil, push]

theorem splice_unshift (vs : List Value) (v : Value) :
    splice vs 0 0 [v] = ([], unshift vs v) := by
  have hvs : vs = [] ++ [] ++ vs := rfl
  have hnone : (0 : Int) = ([] : List Value).length := rfl
  exact splice_eq hvs hnone hnone [v]

/-- Popping deletes the last element and gives it back. -/
theorem splice_pop (hvs : vs ≠ []) :
    splice vs (vs.length - 1) 1 [] = ([(pop vs).1], (pop vs).2) := by
  obtain ⟨front, v, hlast⟩ : ∃ front v, vs = front ++ [v] :=
    ⟨_, _, (List.dropLast_append_getLast hvs).symm⟩
  have hsplit : vs = front ++ [v] ++ [] := by rw [hlast, List.append_nil]
  have hstart : (vs.length : Int) - 1 = front.length := by simp [hlast]
  have hone : (1 : Int) = [v].length := rfl
  rw [splice_eq hsplit hstart hone, hlast, pop]
  simp

/-- Shifting deletes the first element and gives it back. -/
theorem splice_shift (hvs : vs ≠ []) : splice vs 0 1 [] = ([(shift vs).1], (shift vs).2) := by
  cases vs with
  | nil => exact absurd rfl hvs
  | cons v vs =>
      have hvs : v :: vs = [] ++ [v] ++ vs := rfl
      have hnone : (0 : Int) = ([] : List Value).length := rfl
      have hone : (1 : Int) = [v].length := rfl
      exact splice_eq hvs hnone hone []

/-- A splice of one element replaces the element at its place. -/
theorem splice_one {i : Nat} (hi : i < vs.length) (items : List Value) :
    splice vs i 1 items = ([vs[i]], vs.take i ++ items ++ vs.drop (i + 1)) := by
  have hsplit : vs = vs.take i ++ [vs[i]] ++ vs.drop (i + 1) := by
    rw [List.append_assoc, List.singleton_append, List.getElem_cons_drop, List.take_append_drop]
  have hstart : (i : Int) = (vs.take i).length := by
    rw [List.length_take_of_le (Nat.le_of_lt hi)]
  have hone : (1 : Int) = [vs[i]].length := rfl
  exact splice_eq hsplit hstart hone items

theorem splice_remove {i : Nat} (hi : i < vs.length) :
    splice vs i 1 [] = ([vs[i]], remove vs i) := by
  rw [splice_one hi, remove, if_neg (by omega), Int.toNat_natCast,
    List.eraseIdx_eq_take_drop_succ, List.append_nil]

theorem splice_set {i : Nat} (hi : i < vs.length) (v : Value) :
    splice vs i 1 [v] = ([vs[i]], set vs i v) := by
  rw [splice_one hi, set, if_pos hi, List.set_eq_take_append_cons_drop, if_pos hi,
    List.append_assoc, List.singleton_append]

/-- The signed reading of an index is in the range of writable ones exactly when the index is. -/
theorem isWritable_iff {i : Nat} (hi : i < 2 ^ (64 : Nat)) :
    isWritable i = true ↔ i ≤ 2 ^ (32 : Nat) - 2 := by
  rw [isWritable, Bool.and_eq_true, decide_eq_true_iff, decide_eq_true_iff, signedWord, maxIndex]
  split
  · omega
  · omega

/-- A write behind the end that is not too far out appends the gap and the element. -/
theorem splice_set_behind {i : Nat} (hi : vs.length ≤ i) (hmost : i ≤ 2 ^ (32 : Nat) - 2)
    (hgap : i - vs.length ≤ 2 ^ (20 : Nat)) (v : Value) :
    splice vs vs.length 0 (List.replicate (i - vs.length) .undefined ++ [v]) =
      ([], set vs i v) := by
  have hvs : vs = vs ++ [] ++ [] := by simp
  have hnone : (0 : Int) = ([] : List Value).length := rfl
  have hword : i < 2 ^ (64 : Nat) := by omega
  have hnear : ¬ (!isWritable i || decide (maxGap < i - vs.length)) = true := by
    rw [(isWritable_iff hword).2 hmost, Bool.not_true, Bool.false_or, decide_eq_true_iff, maxGap]
    omega
  have hcount : i + 1 - vs.length = i - vs.length + 1 := by omega
  have hplace : i = (vs ++ List.replicate (i - vs.length) Value.undefined).length := by
    rw [List.length_append, List.length_replicate]
    omega
  rw [splice_eq hvs rfl hnone, set, if_neg (Nat.not_lt.2 hi), if_neg hnear, hcount,
    List.replicate_succ', ← List.append_assoc, List.append_nil, ← List.append_assoc]
  generalize vs ++ List.replicate (i - vs.length) Value.undefined = filled at hplace
  rw [hplace, List.set_append_right _ _ (Nat.le_refl _), Nat.sub_self, List.set_cons_zero]

/-- A write too far behind the end is ignored. -/
theorem set_far {i : Nat} (hword : i < 2 ^ (64 : Nat)) (hi : vs.length ≤ i)
    (hfar : ¬ (i ≤ 2 ^ (32 : Nat) - 2 ∧ i - vs.length ≤ 2 ^ (20 : Nat))) (v : Value) :
    set vs i v = vs := by
  have hout : (!isWritable i || decide (maxGap < i - vs.length)) = true := by
    rw [Bool.or_eq_true, Bool.not_eq_true', Bool.eq_false_iff, ne_eq, isWritable_iff hword,
      decide_eq_true_iff, maxGap]
    omega
  rw [set, if_neg (Nat.not_lt.2 hi), if_pos hout]

theorem remove_outside {p : Int} (hp : ¬ (0 ≤ p ∧ p < vs.length)) : remove vs p = vs := by
  rw [remove]
  split
  · rfl
  · exact List.eraseIdx_of_length_le (by omega)

namespace Change

/-- Every call does what its splice does. -/
theorem perform_eq_spliced (vs : List Value) (c : Change) : c.perform vs = c.spliced vs := by
  rw [spliced]
  cases c with
  | push v =>
      simp only [replacement?, Replacement.apply, splice_push, perform, answer]
      rw [Sequence.push, List.length_append, List.length_singleton]
  | unshift v =>
      simp only [replacement?, Replacement.apply, splice_unshift, perform, answer]
      rw [Sequence.unshift, List.length_cons]
  | pop =>
      by_cases hvs : vs = []
      · rw [hvs]
        rfl
      · have hlength : vs.length ≠ 0 := by simpa using hvs
        simp only [replacement?, if_neg hlength, Replacement.apply, splice_pop hvs, perform, answer]
  | shift =>
      by_cases hvs : vs = []
      · rw [hvs]
        rfl
      · have hlength : vs.length ≠ 0 := by simpa using hvs
        simp only [replacement?, if_neg hlength, Replacement.apply, splice_shift hvs, perform,
          answer]
  | remove p =>
      by_cases hp : 0 ≤ p.toInt ∧ p.toInt < vs.length
      · obtain ⟨i, hi⟩ := Int.eq_ofNat_of_zero_le hp.1
        have hlt : i < vs.length := by omega
        simp only [replacement?, if_pos hp, Replacement.apply, perform, answer]
        rw [hi, splice_remove hlt]
      · simp only [replacement?, if_neg hp, perform, answer]
        rw [remove_outside hp]
  | set i v =>
      have hword : i.toNat < 2 ^ (64 : Nat) := i.toNat_lt
      simp only [replacement?, perform, answer]
      by_cases hinside : i.toNat < vs.length
      · rw [if_pos hinside]
        simp only [Replacement.apply, splice_set hinside]
      · rw [if_neg hinside]
        by_cases hnear : i.toNat ≤ 2 ^ (32 : Nat) - 2 ∧ i.toNat - vs.length ≤ 2 ^ (20 : Nat)
        · rw [if_pos hnear]
          simp only [Replacement.apply,
            splice_set_behind (Nat.not_lt.1 hinside) hnear.1 hnear.2]
        · rw [if_neg hnear]
          simp only [set_far hword (Nat.not_lt.1 hinside) hnear]
  | splice start count items => rfl

end Change

/-- Performs calls one after another. -/
def performAll (vs : List Value) (cs : List Change) : List Value :=
  cs.foldl (fun vs c => (c.perform vs).2) vs

/-- What a call exchanges: the elements that its splice deletes, and the items put in. -/
def Change.exchange (vs : List Value) (c : Change) : List Value × List Value :=
  match c.replacement? vs.length with
  | none => ([], [])
  | some r => ((r.apply vs).1, r.items)

/-- All elements that the splices of a run of calls delete, and all items that they put in. -/
def exchangeAll : List Value → List Change → List Value × List Value
  | _, [] => ([], [])
  | vs, c :: cs =>
    let (deleted, items) := c.exchange vs
    let (deletedLater, itemsLater) := exchangeAll (c.spliced vs).2 cs
    (deleted ++ deletedLater, items ++ itemsLater)

variable {α : Type}

/-- Some elements of a sequence are still there afterwards, in the same order. Every other element
of it is among the deleted ones, as many times, and every other element afterwards is among the
items. -/
def Accounted (before deleted items after : List α) : Prop :=
  ∃ kept lost gained : List α,
    kept.Sublist before ∧ kept.Sublist after ∧
      before.Perm (kept ++ lost) ∧ lost.Subperm deleted ∧
      after.Perm (kept ++ gained) ∧ gained.Subperm items

/-- The elements in front of a window, in it and behind it make up the sequence. -/
theorem take_window_drop (vs : List Value) (first size : Nat) :
    vs.take first ++ (vs.drop first).take size ++ vs.drop (first + size) = vs := by
  rw [List.append_assoc, ← List.drop_drop, List.take_append_drop, List.take_append_drop]

theorem splice_split (vs : List Value) (start count : Int) (items : List Value) :
    ∃ front back, vs = front ++ (splice vs start count items).1 ++ back ∧
      (splice vs start count items).2 = front ++ items ++ back := by
  rw [splice]
  generalize Position.clamped vs.length start = first
  generalize Position.clamped (vs.length - first) count = taken
  refine ⟨vs.take first, vs.drop (first + taken), ?_, rfl⟩
  rw [Position.between, List.drop_take, Nat.add_sub_cancel_left, take_window_drop]

theorem Change.exchange_split (vs : List Value) (c : Change) :
    ∃ front back, vs = front ++ (c.exchange vs).1 ++ back ∧
      (c.spliced vs).2 = front ++ (c.exchange vs).2 ++ back := by
  rw [exchange, spliced]
  cases c.replacement? vs.length with
  | none => exact ⟨vs, [], by simp, by simp⟩
  | some r => exact splice_split vs r.start r.count r.items

/-- Exchanging one stretch first keeps account: what is kept of the items put in here is gained in
the end, and what is lost around them is lost later. -/
theorem Accounted.exchange_first {front deleted items back deletedLater itemsLater after : List α}
    (h : Accounted (front ++ items ++ back) deletedLater itemsLater after) :
    Accounted (front ++ deleted ++ back) (deleted ++ deletedLater) (items ++ itemsLater) after := by
  classical
  obtain ⟨kept, lost, gained, hbefore, hafter, hlost, hdeleted, hgained, hitems⟩ := h
  obtain ⟨keptFirst, keptBack, rfl, hfirst, hback⟩ := List.sublist_append_iff.1 hbefore
  obtain ⟨keptFront, keptItems, rfl, hfront, hkept⟩ := List.sublist_append_iff.1 hfirst
  obtain ⟨lostFront, hlostFront⟩ := hfront.exists_perm_append
  obtain ⟨lostBack, hlostBack⟩ := hback.exists_perm_append
  refine ⟨keptFront ++ keptBack, lostFront ++ deleted ++ lostBack, keptItems ++ gained,
    (hfront.trans (List.sublist_append_left _ _)).append hback, ?_, ?_, ?_, ?_, ?_⟩
  · exact ((List.sublist_append_left keptFront keptItems).append_right keptBack).trans hafter
  all_goals
    simp only [List.perm_iff_count, List.count_append, List.subperm_iff_count] at *
  · intro v
    have := hlostFront v
    have := hlostBack v
    omega
  · intro v
    have := hlostFront v
    have := hlostBack v
    have := hlost v
    have := hdeleted v
    have := hkept.count_le v
    omega
  · intro v
    have := hgained v
    omega
  · intro v
    have := hitems v
    have := hkept.count_le v
    omega

/-- Over a run of calls every element is accounted for by the splices. -/
theorem accounted_performAll (vs : List Value) (cs : List Change) :
    Accounted vs (exchangeAll vs cs).1 (exchangeAll vs cs).2 (performAll vs cs) := by
  induction cs generalizing vs with
  | nil => exact ⟨vs, [], [], .refl vs, .refl vs, by simp [performAll, exchangeAll]⟩
  | cons c cs ih =>
      -- the later calls keep account of the sequence after this one
      obtain ⟨front, back, hvs, hspliced⟩ := c.exchange_split vs
      have hlater := ih (c.spliced vs).2
      rw [hspliced] at hlater
      have hrun : performAll vs (c :: cs) = performAll (front ++ (c.exchange vs).2 ++ back) cs := by
        rw [performAll, List.foldl_cons, c.perform_eq_spliced vs, hspliced, performAll]
      have hexchange : exchangeAll vs (c :: cs) =
          ((c.exchange vs).1 ++ (exchangeAll (front ++ (c.exchange vs).2 ++ back) cs).1,
            (c.exchange vs).2 ++ (exchangeAll (front ++ (c.exchange vs).2 ++ back) cs).2) := by
        rw [exchangeAll, hspliced]
      rw [hrun, hexchange]
      have hfirst : Accounted (front ++ (c.exchange vs).1 ++ back) _ _ _ := hlater.exchange_first
      rwa [← hvs] at hfirst

/-- Every call does what its splice does, so a run of calls is the run of their splices: no element
is lost, doubled or moved but by what these delete and put in. -/
theorem changes_are_splices :
    (∀ (vs : List Value) (c : Change), c.perform vs = c.spliced vs) ∧
      ∀ (vs : List Value) (cs : List Change),
        performAll vs cs = cs.foldl (fun vs c => (c.spliced vs).2) vs ∧
          Accounted vs (exchangeAll vs cs).1 (exchangeAll vs cs).2 (performAll vs cs) := by
  refine ⟨Change.perform_eq_spliced, fun vs cs => ⟨?_, accounted_performAll vs cs⟩⟩
  rw [performAll]
  congr
  funext vs c
  rw [c.perform_eq_spliced vs]

end Sequence

end ScriptValues
