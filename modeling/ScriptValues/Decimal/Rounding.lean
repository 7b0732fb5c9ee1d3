/-!
Rounding a list of decimal digits to fewer of them. The digit after the last one kept decides, five
and more rounding up, and a carry out of the first digit is reported to the caller.
-/

namespace ScriptValues

namespace Decimal

/-- A one on its way from the last digit to the first: the digits that it has passed, and whether
one of them has taken it up. -/
structure Carry where
  digits : List Nat
  taken : Bool
  deriving DecidableEq, Repr

/-- A last digit of ten leaves a zero in its place. -/
def Carry.start : Carry := ⟨[0], false⟩

/-- One more digit in front. Nines become zeros up to the first digit below nine, which takes the
one up; what stands in front of that stays as it is. -/
def Carry.next (d : Nat) (c : Carry) : Carry :=
  let digit := if c.taken then d else if d ≤ 8 then d + 1 else 0
  ⟨digit :: c.digits, c.taken || digit != 0⟩

/-- The digits `front` with `last` behind them, which may be ten. The flag tells that no digit took
the carry up; a one then stands in front, and the zero at the end is left off. -/
def settle (front : List Nat) (last : Nat) : List Nat × Bool :=
  if last ≠ 10 then (front ++ [last], false)
  else
    let carry := front.foldr Carry.next .start
    if carry.taken then (carry.digits, false) else (1 :: carry.digits.dropLast, true)

/-- The first `count` digits of `ds`, rounded by the digit that follows and filled up with zeros.
The flag tells that rounding went up to the next power of ten; the digits then start with a one
that stands one place higher. -/
def roundTo (count : Nat) (ds : List Nat) : List Nat × Bool :=
  if ds.length ≤ count then (ds ++ List.replicate (count - ds.length) 0, false)
  else
    let kept := ds.take count
    match kept.getLast? with
    | none => ([], false)
    | some last =>
      settle kept.dropLast (if (ds.drop count).head?.any (4 < ·) then last + 1 else last)

theorem Carry.length_foldr_next (front : List Nat) :
    (front.foldr Carry.next .start).digits.length = front.length + 1 := by
  induction front with
  | nil => rfl
  | cons d front ih => rw [List.foldr_cons, Carry.next, List.length_cons, ih, List.length_cons]

theorem length_settle (front : List Nat) (last : Nat) :
    (settle front last).1.length = front.length + 1 := by
  have := Carry.length_foldr_next front
  grind [settle]

/-- Digits of which more than `count` are there are those in front of the last one kept, that one,
the one that decides, and the rest. -/
theorem exists_append_of_lt {count : Nat} {ds : List Nat} (hcount : 0 < count)
    (hlen : count < ds.length) :
    ∃ front last next rest, ds = front ++ last :: next :: rest ∧ count = front.length + 1 := by
  obtain ⟨count, rfl⟩ : ∃ k, count = k + 1 := ⟨count - 1, by omega⟩
  refine ⟨ds.take count, ds[count], ds[count + 1], ds.drop (count + 2), ?_, ?_⟩
  · rw [← List.drop_eq_getElem_cons, ← List.drop_eq_getElem_cons, List.take_append_drop]
  · rw [List.length_take, Nat.min_eq_left (by omega)]

theorem roundTo_append (front : List Nat) (last next : Nat) (rest : List Nat) :
    roundTo (front.length + 1) (front ++ last :: next :: rest) =
      settle front (if 4 < next then last + 1 else last) := by
  have hkept : (front ++ [last]).length = front.length + 1 := List.length_append
  rw [List.append_cons, roundTo, if_neg (by simp), List.take_left' hkept, List.drop_left' hkept]
  simp

/-- Rounding leaves exactly as many digits as were asked for. -/
theorem length_roundTo {count : Nat} (h : 0 < count) (ds : List Nat) :
    (roundTo count ds).1.length = count := by
  rcases Nat.lt_or_ge count ds.length with hlong | hshort
  · obtain ⟨front, last, next, rest, rfl, rfl⟩ := exists_append_of_lt h hlong
    rw [roundTo_append, length_settle]
  · rw [roundTo, if_pos hshort, List.length_append, List.length_replicate,
      Nat.add_sub_of_le hshort]

end Decimal

end ScriptValues
