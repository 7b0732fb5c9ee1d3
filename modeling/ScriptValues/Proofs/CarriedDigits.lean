import ScriptValues.Decimal.Rounding
import ScriptValues.Proofs.Numeral

/-!
The digits that rounding leaves. A carry through digits keeps the number that they stand for, so
what is left are the digits of the first `count` as a number, rounded up by a digit after them of
five or more. That number has a digit too many exactly when no digit takes the carry up.
-/

namespace ScriptValues

namespace Decimal

namespace Carry

variable {d : Nat} {ds front : List Nat} {c : Carry}

theorem next_of_taken (h : c.taken = true) : c.next d = ⟨d :: c.digits, true⟩ := by
  simp [next, h]

theorem next_of_lt (h : c.taken = false) (hd : d < 9) : c.next d = ⟨(d + 1) :: c.digits, true⟩ := by
  simp [next, h, Nat.le_of_lt_succ hd]

theorem next_nine (h : c.taken = false) : c.next 9 = ⟨0 :: c.digits, false⟩ := by
  simp [next, h]

/-- The digits of a carry stand for the same number as `ds`, with a one in the place in front of
them as long as no digit has taken it up. -/
structure Represents (c : Carry) (ds : List Nat) : Prop where
  length : c.digits.length = ds.length
  lt_ten : ∀ d ∈ c.digits, d < 10
  value : Numeral.value 10 c.digits + (if c.taken then 0 else 10 ^ ds.length) = Numeral.value 10 ds

theorem represents_start : start.Represents [10] where
  length := rfl
  lt_ten := by decide
  value := rfl

/-- One more digit in front takes the one up, or is a nine and leaves it to the place before. -/
theorem Represents.next (h : c.Represents ds) (hd : d < 10) : (c.next d).Represents (d :: ds) := by
  have hvalue := h.value
  have hlen := congrArg (· + 1) h.length
  have hcons : ∀ {e}, e < 10 → ∀ digit ∈ e :: c.digits, digit < 10 :=
    fun he => List.forall_mem_cons.2 ⟨he, h.lt_ten⟩
  cases htaken : c.taken with
  | true =>
    rw [htaken, if_pos rfl] at hvalue
    rw [next_of_taken htaken]
    refine ⟨hlen, hcons hd, ?_⟩
    rw [if_pos rfl, Numeral.value_cons, Numeral.value_cons, h.length]
    omega
  | false =>
    rw [htaken, if_neg Bool.false_ne_true] at hvalue
    rcases Nat.lt_or_ge d 9 with hlt | hge
    · rw [next_of_lt htaken hlt]
      refine ⟨hlen, hcons (by omega), ?_⟩
      rw [if_pos rfl, Numeral.value_cons, Numeral.value_cons, h.length, Nat.succ_mul]
      omega
    · obtain rfl : d = 9 := by omega
      rw [next_nine htaken]
      refine ⟨hlen, hcons (by decide), ?_⟩
      rw [if_neg Bool.false_ne_true, Numeral.value_cons, Numeral.value_cons, List.length_cons,
        Nat.pow_succ]
      omega

/-- A ten behind `front` is carried through all of it. -/
theorem represents_foldr (hfront : ∀ d ∈ front, d < 10) :
    (front.foldr next start).Represents (front ++ [10]) := by
  induction front with
  | nil => exact represents_start
  | cons d front ih =>
    obtain ⟨hd, hfront⟩ := List.forall_mem_cons.1 hfront
    exact (ih hfront).next hd

/-- A carry that a digit has taken up has the digits of the number. -/
theorem Represents.digits_of_taken (h : c.Represents ds) (htaken : c.taken = true) :
    Numeral.value 10 ds < 10 ^ ds.length ∧
      c.digits = Numeral.padded ds.length (Numeral.digits 10 (Numeral.value 10 ds)) := by
  have hvalue := h.value
  rw [if_pos htaken, Nat.add_zero] at hvalue
  rw [← hvalue, ← h.length]
  exact ⟨Numeral.value_lt_pow (by decide) h.lt_ten,
    (Numeral.padded_digits_value (by decide) h.lt_ten).symm⟩

/-- A carry that no digit has taken up is all that is left of the number. -/
theorem Represents.digits_of_not_taken (h : c.Represents (front ++ [10]))
    (hfront : ∀ d ∈ front, d < 10) (htaken : c.taken = false) :
    Numeral.value 10 (front ++ [10]) = 10 ^ (front.length + 1) ∧
      c.digits = List.replicate (front.length + 1) 0 := by
  have hlen := h.length
  have hvalue := h.value
  have hfrontLt := Numeral.value_lt_pow (by decide) hfront
  have hmost := Numeral.value_append_singleton 10 front 10
  have hdigits := Numeral.padded_digits_value (by decide) h.lt_ten
  rw [List.length_append, List.length_singleton] at hlen hvalue
  rw [htaken, if_neg Bool.false_ne_true] at hvalue
  have hzero : Numeral.value 10 c.digits = 0 := by
    rw [Nat.pow_succ] at hvalue
    omega
  rw [hzero, Numeral.padded_digits_zero, hlen] at hdigits
  exact ⟨by rw [← hvalue, hzero, Nat.zero_add], hdigits.symm⟩

end Carry

variable {front ds : List Nat} {count last : Nat}

/-- Settled digits are those of the number that digits with a ten at most behind them stand for. A
number that takes one digit more is a power of ten, and a carry. -/
theorem settle_eq (hfront : ∀ d ∈ front, d < 10) (hlast : last ≤ 10) :
    settle front last =
      if Numeral.value 10 (front ++ [last]) = 10 ^ (front.length + 1) then
        (Numeral.padded (front.length + 1) (Numeral.digits 10 (10 ^ front.length)), true)
      else
        (Numeral.padded (front.length + 1)
          (Numeral.digits 10 (Numeral.value 10 (front ++ [last]))), false) := by
  have hlen : (front ++ [last]).length = front.length + 1 := List.length_append
  rcases Nat.lt_or_eq_of_le hlast with hlt | rfl
  · have hds := List.forall_mem_append.2 ⟨hfront, List.forall_mem_singleton.2 hlt⟩
    have hvalue := Numeral.value_lt_pow (by decide) hds
    have hdigits := Numeral.padded_digits_value (by decide) hds
    rw [hlen] at hvalue hdigits
    rw [settle, if_pos hlt.ne, if_neg hvalue.ne, hdigits]
  · have hcarry := Carry.represents_foldr hfront
    rw [settle, if_neg (by decide)]
    dsimp only
    split
    · next htaken =>
      obtain ⟨hvalue, hdigits⟩ := hcarry.digits_of_taken htaken
      rw [hlen] at hvalue hdigits
      rw [if_neg hvalue.ne, hdigits]
    · next htaken =>
      obtain ⟨hvalue, hdigits⟩ :=
        hcarry.digits_of_not_taken hfront (Bool.eq_false_of_not_eq_true htaken)
      rw [if_pos hvalue, hdigits, List.dropLast_replicate, Numeral.padded_digits_pow (by decide),
        Nat.add_sub_cancel]

/-- The first `count` digits as a number, one more when the digit after them is five at least. -/
def roundedUp (count : Nat) (ds : List Nat) : Nat :=
  Numeral.value 10 (ds.take count) + if 5 ≤ (ds.drop count).headD 0 then 1 else 0

theorem roundedUp_append (front : List Nat) (last next : Nat) (rest : List Nat) :
    roundedUp (front.length + 1) (front ++ last :: next :: rest) =
      Numeral.value 10 (front ++ [if 4 < next then last + 1 else last]) := by
  have hkept : (front ++ [last]).length = front.length + 1 := List.length_append
  rw [roundedUp, List.append_cons, List.take_left' hkept, List.drop_left' hkept, List.headD_cons,
    Numeral.value_append_singleton, Numeral.value_append_singleton]
  split <;> split <;> omega

/-- Rounding leaves the digits of the rounded number. A number that takes one digit more is a power
of ten, and a carry. -/
theorem roundTo_of_lt (hcount : 0 < count) (hlen : count < ds.length) (hds : ∀ d ∈ ds, d < 10) :
    roundTo count ds =
      if roundedUp count ds = 10 ^ count then
        (Numeral.padded count (Numeral.digits 10 (10 ^ (count - 1))), true)
      else (Numeral.padded count (Numeral.digits 10 (roundedUp count ds)), false) := by
  obtain ⟨front, last, next, rest, rfl, rfl⟩ := exists_append_of_lt hcount hlen
  obtain ⟨hfront, hrest⟩ := List.forall_mem_append.1 hds
  have hlast := hrest last List.mem_cons_self
  rw [roundTo_append, roundedUp_append, settle_eq hfront (by split <;> omega), Nat.add_sub_cancel]

/-- The carry stops at the first digit that is no nine, and a zero in front stays. -/
example : roundTo 4 [0, 1, 9, 9, 6] = ([0, 2, 0, 0], false) := by decide

/-- Rounding is half up, and leaves exactly `count` digits. Fewer digits are filled up with zeros.
Of more, the first `count` are rounded as one number, and the flag tells that it is the next power
of ten, of which the last zero is left off. -/
theorem roundTo_half_up (hcount : 1 ≤ count) (hds : ∀ d ∈ ds, d < 10) :
    (roundTo count ds).1.length = count ∧
      (ds.length ≤ count →
        roundTo count ds = (ds ++ List.replicate (count - ds.length) 0, false)) ∧
      (count < ds.length →
        ((roundTo count ds).2 = true ↔ roundedUp count ds = 10 ^ count) ∧
          (roundTo count ds).1 = Numeral.padded count (Numeral.digits 10
            (if (roundTo count ds).2 then roundedUp count ds / 10 else roundedUp count ds))) := by
  refine ⟨length_roundTo hcount ds, fun hshort => if_pos hshort, fun hlong => ?_⟩
  rw [roundTo_of_lt hcount hlong hds]
  by_cases hcarry : roundedUp count ds = 10 ^ count
  · have htenth : 10 ^ count / 10 = 10 ^ (count - 1) := Nat.pow_div hcount (by decide)
    rw [if_pos hcarry, hcarry, htenth]
    exact ⟨iff_of_true rfl rfl, rfl⟩
  · rw [if_neg hcarry]
    exact ⟨iff_of_false Bool.false_ne_true hcarry, rfl⟩

/-- Three nines are rounded to the next power of ten. -/
theorem roundTo_half_up_nines :
    1 ≤ 3 ∧ (∀ d ∈ [9, 9, 9, 5], d < 10) ∧ roundTo 3 [9, 9, 9, 5] = ([1, 0, 0], true) := by
  have hds : ∀ d ∈ [9, 9, 9, 5], d < 10 := by decide
  obtain ⟨hflag, hdigits⟩ := (roundTo_half_up (by decide : 1 ≤ 3) hds).2.2 (by decide)
  have hcarry : (roundTo 3 [9, 9, 9, 5]).2 = true := hflag.2 (by decide)
  rw [hcarry] at hdigits
  exact ⟨by decide, hds, Prod.ext hdigits hcarry⟩

end Decimal

end ScriptValues
