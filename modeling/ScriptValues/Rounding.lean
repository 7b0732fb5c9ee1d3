/-!
Rounding a quotient of natural numbers to a whole number. Every rounding in the library, of doubles
and of decimal digits alike, is this one function with a rule for exact halves.
-/

namespace ScriptValues

/-- Where a quotient goes that lies exactly half way between two whole numbers. -/
inductive Tie
  | toEven
  | up
  deriving DecidableEq, Repr

/-- The whole number nearest to `num / den`; `tie` settles exact halves. -/
def roundDiv (tie : Tie) (num den : Nat) : Nat :=
  let whole := num / den
  let rest := num % den
  if 2 * rest < den then whole
  else if den < 2 * rest then whole + 1
  else match tie with
    | .toEven => whole + whole % 2
    | .up => whole + 1

theorem div_le_roundDiv (tie : Tie) (num den : Nat) : num / den ≤ roundDiv tie num den := by
  unfold roundDiv
  cases tie <;> grind

theorem roundDiv_le (tie : Tie) (num den : Nat) : roundDiv tie num den ≤ num / den + 1 := by
  unfold roundDiv
  cases tie <;> grind

/-- A quotient without remainder is kept as it is. -/
theorem roundDiv_of_mod_eq_zero (tie : Tie) {num den : Nat} (hden : 0 < den)
    (h : num % den = 0) : roundDiv tie num den = num / den := by
  simp [roundDiv, h, hden]

end ScriptValues
