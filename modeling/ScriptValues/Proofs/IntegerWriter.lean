import ScriptValues.Proofs.WholeNumber

/-!
What the library that writes whole numbers promises: in a base from 2 to 36 a number of 64 bits gets
its digits and no others, letters in either case. Once the letters are lower case, no writer that
keeps the promise can be told from another one.
-/

namespace ScriptValues

namespace Numeral

variable {base : Nat}

/-- A digit of a base is the same digit in base 36. -/
theorem digitValue?_of_le (hle : base ≤ 36) {c : Char} {d : Nat} (h : digitValue? base c = some d) :
    digitValue? 36 c = some d ∧ c.toNat < 123 := by
  have hd : d < base := by grind [digitValue?]
  have hbound := Nat.lt_of_lt_of_le hd hle
  unfold digitValue? at h ⊢
  grind

/-- A digit has one character, to the case of a letter. -/
theorem toLower_of_digitValue? (hle : base ≤ 36) {c : Char} {d : Nat}
    (h : digitValue? base c = some d) : c.toLower = digitChar d := by
  have hall : ∀ n < 123, ∀ d ∈ digitValue? 36 (Char.ofNat n),
      (Char.ofNat n).toLower = digitChar d := by decide
  obtain ⟨hdigit, hascii⟩ := digitValue?_of_le hle h
  rw [← Char.ofNat_toNat c] at hdigit ⊢
  exact hall c.toNat hascii d hdigit

/-- The other way round, a digit is read from its letter in upper case. -/
theorem digitValue?_toUpper (hle : base ≤ 36) {d : Nat} (hd : d < base) :
    digitValue? base (digitChar d).toUpper = some d := by
  have hall : ∀ d < 36, digitValue? 36 (digitChar d).toUpper = some d := by decide
  have hdigit := hall d (by omega)
  unfold digitValue? at hdigit ⊢
  grind

theorem Spelled.map_toLower (hle : base ≤ 36) {cs : List Char} {ds : List Nat}
    (h : Spelled base cs ds) : cs.map Char.toLower = ds.map digitChar := by
  induction h with
  | nil => rfl
  | cons hd _ ih => rw [List.map_cons, List.map_cons, ih, toLower_of_digitValue? hle hd]

end Numeral

open Numeral

namespace IntegerWriter

/-- What is documented of the library. -/
structure Documented (writer : IntegerWriter) : Prop where
  spelled {base n : Nat} (hbase : 2 ≤ base) (hle : base ≤ 36) (hn : n < UInt64.size) :
    Spelled base (writer.write base n) (shownDigits base n)

theorem standard_documented : standard.Documented where
  spelled {base n} hbase hle _ := by
    have hdigits : ∀ d ∈ shownDigits base n, d < base := fun d hd => shownDigits_lt hbase hd
    simp only [standard, natChars_eq, List.map_map]
    generalize shownDigits base n = ds at *
    induction ds with
    | nil => exact .nil
    | cons d ds ih =>
        apply List.Forall₂.cons
        · exact digitValue?_toUpper hle (hdigits d List.mem_cons_self)
        · exact ih fun e he => hdigits e (List.mem_cons_of_mem d he)

end IntegerWriter

namespace Radix

open Double

variable {writer : IntegerWriter} {base n : Nat}

/-- The digits of a double without a fraction: below the limit those of its exact value, else what
the loop takes off. -/
def integerDigits (base : Nat) (n : Double) : List Nat :=
  if n.less (.ofNat exactLimit) then shownDigits base (wholeUnits n)
  else largeDigits (.ofNat base) maxSteps n []

/-- The characters of a whole double are those of its digits, whichever library writes them. -/
theorem integerChars_ofNat (hwriter : writer.Documented) (hbase : 2 ≤ base) (hle : base ≤ 36)
    (hn : Exact n) :
    integerChars base (.ofNat n) writer = (integerDigits base (.ofNat n)).map digitChar := by
  rw [integerChars, integerDigits]
  split
  · next hless =>
    have hsmall : n < 2 ^ (53 : Nat) := (hn.less_iff .exactLimit).1 hless
    have hword : n < UInt64.size := Nat.lt_trans hsmall (by decide)
    rw [hn.wholeUnits_eq, (hwriter.spelled hbase hle hword).map_toLower hle]
  · rfl

end Radix

end ScriptValues
