import Mathlib.Data.Nat.Digits.Lemmas
import Mathlib.Tactic.Linarith
import ScriptValues.Double
import ScriptValues.Numeral

/-!
What numerals stand for. The digits of a number have its value and no zero in front, and the
characters that write digits are read back as the same digits, up to the first character that is
none.
-/

namespace ScriptValues

namespace Numeral

variable {base : Nat}

private theorem digitsOnto_eq (hbase : 2 ≤ base) (fuel n : Nat) (later : List Nat)
    (hn : n < 2 ^ fuel) :
    digitsOnto base fuel n later = (Nat.digits base n).reverse ++ later := by
  induction fuel generalizing n later with
  | zero =>
      obtain rfl : n = 0 := by simpa using hn
      simp [digitsOnto]
  | succ fuel ih =>
      by_cases hzero : n = 0
      · simp [digitsOnto, hzero]
      · have hquot : n / base < 2 ^ fuel := by
          rw [Nat.pow_succ] at hn
          exact Nat.lt_of_le_of_lt (Nat.div_le_div_left hbase (by decide)) (by omega)
        rw [Nat.digits_def' (by omega) (by omega)]
        simp [digitsOnto, hzero, ih _ _ hquot]

/-- The digits of a number, least significant last. -/
theorem digits_eq_reverse (hbase : 2 ≤ base) (n : Nat) :
    digits base n = (Nat.digits base n).reverse := by
  rw [digits, digitsOnto_eq hbase _ _ _ Nat.lt_log2_self, List.append_nil]

theorem value_eq_ofDigits (base : Nat) (ds : List Nat) :
    value base ds = Nat.ofDigits base ds.reverse := by
  rw [Nat.ofDigits_eq_foldr, List.foldr_reverse, value]
  congr
  funext n d
  simp [Nat.mul_comm, Nat.add_comm]

theorem value_digits (hbase : 2 ≤ base) (n : Nat) : value base (digits base n) = n := by
  rw [value_eq_ofDigits, digits_eq_reverse hbase, List.reverse_reverse, Nat.ofDigits_digits]

theorem digits_zero (base : Nat) : digits base 0 = [] := rfl

@[simp] theorem value_nil (base : Nat) : value base [] = 0 := rfl

/-- The digits in front count for as many places more as digits follow them. -/
theorem value_append (base : Nat) (ds es : List Nat) :
    value base (ds ++ es) = value base ds * base ^ es.length + value base es := by
  simp [value_eq_ofDigits, Nat.ofDigits_append]
  ring

theorem value_le_append {base : Nat} (hbase : 0 < base) (front later : List Nat) :
    value base front ≤ value base (front ++ later) := by
  rw [value_append]
  exact Nat.le_add_right_of_le (Nat.le_mul_of_pos_right _ (Nat.pow_pos hbase))

theorem value_append_singleton (base : Nat) (ds : List Nat) (d : Nat) :
    value base (ds ++ [d]) = value base ds * base + d := by
  simp [value]

theorem value_cons (base d : Nat) (ds : List Nat) :
    value base (d :: ds) = d * base ^ ds.length + value base ds := by
  rw [← List.singleton_append, value_append]
  simp [value]

theorem value_lt_pow (hbase : 2 ≤ base) {ds : List Nat} (hds : ∀ d ∈ ds, d < base) :
    value base ds < base ^ ds.length := by
  rw [value_eq_ofDigits, ← List.length_reverse]
  exact Nat.ofDigits_lt_base_pow_length (by omega) fun d hd => hds d (List.mem_reverse.1 hd)

theorem value_replicate_zero (base count : Nat) : value base (List.replicate count 0) = 0 := by
  simp [value_eq_ofDigits, Nat.ofDigits_replicate_zero]

theorem value_zeros_append (base count : Nat) (ds : List Nat) :
    value base (List.replicate count 0 ++ ds) = value base ds := by
  simp [value_append, value_replicate_zero]

theorem value_append_zeros (base count : Nat) (ds : List Nat) :
    value base (ds ++ List.replicate count 0) = value base ds * base ^ count := by
  simp [value_append, value_replicate_zero]

theorem digits_lt (hbase : 2 ≤ base) {n d : Nat} (h : d ∈ digits base n) : d < base := by
  rw [digits_eq_reverse hbase, List.mem_reverse] at h
  exact Nat.digits_lt_base (by omega) h

theorem digits_ne_nil (hbase : 2 ≤ base) {n : Nat} (hn : 0 < n) : digits base n ≠ [] := by
  simpa [digits_eq_reverse hbase, Nat.digits_eq_nil_iff_eq_zero] using Nat.ne_of_gt hn

/-- The first digit of a number is not a zero. -/
theorem head?_digits_ne_zero (hbase : 2 ≤ base) (n : Nat) :
    (digits base n).head? ≠ some 0 := by
  intro hhead
  rw [digits_eq_reverse hbase, List.head?_reverse] at hhead
  obtain ⟨hne, hlast⟩ := List.mem_getLast?_eq_getLast hhead
  exact Nat.getLast_digit_ne_zero base (Nat.digits_ne_nil_iff_ne_zero.1 hne) hlast.symm

theorem lt_pow_length_digits (hbase : 2 ≤ base) (n : Nat) :
    n < base ^ (digits base n).length := by
  rw [digits_eq_reverse hbase, List.length_reverse]
  exact Nat.lt_base_pow_length_digits (by omega)

theorem pow_length_digits_le (hbase : 2 ≤ base) {n : Nat} (hn : 0 < n) :
    base ^ ((digits base n).length - 1) ≤ n := by
  have hlog : (digits base n).length = Nat.log base n + 1 := by
    rw [digits_eq_reverse hbase, List.length_reverse,
      Nat.length_digits base n (by omega) (by omega)]
  rw [hlog, Nat.add_sub_cancel]
  exact Nat.pow_log_le_self base (by omega)

theorem length_digits_pos (hbase : 2 ≤ base) {n : Nat} (hn : 0 < n) :
    0 < (digits base n).length :=
  List.length_pos_iff.2 (digits_ne_nil hbase hn)

/-- The digits of a number grow by the last one. -/
theorem digits_eq_append (hbase : 2 ≤ base) {n : Nat} (hn : 0 < n) :
    digits base n = digits base (n / base) ++ [n % base] := by
  simp [digits_eq_reverse hbase, Nat.digits_def' (show 1 < base by omega) hn]

/-- Zeros at the end of a numeral multiply by the base. -/
theorem digits_mul_pow (hbase : 2 ≤ base) {n : Nat} (hn : 0 < n) (zeros : Nat) :
    digits base (n * base ^ zeros) = digits base n ++ List.replicate zeros 0 := by
  rw [digits_eq_reverse hbase, Nat.mul_comm, Nat.digits_base_pow_mul (by omega) hn,
    List.reverse_append, List.reverse_replicate, digits_eq_reverse hbase]

/-- Digits of one length are determined by their value. -/
theorem value_inj (hbase : 2 ≤ base) {ds es : List Nat} (hlen : ds.length = es.length)
    (hds : ∀ d ∈ ds, d < base) (hes : ∀ d ∈ es, d < base) (h : value base ds = value base es) :
    ds = es := by
  rw [value_eq_ofDigits, value_eq_ofDigits] at h
  rw [← List.reverse_inj]
  apply Nat.ofDigits_inj_of_len_eq (by omega) (by simpa using hlen) _ _ h
  · exact fun d hd => hds d (List.mem_reverse.1 hd)
  · exact fun d hd => hes d (List.mem_reverse.1 hd)

theorem length_digits_le (hbase : 2 ≤ base) {n count : Nat} (hn : n < base ^ count) :
    (digits base n).length ≤ count := by
  rw [digits_eq_reverse hbase, List.length_reverse]
  exact (Nat.digits_length_le_iff (by omega) n).2 hn

theorem length_padded (width : Nat) (ds : List Nat) :
    (padded width ds).length = max width ds.length := by
  rw [padded, List.length_append, List.length_replicate]
  omega

theorem value_padded (base width : Nat) (ds : List Nat) :
    value base (padded width ds) = value base ds :=
  value_zeros_append base _ ds

theorem padded_digits_zero (base width : Nat) :
    padded width (digits base 0) = List.replicate width 0 :=
  List.append_nil _

/-- Zeros are digits in every base. -/
theorem zeros_lt (hbase : 2 ≤ base) (count : Nat) : ∀ d ∈ List.replicate count 0, d < base := by
  intro d hd
  rw [List.eq_of_mem_replicate hd]
  omega

theorem padded_lt (hbase : 2 ≤ base) {width : Nat} {ds : List Nat} (hds : ∀ d ∈ ds, d < base) :
    ∀ d ∈ padded width ds, d < base :=
  List.forall_mem_append.2 ⟨zeros_lt hbase _, hds⟩

/-- Digits are those of their value, filled up to their number. -/
theorem padded_digits_value (hbase : 2 ≤ base) {ds : List Nat} (hds : ∀ d ∈ ds, d < base) :
    padded ds.length (digits base (value base ds)) = ds := by
  have hlen := length_digits_le hbase (value_lt_pow hbase hds)
  apply value_inj hbase _ (padded_lt hbase fun d hd => digits_lt hbase hd) hds
  · rw [value_padded, value_digits hbase]
  · rw [length_padded]
    omega

/-- A power of the base fills one digit more than its exponent. -/
theorem padded_digits_pow (hbase : 2 ≤ base) (zeros : Nat) :
    padded (zeros + 1) (digits base (base ^ zeros)) = 1 :: List.replicate zeros 0 := by
  have hlt : ∀ d ∈ 1 :: List.replicate zeros 0, d < base :=
    List.forall_mem_cons.2 ⟨by omega, zeros_lt hbase _⟩
  have hdigits := padded_digits_value hbase hlt
  rwa [value_cons, value_replicate_zero, List.length_cons, List.length_replicate, Nat.one_mul,
    Nat.add_zero] at hdigits

/-- The bases of at most 36 that are a power of two. -/
theorem exists_two_pow_of_mem (h : base ∈ [2, 4, 8, 16, 32]) :
    ∃ bits, 0 < bits ∧ bits < 6 ∧ base = 2 ^ bits := by
  simp only [List.mem_cons, List.not_mem_nil, or_false] at h
  rcases h with rfl | rfl | rfl | rfl | rfl
  · exact ⟨1, by decide⟩
  · exact ⟨2, by decide⟩
  · exact ⟨3, by decide⟩
  · exact ⟨4, by decide⟩
  · exact ⟨5, by decide⟩

theorem bounds_of_mem (h : base ∈ [2, 4, 8, 16, 32]) : 2 ≤ base ∧ base ≤ 36 := by
  simp only [List.mem_cons, List.not_mem_nil, or_false] at h
  omega

private theorem digitChar_toNat : ∀ d < 36,
    (digitChar d).toNat = if d < 10 then 48 + d else 87 + d := by decide

theorem digitChar_eq_zero_iff : ∀ d < 10, digitChar d = '0' ↔ d = 0 := by decide

/-- A digit is read from its character in every base that has it. -/
theorem digitValue?_digitChar (hbase : base ≤ 36) {d : Nat} (hd : d < base) :
    digitValue? base (digitChar d) = some d := by
  have hchar := digitChar_toNat d (by omega)
  unfold digitValue?
  rw [hchar]
  split <;> grind

/-- The characters that cannot extend a numeral: everything but digits. -/
def StopsDigits (base : Nat) (cs : List Char) : Prop := ∀ c ∈ cs.head?, isDigit base c = false

@[simp] theorem stopsDigits_nil (base : Nat) : StopsDigits base [] := by simp [StopsDigits]

theorem stopsDigits_cons {base : Nat} {c : Char} (h : isDigit base c = false) (cs : List Char) :
    StopsDigits base (c :: cs) := by
  simpa [StopsDigits] using h

/-- A text spells digits when each of its characters is one, in either case of the letters. -/
def Spelled (base : Nat) (cs : List Char) (ds : List Nat) : Prop :=
  List.Forall₂ (fun c d => digitValue? base c = some d) cs ds

theorem spelled_digitChars (hbase : base ≤ 36) {ds : List Nat} (hds : ∀ d ∈ ds, d < base) :
    Spelled base (ds.map digitChar) ds := by
  induction ds with
  | nil => exact .nil
  | cons d ds ih =>
      apply List.Forall₂.cons
      · exact digitValue?_digitChar hbase (hds d (by simp))
      · exact ih fun e he => hds e (by simp [he])

namespace Spelled

variable {cs rest : List Char} {ds : List Nat}

theorem isDigit_of_mem (h : Spelled base cs ds) : ∀ c ∈ cs, isDigit base c = true := by
  induction h with
  | nil => simp
  | cons hd _ ih =>
      intro c hc
      rcases List.mem_cons.1 hc with rfl | hc
      · simp [isDigit, hd]
      · exact ih c hc

theorem lt_base (h : Spelled base cs ds) : ∀ d ∈ ds, d < base := by
  induction h with
  | nil => simp
  | cons hd _ ih =>
      intro e he
      rcases List.mem_cons.1 he with rfl | he
      · grind [digitValue?]
      · exact ih e he

theorem filterMap_eq (h : Spelled base cs ds) : cs.filterMap (digitValue? base) = ds := by
  induction h with
  | nil => rfl
  | cons hd _ ih => rw [List.filterMap_cons_some hd, ih]

/-- Digits are read up to the first character that is none. -/
theorem span_append (h : Spelled base cs ds) (hrest : StopsDigits base rest) :
    span base (cs ++ rest) = (ds, rest) := by
  induction h with
  | nil =>
      cases rest with
      | nil => rfl
      | cons c rest =>
          have hc : isDigit base c = false := hrest c rfl
          simp [span, hc]
  | cons hd _ ih =>
      simp only [span, Prod.mk.injEq] at ih
      simp [span, isDigit, hd, ih]

theorem span_eq (h : Spelled base cs ds) : span base cs = (ds, []) := by
  simpa using h.span_append (stopsDigits_nil base)

end Spelled

theorem filterMap_digitChar {ds : List Nat} (hds : ∀ d ∈ ds, d < 10) :
    (ds.map digitChar).filterMap (digitValue? 10) = ds :=
  (spelled_digitChars (by decide) hds).filterMap_eq

/-- Every text starts with the digits that are read from it, and goes on with none. -/
theorem exists_spelled (base : Nat) (cs : List Char) :
    ∃ front ds rest, cs = front ++ rest ∧ Spelled base front ds ∧ StopsDigits base rest := by
  induction cs with
  | nil => exact ⟨[], [], [], rfl, .nil, stopsDigits_nil base⟩
  | cons c cs ih =>
      cases hc : digitValue? base c with
      | none => exact ⟨[], [], c :: cs, rfl, .nil, stopsDigits_cons (by simp [isDigit, hc]) cs⟩
      | some d =>
          obtain ⟨front, ds, rest, rfl, hfront, hrest⟩ := ih
          exact ⟨c :: front, d :: ds, rest, rfl, .cons hc hfront, hrest⟩

/-- Written digits are read up to the first character that is no digit. -/
theorem span_digitChars (hbase : base ≤ 36) {ds : List Nat} (hds : ∀ d ∈ ds, d < base)
    {rest : List Char} (hrest : StopsDigits base rest) :
    span base (ds.map digitChar ++ rest) = (ds, rest) :=
  (spelled_digitChars hbase hds).span_append hrest

/-- The digits that write a natural number; zero has one. -/
def shownDigits (base n : Nat) : List Nat := if n = 0 then [0] else digits base n

theorem natChars_eq (base n : Nat) : natChars base n = (shownDigits base n).map digitChar := by
  unfold natChars shownDigits
  split <;> rfl

/-- The numeral of a number in base ten is its usual one. -/
theorem natChars_ten (n : Nat) : natChars 10 n = Nat.toDigits 10 n := by
  have hdigit : ∀ d < 10, digitChar d = Nat.digitChar d := by decide
  induction n using Nat.strongRecOn with
  | ind n ih =>
      rcases Nat.lt_or_ge n 10 with hsmall | hlarge
      · have hone : ∀ d < 10, natChars 10 d = [Nat.digitChar d] := by decide
        rw [hone n hsmall, Nat.toDigits_of_lt_base hsmall]
      · have hfront : natChars 10 (n / 10) = (digits 10 (n / 10)).map digitChar :=
          if_neg (by omega)
        rw [Nat.toDigits_of_base_le (by decide) hlarge, ← ih (n / 10) (by omega), hfront,
          natChars, if_neg (by omega), digits_eq_append (by decide) (by omega), List.map_append,
          List.map_singleton, hdigit _ (Nat.mod_lt n (by decide))]

theorem natText_eq_toString (n : Nat) : natText n = toString n := by
  rw [natText, natChars_ten]
  rfl

theorem shownDigits_ne_nil (hbase : 2 ≤ base) (n : Nat) : shownDigits base n ≠ [] := by
  unfold shownDigits
  split
  · simp
  · exact digits_ne_nil hbase (by omega)

theorem shownDigits_lt (hbase : 2 ≤ base) {n d : Nat} (h : d ∈ shownDigits base n) :
    d < base := by
  unfold shownDigits at h
  split at h
  · simp at h
    omega
  · exact digits_lt hbase h

theorem value_shownDigits (hbase : 2 ≤ base) (n : Nat) : value base (shownDigits base n) = n := by
  unfold shownDigits
  split
  · simp_all [value]
  · exact value_digits hbase n

/-- Digits before and after the point with no zero too many: one digit at least before the point, a
zero in front only as the single digit, and no zero after the point at the end. -/
structure Canonical (base : Nat) (whole fraction : List Nat) : Prop where
  nonempty : whole ≠ []
  whole_lt : ∀ d ∈ whole, d < base
  fraction_lt : ∀ d ∈ fraction, d < base
  leading : whole.head? = some 0 → whole = [0]
  trailing : fraction.getLast? ≠ some 0

/-- A text is a numeral of a natural number: one digit at least, all of them below the base. -/
def Writes (base n : Nat) (cs : List Char) : Prop :=
  ∃ ds, ds ≠ [] ∧ (∀ d ∈ ds, d < base) ∧ value base ds = n ∧ cs = ds.map digitChar

theorem writes_shownDigits {base : Nat} (hbase : 2 ≤ base) (n : Nat) :
    Writes base n ((shownDigits base n).map digitChar) :=
  ⟨_, shownDigits_ne_nil hbase n, fun _ hd => shownDigits_lt hbase hd,
    value_shownDigits hbase n, rfl⟩

end Numeral

end ScriptValues
