import ScriptValues.Decimal.Precision
import ScriptValues.Proofs.CarriedDigits
import ScriptValues.Proofs.DecimalValue

/-!
Rounding decimal digits. Cutting digits off behind the last one kept and rounding by the digit that
follows gives the decimal with so many significant digits that is nearest to the exact value, the
larger of two on a tie.
-/

namespace ScriptValues

theorem roundDiv_up (num den : Nat) :
    roundDiv .up num den = num / den + if den ≤ 2 * (num % den) then 1 else 0 := by
  unfold roundDiv
  grind

/-- A quotient that is rounded with halves going up is less than half a step above the result. -/
theorem lt_roundDiv_up {num den : Nat} (hden : 0 < den) :
    2 * num < 2 * (roundDiv .up num den * den) + den := by
  have hsplit := Nat.div_add_mod' num den
  have hrest := Nat.mod_lt num hden
  rw [roundDiv_up, Nat.add_mul]
  split <;> omega

namespace Decimal

/-- The digit after the last one kept tells on which side of the half way mark the rest lies. -/
theorem roundedUp_eq_roundDiv {count : Nat} {ds : List Nat} (hlen : count < ds.length)
    (hds : ∀ d ∈ ds, d < 10) :
    roundedUp count ds = roundDiv .up (Numeral.value 10 ds) (10 ^ (ds.length - count)) := by
  obtain ⟨next, rest, hdrop⟩ : ∃ next rest, ds.drop count = next :: rest :=
    List.exists_cons_of_length_pos (by rw [List.length_drop]; omega)
  have hrestLen : ds.length - count = rest.length + 1 := by
    rw [← List.length_drop, hdrop, List.length_cons]
  have hcut : ∀ d ∈ next :: rest, d < 10 := fun d hd => hds d (List.mem_of_mem_drop (hdrop ▸ hd))
  have hcutLt := Numeral.value_lt_pow (by decide) hcut
  have hrestLt := Numeral.value_lt_pow (by decide) fun d hd => hcut d (List.mem_cons_of_mem next hd)
  have hvalue := Numeral.value_append 10 (ds.take count) (ds.drop count)
  rw [List.take_append_drop, hdrop, List.length_cons] at hvalue
  have hpow : 0 < 10 ^ (rest.length + 1) := Nat.pow_pos (by decide)
  rw [List.length_cons] at hcutLt
  rw [roundedUp, roundDiv_up, hrestLen, hvalue, hdrop, List.headD_cons, Nat.add_comm (_ * _),
    Nat.add_mul_div_right _ _ hpow, Nat.div_eq_of_lt hcutLt, Nat.zero_add,
    Nat.add_mul_mod_self_right, Nat.mod_eq_of_lt hcutLt]
  have hhalf : 10 ^ (rest.length + 1) ≤ 2 * Numeral.value 10 (next :: rest) ↔ 5 ≤ next := by
    rw [Nat.pow_succ, Numeral.value_cons]
    constructor
    · intro hle
      by_contra hlt
      have := Nat.mul_le_mul_right (10 ^ rest.length) (show next ≤ 4 by omega)
      omega
    · intro hle
      have := Nat.mul_le_mul_right (10 ^ rest.length) hle
      omega
  simp only [hhalf]

/-- Zeros are rounded to zeros. -/
theorem roundTo_zeros {count : Nat} (hcount : 0 < count) (zeros : Nat) :
    roundTo count (List.replicate zeros 0) = (List.replicate count 0, false) := by
  have hlen : (List.replicate zeros 0).length = zeros := List.length_replicate
  rcases Nat.lt_or_ge count zeros with hlong | hshort
  · have hlt := Numeral.zeros_lt (by decide : 2 ≤ 10) zeros
    rw [← hlen] at hlong
    have hzero : roundedUp count (List.replicate zeros 0) = 0 := by
      rw [roundedUp_eq_roundDiv hlong hlt, Numeral.value_replicate_zero,
        roundDiv_of_mod_eq_zero .up (Nat.pow_pos (by decide)) (Nat.zero_mod _), Nat.zero_div]
    rw [roundTo_of_lt hcount hlong hlt, hzero, if_neg (Nat.pow_pos (by decide)).ne,
      Numeral.padded_digits_zero]
  · rw [roundTo, hlen, if_pos hshort, List.replicate_append_replicate, Nat.add_sub_of_le hshort]

/-- The first of so many significant digits is not zero. -/
def HasDigits (count n : Nat) : Prop := 10 ^ (count - 1) ≤ n ∧ n < 10 ^ count

/-- The number with the significant digits of `n`, the first of `count` at `10 ^ e`. -/
def scaled (count n : Nat) (e : Int) : ℚ := n * 10 ^ (e - count + 1)

/-- Of the numbers with `count` significant digits, that of `n` and `e` is nearest to `v`, and the
larger one of two that are. -/
structure IsRounding (count : Nat) (v : ℚ) (n : Nat) (e : Int) : Prop where
  hasDigits : HasDigits count n
  nearest : ∀ n' e', HasDigits count n' → |scaled count n e - v| ≤ |scaled count n' e' - v|
  larger : ∀ n' e', HasDigits count n' → |scaled count n e - v| = |scaled count n' e' - v| →
    scaled count n' e' ≤ scaled count n e

variable {count n : Nat} {e : Int} {v : ℚ}

theorem ten_zpow_pos (z : Int) : (0 : ℚ) < 10 ^ z := zpow_pos (by norm_num) z

theorem cast_pow_mul_zpow {k : Nat} {y z : Int} (h : k + y = z) :
    ((10 ^ k : Nat) : ℚ) * 10 ^ y = 10 ^ z := by
  rw [Nat.cast_pow, ← zpow_natCast, Nat.cast_ofNat, ← zpow_add₀ (by norm_num), h]

/-- The first digit stands at `10 ^ e`. -/
theorem scaled_bounds (hcount : 0 < count) (hn : HasDigits count n) (e : Int) :
    10 ^ e ≤ scaled count n e ∧ scaled count n e < 10 ^ (e + 1) := by
  have hstep := ten_zpow_pos (e - count + 1)
  have hleast : ((10 ^ (count - 1) : Nat) : ℚ) * 10 ^ (e - count + 1) = 10 ^ e :=
    cast_pow_mul_zpow (by omega)
  have hmost : ((10 ^ count : Nat) : ℚ) * 10 ^ (e - count + 1) = 10 ^ (e + 1) :=
    cast_pow_mul_zpow (by omega)
  rw [← hleast, ← hmost, scaled]
  exact ⟨mul_le_mul_of_nonneg_right (Nat.cast_le.2 hn.1) hstep.le,
    mul_lt_mul_of_pos_right (Nat.cast_lt.2 hn.2) hstep⟩

/-- Significant digits and exponent are determined by the number. -/
theorem scaled_inj (hcount : 0 < count) {n' : Nat} {e' : Int} (hn : HasDigits count n)
    (hn' : HasDigits count n') (h : scaled count n e = scaled count n' e') : n = n' ∧ e = e' := by
  obtain ⟨hleast, hmost⟩ := scaled_bounds hcount hn e
  obtain ⟨hleast', hmost'⟩ := scaled_bounds hcount hn' e'
  have hmono := @zpow_lt_zpow_iff_right₀ ℚ _ _ _ 10 _
  have hle : e < e' + 1 := (hmono (by norm_num)).1 (by rw [← h] at hmost'; linarith)
  have hge : e' < e + 1 := (hmono (by norm_num)).1 (by rw [← h] at hleast'; linarith)
  obtain rfl : e = e' := by omega
  have hstep := ten_zpow_pos (e - count + 1)
  exact ⟨Nat.cast_injective (mul_right_cancel₀ hstep.ne' h), rfl⟩

/-- There is one rounding at most. -/
theorem IsRounding.unique (hcount : 0 < count) {n' : Nat} {e' : Int}
    (h : IsRounding count v n e) (h' : IsRounding count v n' e') : n = n' ∧ e = e' := by
  have hle := h.nearest n' e' h'.hasDigits
  have hge := h'.nearest n e h.hasDigits
  have hlarger := h.larger n' e' h'.hasDigits (le_antisymm hle hge)
  have hlarger' := h'.larger n e h.hasDigits (le_antisymm hge hle)
  exact scaled_inj hcount h.hasDigits h'.hasDigits (le_antisymm hlarger' hlarger)

/-- A multiple of a step that is at most half a step above a number, and less than half a step
below it, is the nearest multiple, and the larger one of two. -/
theorem nearest_multiple {step : ℚ} {k : Nat} (hlow : 2 * (k * step) ≤ 2 * v + step)
    (hhigh : 2 * v < 2 * (k * step) + step) (j : Nat) :
    |k * step - v| ≤ |j * step - v| ∧
      (|k * step - v| = |j * step - v| → j * step ≤ k * step) := by
  have hstep : 0 < step := by linarith
  have hhalf : |k * step - v| ≤ step / 2 := abs_le.2 ⟨by linarith, by linarith⟩
  have hcast : ∀ i l : Nat, i < l → (i : ℚ) * step + step ≤ l * step := by
    intro i l hlt
    have hle : ((i + 1 : Nat) : ℚ) * step ≤ l * step :=
      mul_le_mul_of_nonneg_right (Nat.cast_le.2 hlt) hstep.le
    rwa [Nat.cast_add, Nat.cast_one, add_mul, one_mul] at hle
  rcases Nat.lt_trichotomy j k with hlt | rfl | hgt
  · have hbelow := hcast j k hlt
    have hfar := neg_le_abs (j * step - v)
    exact ⟨by linarith, fun _ => by linarith⟩
  · exact ⟨le_refl _, fun _ => le_refl _⟩
  · have habove := hcast k j hgt
    have hfar := le_abs_self (j * step - v)
    exact ⟨by linarith, fun htie => by linarith⟩

/-- The numbers from `10 ^ e` on that are nearest to `k` steps of the last of `count` digits: at
most half a step below them, and less than half a step above them. -/
structure NearSteps (count : Nat) (e : Int) (k : Nat) (v : ℚ) : Prop where
  least : 10 ^ e ≤ v
  low : 2 * (k * 10 ^ (e - count + 1)) ≤ 2 * v + 10 ^ (e - count + 1)
  high : 2 * v < 2 * (k * 10 ^ (e - count + 1)) + 10 ^ (e - count + 1)

/-- Rounding to a multiple of the last digit's place is rounding to significant digits: what starts
at a lower place lies further down than the least multiple with enough digits. -/
theorem NearSteps.isRounding {k : Nat} (h : NearSteps count e k v) (hcount : 0 < count) {e' : Int}
    (hn : HasDigits count n) (hscaled : scaled count n e' = k * 10 ^ (e - count + 1)) :
    IsRounding count v n e' := by
  have hnear := nearest_multiple h.low h.high
  have hleast := h.least
  rw [← hscaled] at hnear
  have hall : ∀ n₂ e₂, HasDigits count n₂ →
      |scaled count n e' - v| ≤ |scaled count n₂ e₂ - v| ∧
        (|scaled count n e' - v| = |scaled count n₂ e₂ - v| →
          scaled count n₂ e₂ ≤ scaled count n e') := by
    intro n₂ e₂ hn₂
    rcases Int.lt_or_le e₂ e with hlt | hle
    · have hfirst := hnear (10 ^ (count - 1))
      have hbelow : scaled count n₂ e₂ < 10 ^ e :=
        lt_of_lt_of_le (scaled_bounds hcount hn₂ e₂).2
          (zpow_le_zpow_right₀ (by norm_num) (by omega))
      have hfar := neg_le_abs (scaled count n₂ e₂ - v)
      rw [cast_pow_mul_zpow (z := e) (by omega),
        abs_of_nonpos (by linarith : (10 : ℚ) ^ e - v ≤ 0)] at hfirst
      exact ⟨by linarith, fun htie => by linarith⟩
    · have hmultiple : scaled count n₂ e₂ =
          ((n₂ * 10 ^ (e₂ - e).toNat : Nat) : ℚ) * 10 ^ (e - count + 1) := by
        rw [Nat.cast_mul, mul_assoc, cast_pow_mul_zpow (z := e₂ - count + 1) (by omega), scaled]
      rw [hmultiple]
      exact hnear _
  exact ⟨hn, fun n₂ e₂ hn₂ => (hall n₂ e₂ hn₂).1, fun n₂ e₂ hn₂ => (hall n₂ e₂ hn₂).2⟩

/-- The number that a decimal stands for. -/
def number (d : Decimal) : ℚ := Numeral.value 10 d.digits * 10 ^ d.place

/-- A decimal that starts with a digit other than zero. -/
structure Normalized (d : Decimal) : Prop extends WellFormed d where
  leading : 10 ^ (d.digits.length - 1) ≤ Numeral.value 10 d.digits

/-- The digits of a number, wherever the first of them stands. -/
theorem normalized_digits {steps : Nat} (hsteps : 0 < steps) (e : Int) :
    (⟨Numeral.digits 10 steps, e⟩ : Decimal).Normalized ∧
      (⟨Numeral.digits 10 steps, e⟩ : Decimal).number =
        steps * 10 ^ (e + 1 - (Numeral.digits 10 steps).length) := by
  have hvalue := Numeral.value_digits (by decide : 2 ≤ 10) steps
  refine ⟨⟨⟨Numeral.digits_ne_nil (by decide) hsteps, ?_⟩, ?_⟩, ?_⟩
  · exact fun d hd => Numeral.digits_lt (by decide) hd
  · rw [hvalue]
    exact Numeral.pow_length_digits_le (by decide) hsteps
  · rw [number, place, hvalue]

/-- The digits that rounding keeps, as a number: those of the decimal filled up with zeros, or
rounded. -/
def kept (count : Nat) (d : Decimal) : Nat :=
  if d.digits.length ≤ count then
    Numeral.value 10 d.digits * 10 ^ (count - d.digits.length)
  else roundedUp count d.digits

theorem kept_of_lt {d : Decimal} (hd : d.WellFormed) (hlong : count < d.digits.length) :
    kept count d =
      roundDiv .up (Numeral.value 10 d.digits) (10 ^ (d.digits.length - count)) := by
  rw [kept, if_neg (by omega), roundedUp_eq_roundDiv hlong hd.lt_ten]

/-- What is kept is at most half a step of the last digit above the number, and less than half a
step below it. -/
theorem kept_near {d : Decimal} (hd : d.WellFormed) (count : Nat) :
    2 * (kept count d * 10 ^ (d.exponent - count + 1)) ≤
        2 * d.number + 10 ^ (d.exponent - count + 1) ∧
      2 * d.number < 2 * (kept count d * 10 ^ (d.exponent - count + 1)) +
        10 ^ (d.exponent - count + 1) := by
  rcases Nat.lt_or_ge count d.digits.length with hlong | hshort
  · have hden : 0 < 10 ^ (d.digits.length - count) := Nat.pow_pos (by decide)
    have hplace := ten_zpow_pos d.place
    have hscale := cast_pow_mul_zpow (k := d.digits.length - count) (y := d.place)
      (z := d.exponent - count + 1) (by rw [place]; omega)
    rw [number, kept_of_lt hd hlong, ← hscale]
    have hlow := (@roundDiv_near .up (Numeral.value 10 d.digits) _ hden).1
    have hhigh := @lt_roundDiv_up (Numeral.value 10 d.digits) _ hden
    generalize roundDiv .up _ _ = rounded at *
    generalize 10 ^ (d.digits.length - count) = den at *
    have hlow' : (2 * (rounded * den) : ℚ) ≤ 2 * Numeral.value 10 d.digits + den := by
      exact_mod_cast hlow
    have hhigh' : (2 * Numeral.value 10 d.digits : ℚ) < 2 * (rounded * den) + den := by
      exact_mod_cast hhigh
    constructor
    · calc
        2 * (rounded * (den * 10 ^ d.place)) = 2 * (rounded * den) * (10 : ℚ) ^ d.place := by ring
        _ ≤ (2 * Numeral.value 10 d.digits + den) * 10 ^ d.place :=
          mul_le_mul_of_nonneg_right hlow' hplace.le
        _ = 2 * (Numeral.value 10 d.digits * 10 ^ d.place) + den * 10 ^ d.place := by ring
    · calc
        2 * (Numeral.value 10 d.digits * (10 : ℚ) ^ d.place)
          = 2 * Numeral.value 10 d.digits * 10 ^ d.place := by ring
        _ < (2 * (rounded * den) + den) * 10 ^ d.place := mul_lt_mul_of_pos_right hhigh' hplace
        _ = 2 * (rounded * (den * 10 ^ d.place)) + den * 10 ^ d.place := by ring
  · have hexact : (kept count d : ℚ) * 10 ^ (d.exponent - count + 1) = d.number := by
      rw [kept, if_pos hshort, Nat.cast_mul, mul_assoc, number]
      congr 1
      apply cast_pow_mul_zpow
      rw [place]
      omega
    have hstep := ten_zpow_pos (d.exponent - count + 1)
    rw [hexact]
    exact ⟨by linarith, by linarith⟩

theorem value_lt_pow_length {d : Decimal} (hd : d.WellFormed) :
    Numeral.value 10 d.digits < 10 ^ d.digits.length :=
  Numeral.value_lt_pow (by decide) hd.lt_ten

/-- The first digit of a decimal stands at its exponent. -/
theorem Normalized.number_bounds {d : Decimal} (hd : d.Normalized) :
    10 ^ d.exponent ≤ d.number ∧ d.number < 10 ^ (d.exponent + 1) := by
  have hlen := List.length_pos_iff.2 hd.nonempty
  have hplace := ten_zpow_pos d.place
  rw [number, ← cast_pow_mul_zpow (k := d.digits.length - 1) (y := d.place)
      (by rw [place]; omega), ← cast_pow_mul_zpow (k := d.digits.length) (y := d.place)
      (z := d.exponent + 1) (by rw [place]; omega)]
  exact ⟨mul_le_mul_of_nonneg_right (Nat.cast_le.2 hd.leading) hplace.le,
    mul_lt_mul_of_pos_right (Nat.cast_lt.2 (value_lt_pow_length hd.toWellFormed)) hplace⟩

/-- What is kept has the digits asked for, or carries into one more. -/
theorem kept_bounds {d : Decimal} (hd : d.Normalized) (hcount : 0 < count) :
    10 ^ (count - 1) ≤ kept count d ∧ kept count d ≤ 10 ^ count := by
  have hlen := List.length_pos_iff.2 hd.nonempty
  have hleast := hd.leading
  have hmost := value_lt_pow_length hd.toWellFormed
  rcases Nat.lt_or_ge count d.digits.length with hlong | hshort
  · have hden : 0 < 10 ^ (d.digits.length - count) := Nat.pow_pos (by decide)
    have hlow := div_le_roundDiv .up (Numeral.value 10 d.digits) (10 ^ (d.digits.length - count))
    have hhigh := roundDiv_le .up (Numeral.value 10 d.digits) (10 ^ (d.digits.length - count))
    have hquotLow : 10 ^ (count - 1) ≤
        Numeral.value 10 d.digits / 10 ^ (d.digits.length - count) := by
      rw [Nat.le_div_iff_mul_le hden, ← Nat.pow_add]
      rwa [show count - 1 + (d.digits.length - count) = d.digits.length - 1 by omega]
    have hquotHigh : Numeral.value 10 d.digits / 10 ^ (d.digits.length - count) < 10 ^ count := by
      rw [Nat.div_lt_iff_lt_mul hden, ← Nat.pow_add]
      rwa [show count + (d.digits.length - count) = d.digits.length by omega]
    rw [kept_of_lt hd.toWellFormed hlong]
    omega
  · have hzeros : 0 < 10 ^ (count - d.digits.length) := Nat.pow_pos (by decide)
    have hlow := Nat.mul_le_mul_right (10 ^ (count - d.digits.length)) hleast
    have hhigh := Nat.mul_lt_mul_of_pos_right hmost hzeros
    rw [← Nat.pow_add, show d.digits.length - 1 + (count - d.digits.length) = count - 1 by omega]
      at hlow
    rw [← Nat.pow_add, show d.digits.length + (count - d.digits.length) = count by omega] at hhigh
    rw [kept, if_pos hshort]
    exact ⟨hlow, hhigh.le⟩

/-- Rounding leaves the digits that are kept, or carries. -/
theorem roundTo_digits {d : Decimal} (hd : d.WellFormed) (hcount : 0 < count) :
    roundTo count d.digits =
      if kept count d = 10 ^ count then
        (Numeral.padded count (Numeral.digits 10 (10 ^ (count - 1))), true)
      else (Numeral.padded count (Numeral.digits 10 (kept count d)), false) := by
  rcases Nat.lt_or_ge count d.digits.length with hlong | hshort
  · rw [roundTo_of_lt hcount hlong hd.lt_ten, kept, if_neg (by omega : ¬ d.digits.length ≤ count)]
  · have hlt : ∀ digit ∈ d.digits ++ List.replicate (count - d.digits.length) 0, digit < 10 :=
      List.forall_mem_append.2 ⟨hd.lt_ten, Numeral.zeros_lt (by decide) _⟩
    have hdigits := Numeral.padded_digits_value (by decide) hlt
    have hmost := Numeral.value_lt_pow (by decide) hlt
    rw [List.length_append, List.length_replicate, Nat.add_sub_of_le hshort,
      Numeral.value_append_zeros] at hdigits hmost
    rw [roundTo, if_pos hshort, kept, if_pos hshort, if_neg hmost.ne, hdigits]

/-- Rounding a decimal to significant digits gives the nearest number that has so many. It is the
rounding of all numbers that are nearest to the same number of steps. -/
theorem exists_nearSteps {d : Decimal} (hd : d.Normalized) (hcount : 0 < count) :
    ∃ k n e, NearSteps count d.exponent k d.number ∧
      (∀ v, NearSteps count d.exponent k v → IsRounding count v n e) ∧
      Double.roundDecimal count d = ⟨Numeral.padded count (Numeral.digits 10 n), e⟩ := by
  have hleast := hd.number_bounds.1
  obtain ⟨hlow, hhigh⟩ := kept_near hd.toWellFormed count
  obtain ⟨hkeptLeast, hkeptMost⟩ := kept_bounds hd hcount
  have hround := roundTo_digits hd.toWellFormed hcount
  by_cases hcarry : kept count d = 10 ^ count
  · rw [if_pos hcarry] at hround
    refine ⟨kept count d, 10 ^ (count - 1), d.exponent + 1, ⟨hleast, hlow, hhigh⟩,
      fun v hv => ?_, ?_⟩
    · refine hv.isRounding hcount ⟨Nat.le_refl _, Nat.pow_lt_pow_right (by decide) (by omega)⟩ ?_
      rw [hcarry, scaled, cast_pow_mul_zpow rfl, cast_pow_mul_zpow rfl]
      congr 1
      omega
    · rw [Double.roundDecimal, hround]
      rfl
  · rw [if_neg hcarry] at hround
    refine ⟨kept count d, kept count d, d.exponent, ⟨hleast, hlow, hhigh⟩, fun v hv => ?_, ?_⟩
    · exact hv.isRounding hcount ⟨hkeptLeast, by omega⟩ rfl
    · rw [Double.roundDecimal, hround]
      rfl

end Decimal

end ScriptValues
