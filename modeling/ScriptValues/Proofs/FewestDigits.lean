import ScriptValues.Proofs.ExponentialText
import ScriptValues.Proofs.NearestDouble

/-!
The fewest digits. The numbers that are rounded to a magnitude have no gap among them, so if one of
them lies on a grid of decimals, so does one of the two grid points next to the magnitude. These two
are what the search for the shortest digits looks at, for one number of digits after the other. No
decimal with fewer digits than it finds is read as the magnitude, and none with as many is nearer.
-/

namespace ScriptValues

namespace Magnitude

open Double Decimal

variable {m : Magnitude} {v : ℚ}

/-- A number is rounded to a magnitude: it lies at most half way to the next magnitude on either
side, and half way only when the significand is even. -/
structure Attracts (m : Magnitude) (v : ℚ) : Prop where
  low : 2 * (m.units : ℚ) < 2 * (v * one) + gap (m.units - 1) ∨
    2 * (m.units : ℚ) = 2 * (v * one) + gap (m.units - 1) ∧ m.units / gap m.units % 2 = 0
  high : 2 * (v * one) < 2 * m.units + gap m.units ∨
    2 * (v * one) = 2 * m.units + gap m.units ∧ m.units / gap m.units % 2 = 0

theorem attracts_iff {num den : Nat} (hden : 0 < den) (hv : v * one * den = num) :
    m.Attracts v ↔ WithinHalf num den m.units := by
  rw [withinHalf_iff hden hv]
  exact ⟨fun h => ⟨h.low, h.high⟩, fun h => ⟨h.1, h.2⟩⟩

theorem value_mul_one (m : Magnitude) : m.value * one = m.units :=
  div_mul_cancel₀ _ (Nat.cast_ne_zero.2 one_pos.ne')

/-- A magnitude is rounded to itself. -/
theorem attracts_value (m : Magnitude) : m.Attracts m.value := by
  have hbelow : (0 : ℚ) < gap (m.units - 1) := Nat.cast_pos.2 (gap_pos _)
  have habove : (0 : ℚ) < gap m.units := Nat.cast_pos.2 (gap_pos _)
  constructor
  · rw [value_mul_one]
    exact .inl (by linarith)
  · rw [value_mul_one]
    exact .inl (by linarith)

/-- What lies between two numbers that are rounded to a magnitude is rounded to it as well. -/
theorem Attracts.between {a b : ℚ} (ha : m.Attracts a) (hb : m.Attracts b) (hav : a ≤ v)
    (hvb : v ≤ b) : m.Attracts v := by
  have hone : (0 : ℚ) ≤ one := Nat.cast_nonneg one
  have hlow := mul_le_mul_of_nonneg_right hav hone
  have hhigh := mul_le_mul_of_nonneg_right hvb hone
  constructor
  · rcases ha.low with hlt | ⟨heq, heven⟩
    · exact .inl (by linarith)
    · rcases hlow.lt_or_eq with hless | hsame
      · exact .inl (by linarith)
      · exact .inr ⟨by linarith, heven⟩
  · rcases hb.high with hlt | ⟨heq, heven⟩
    · exact .inl (by linarith)
    · rcases hhigh.lt_or_eq with hless | hsame
      · exact .inl (by linarith)
      · exact .inr ⟨by linarith, heven⟩

/-- Steps of a place as a quotient of whole numbers. -/
theorem steps_mul_one (steps : Nat) (place : Int) :
    (steps : ℚ) * 10 ^ place * one * (10 ^ (-place).toNat : Nat) =
      (steps * 10 ^ place.toNat * one : Nat) := by
  have hplace : ((10 ^ (-place).toNat : Nat) : ℚ) * 10 ^ place = (10 ^ place.toNat : Nat) := by
    rw [cast_pow_mul_zpow (z := (place.toNat : Int)) (by omega), zpow_natCast, Nat.cast_pow,
      Nat.cast_ofNat]
  rw [Nat.cast_mul, Nat.cast_mul, ← hplace]
  ring

/-- A decimal is read as a magnitude, with either sign, when its number is rounded to it. -/
theorem toDouble_eq_iff {d : Decimal} (negative : Bool) :
    d.toDouble negative = .finite negative m ↔ m.Attracts d.number := by
  have hden : 0 < 10 ^ (-d.place).toNat := Nat.pow_pos (by decide)
  rw [number, attracts_iff hden (steps_mul_one _ _), ← nearestUnits_eq_iff hden m.onGrid, toDouble,
    ofDecimal_eq_nearest]
  constructor
  · intro h
    rw [nearest] at h
    split at h
    · injection h with _ hm
      exact congrArg units hm
    · cases h
  · exact nearest_eq_finite negative

/-- The interval that the search tests decimals for. -/
theorem readsBack_iff (hm : 0 < m.units) {steps : Nat} {place : Int} :
    m.readsBack steps place = true ↔ m.Attracts (steps * 10 ^ place) := by
  have hden : 0 < 10 ^ (-place).toNat := Nat.pow_pos (by decide)
  rw [attracts_iff hden (steps_mul_one steps place)]
  have hpoint : 2 * (steps * 10 ^ place.toNat * one) = 2 * steps * placeDen place := by
    rw [placeDen]
    ring
  have hgap := Nat.mul_le_mul_right (10 ^ (-place).toNat) (gap_pred_le hm m.onGrid)
  have hlow : (2 * m.units - gap (m.units - 1)) * 10 ^ (-place).toNat =
      2 * (m.units * 10 ^ (-place).toNat) - gap (m.units - 1) * 10 ^ (-place).toNat := by
    rw [Nat.sub_mul, Nat.mul_assoc]
  have hhigh : (2 * m.units + gap m.units) * 10 ^ (-place).toNat =
      2 * (m.units * 10 ^ (-place).toNat) + gap m.units * 10 ^ (-place).toNat := by
    rw [Nat.add_mul, Nat.mul_assoc]
  have heven : m.isEven = true ↔ m.units / gap m.units % 2 = 0 := by
    rw [isEven, beq_iff_eq, significand, shift, gap]
  unfold readsBack
  simp only [hlow, hhigh, ← hpoint]
  split
  · next h =>
    have hparity := heven.1 h
    simp only [Bool.and_eq_true, decide_eq_true_eq]
    constructor
    · intro hboth
      exact ⟨by omega, by omega⟩
    · rintro ⟨hbelow, habove⟩
      omega
  · next h =>
    have hparity := mt heven.2 h
    simp only [Bool.and_eq_true, decide_eq_true_eq]
    constructor
    · intro hboth
      exact ⟨.inl (by omega), .inl (by omega)⟩
    · rintro ⟨hbelow, habove⟩
      omega

/-- A magnitude as a quotient of steps of a place. -/
theorem value_mul_placeDen (m : Magnitude) (place : Int) :
    m.value * placeDen place = m.placeNum place * 10 ^ place := by
  have hplace : ((10 ^ (-place).toNat : Nat) : ℚ) * 10 ^ place = (10 ^ place.toNat : Nat) := by
    rw [cast_pow_mul_zpow (z := (place.toNat : Int)) (by omega), zpow_natCast, Nat.cast_pow,
      Nat.cast_ofNat]
  rw [placeDen, placeNum, Nat.cast_mul, Nat.cast_mul, mul_assoc, hplace, ← mul_assoc,
    value_mul_one]

theorem steps_le_value_iff (m : Magnitude) (place : Int) (k : Nat) :
    k * 10 ^ place ≤ m.value ↔ k * placeDen place ≤ m.placeNum place := by
  have hstep := ten_zpow_pos place
  have hden : (0 : ℚ) < placeDen place := Nat.cast_pos.2 (placeDen_pos place)
  rw [← mul_le_mul_iff_of_pos_right hden, value_mul_placeDen, mul_right_comm,
    mul_le_mul_iff_of_pos_right hstep]
  exact_mod_cast Iff.rfl

/-- The quotient is rounded to the nearest step. -/
theorem nearer_near (m : Magnitude) (tie : Tie) (place : Int) :
    |roundDiv tie (m.placeNum place) (placeDen place) * 10 ^ place - m.value| ≤
      (10 ^ place : ℚ) / 2 := by
  have hden : (0 : ℚ) < placeDen place := Nat.cast_pos.2 (placeDen_pos place)
  have hstep := ten_zpow_pos place
  have hnum := m.value_mul_placeDen place
  obtain ⟨hlow, hhigh⟩ := @roundDiv_near tie (m.placeNum place) _ (placeDen_pos place)
  generalize roundDiv tie _ _ = nearer at *
  generalize m.placeNum place = num at *
  generalize placeDen place = den at *
  generalize (10 : ℚ) ^ place = step at *
  have hlow' : (2 * (nearer * den) : ℚ) ≤ 2 * num + den := by exact_mod_cast hlow
  have hhigh' : (2 * num : ℚ) ≤ 2 * (nearer * den) + den := by exact_mod_cast hhigh
  have hbelow : 2 * m.value * den ≤ (2 * (nearer * step) + step) * den := by
    have := mul_le_mul_of_nonneg_right hhigh' hstep.le
    linarith
  have habove : 2 * (nearer * step) * den ≤ (2 * m.value + step) * den := by
    have := mul_le_mul_of_nonneg_right hlow' hstep.le
    linarith
  have hleast := le_of_mul_le_mul_right hbelow hden
  have hmost := le_of_mul_le_mul_right habove hden
  exact abs_le.2 ⟨by linarith, by linarith⟩

/-- What is at most half a step away is a nearest multiple of the step. -/
theorem near_le_of_half {step : ℚ} {k : Nat} (h : |k * step - v| ≤ step / 2) (j : Nat) :
    |k * step - v| ≤ |j * step - v| := by
  have hstep : 0 ≤ step := by
    have := abs_nonneg (k * step - v)
    linarith
  by_cases hsame : k = j
  · rw [hsame]
  · have hone : (1 : ℚ) ≤ |(k : ℚ) - j| := by
      have hint : (1 : Int) ≤ |(k : Int) - j| := Int.one_le_abs (by omega)
      exact_mod_cast hint
    have hapart : step ≤ |k * step - j * step| := by
      rw [← sub_mul, abs_mul, abs_of_nonneg hstep]
      exact le_mul_of_one_le_left hstep hone
    have hsum := abs_sub_le (k * step) v (j * step)
    rw [abs_sub_comm v] at hsum
    linarith

/-- The steps below a magnitude and the next step above it. -/
theorem value_between (m : Magnitude) (place : Int) :
    (m.placeNum place / placeDen place : Nat) * 10 ^ place ≤ m.value ∧
      m.value < (m.placeNum place / placeDen place + 1 : Nat) * 10 ^ place := by
  constructor
  · exact (m.steps_le_value_iff place _).2 (Nat.div_mul_le_self _ _)
  · rw [← not_le, steps_le_value_iff, not_le, Nat.succ_mul]
    exact Nat.lt_div_mul_add (placeDen_pos place)

variable {count j : Nat}

/-- Of the multiples of a step that are rounded to a magnitude none is nearer than the one next to
the magnitude on the same side, which is rounded to it too. -/
theorem Attracts.neighbour {place : Int} (h : m.Attracts (j * 10 ^ place)) {below : Nat}
    (hbelow : m.placeNum place / placeDen place = below) :
    m.Attracts (below * 10 ^ place) ∧ |below * 10 ^ place - m.value| ≤ |j * 10 ^ place - m.value| ∨
      m.Attracts ((below + 1 : Nat) * 10 ^ place) ∧
        |(below + 1 : Nat) * 10 ^ place - m.value| ≤ |j * 10 ^ place - m.value| := by
  obtain ⟨hle, hlt⟩ := m.value_between place
  rw [hbelow] at hle hlt
  have hmono : ∀ {a b : Nat}, a ≤ b → (a : ℚ) * 10 ^ place ≤ b * 10 ^ place := fun hab =>
    mul_le_mul_of_nonneg_right (Nat.cast_le.2 hab) (ten_zpow_pos place).le
  rcases Nat.lt_or_ge below j with habove | hunder
  · have hnext := hmono habove
    refine .inr ⟨m.attracts_value.between h hlt.le hnext, ?_⟩
    rw [abs_of_nonneg (by linarith)]
    exact le_trans (by linarith) (le_abs_self _)
  · have hprev := hmono hunder
    refine .inl ⟨h.between m.attracts_value hprev hle, ?_⟩
    rw [abs_of_nonpos (by linarith)]
    exact le_trans (by linarith) (neg_le_abs _)

/-- The search accepts every number of digits with which something is rounded to the magnitude. -/
theorem shortestWith?_isSome (hm : 0 < m.units) (tie : Tie)
    (h : m.Attracts (j * 10 ^ (m.decimalExponent - count + 1))) :
    (m.shortestWith? tie count).isSome := by
  simp only [shortestWith?]
  generalize m.decimalExponent - count + 1 = place at *
  have hleast := div_le_roundDiv tie (m.placeNum place) (placeDen place)
  have hmost := roundDiv_le tie (m.placeNum place) (placeDen place)
  have hnear := h.neighbour rfl
  simp only [← readsBack_iff hm] at hnear
  grind

/-- What the search accepts is as near as anything that is rounded to the magnitude. -/
theorem shortestWith?_nearest (hm : 0 < m.units) {tie : Tie} {d : Decimal} {place : Int}
    (hplace : m.decimalExponent - count + 1 = place) (h : m.shortestWith? tie count = some d) :
    ∃ steps, d = .ofSteps steps place ∧ m.Attracts (steps * 10 ^ place) ∧
      steps ≤ m.placeNum place / placeDen place + 1 ∧
      ∀ j : Nat, m.Attracts (j * 10 ^ place) →
        |steps * 10 ^ place - m.value| ≤ |j * 10 ^ place - m.value| := by
  have hleast := div_le_roundDiv tie (m.placeNum place) (placeDen place)
  have hmost := roundDiv_le tie (m.placeNum place) (placeDen place)
  have hhalf := near_le_of_half (m.nearer_near tie place)
  simp only [shortestWith?, hplace] at h
  generalize hbelow : m.placeNum place / placeDen place = below at *
  generalize roundDiv tie (m.placeNum place) (placeDen place) = nearer at *
  by_cases hnearer : m.readsBack nearer place = true
  · rw [if_pos hnearer] at h
    exact ⟨nearer, (Option.some.inj h).symm, (readsBack_iff hm).1 hnearer, hmost,
      fun j _ => hhalf j⟩
  · rw [if_neg hnearer] at h
    obtain ⟨hfarther, hd⟩ := Option.ite_none_right_eq_some.1 h
    refine ⟨_, (Option.some.inj hd).symm, (readsBack_iff hm).1 hfarther, ?_, fun j hj => ?_⟩
    · split <;> omega
    · -- the nearer neighbour is not rounded to the magnitude, so the other one is on this side
      rw [readsBack_iff hm] at hnearer
      rcases hj.neighbour hbelow with ⟨hattracts, hdist⟩ | ⟨hattracts, hdist⟩
      · have hne : nearer ≠ below := fun heq => hnearer (heq ▸ hattracts)
        rwa [if_neg hne]
      · have heq : nearer = below := by
          by_contra hne
          have hnext : nearer = below + 1 := by omega
          exact hnearer (hnext ▸ hattracts)
        rwa [if_pos heq]

end Magnitude

namespace Decimal

/-- A decimal without a fraction is a whole number. -/
theorem number_of_place {d : Decimal} {places : Nat} (h : d.place = places) :
    d.number = (Numeral.value 10 d.digits * 10 ^ places : Nat) := by
  rw [number, h, zpow_natCast, Nat.cast_mul, Nat.cast_pow, Nat.cast_ofNat]

/-- The digit zero is read as zero. -/
theorem toDouble_zero : (⟨[0], 0⟩ : Decimal).WellFormed ∧
    ∀ negative, (⟨[0], 0⟩ : Decimal).toDouble negative = .finite negative .zero := by
  refine ⟨⟨by simp, by simp⟩, fun negative => ?_⟩
  simp [toDouble, Numeral.value]

theorem number_ofSteps (steps : Nat) (place : Int) :
    (ofSteps steps place).number = steps * 10 ^ place := by
  obtain ⟨zeros, hsteps, hplace⟩ := ofSteps_zeros steps place
  generalize ofSteps steps place = d at *
  rw [number, hplace, ← hsteps, Nat.cast_mul, mul_assoc, cast_pow_mul_zpow (Int.add_comm _ _)]

theorem normalized_ofSteps {steps : Nat} (hsteps : 0 < steps) (place : Int) :
    (ofSteps steps place).Normalized := by
  have hwell := wellFormed_ofSteps hsteps place
  refine ⟨hwell, ?_⟩
  obtain ⟨zeros, hdigits, -⟩ := digits_ofSteps steps place
  have hleast := Numeral.pow_length_digits_le (by decide : 2 ≤ 10) hsteps
  have hvalue := Numeral.value_digits (by decide : 2 ≤ 10) steps
  have hnonempty := List.length_pos_iff.2 hwell.nonempty
  generalize ofSteps steps place = d at *
  rw [hdigits, Numeral.value_append_zeros] at hvalue
  rw [hdigits, ← hvalue, List.length_append, List.length_replicate,
    Nat.sub_add_comm hnonempty, Nat.pow_add] at hleast
  exact Nat.le_of_mul_le_mul_right hleast (Nat.pow_pos (by decide))

/-- Up to a power of ten there are no more digits than its exponent tells: the power itself has
only one, without the zeros at its end. -/
theorem length_ofSteps_le {steps count : Nat} (hcount : 1 ≤ count) (h : steps ≤ 10 ^ count)
    (place : Int) : (ofSteps steps place).digits.length ≤ count := by
  obtain ⟨zeros, hdigits, -⟩ := digits_ofSteps steps place
  rcases h.lt_or_eq with hlt | rfl
  · have hlen := Numeral.length_digits_le (by decide : 2 ≤ 10) hlt
    rw [hdigits, List.length_append] at hlen
    omega
  · have hpower := Numeral.digits_mul_pow (by decide : 2 ≤ 10) Nat.one_pos count
    have hone : Numeral.digits 10 1 = [1] := by decide
    rw [Nat.one_mul, hone] at hpower
    simp [ofSteps, hpower, hcount]

end Decimal

namespace Magnitude

open Double Decimal

variable {m : Magnitude}

theorem not_attracts_zero (hm : 0 < m.units) : ¬ m.Attracts 0 := by
  intro h
  have hgap : (gap (m.units - 1) : ℚ) ≤ m.units := Nat.cast_le.2 (gap_pred_le hm m.onGrid)
  have hpos : (0 : ℚ) < m.units := Nat.cast_pos.2 hm
  rcases h.low with hlt | ⟨heq, -⟩
  · linarith
  · linarith

/-- A decimal with the fewest digits of all that are read as a magnitude, and of those with as few
digits one of the nearest. -/
structure IsShortest (m : Magnitude) (d : Decimal) : Prop where
  normalized : d.Normalized
  reads : d.toDouble false = .finite false m
  fewest : ∀ e : Decimal, e.Normalized → e.toDouble false = .finite false m →
    d.digits.length ≤ e.digits.length
  nearest : ∀ e : Decimal, e.Normalized → e.toDouble false = .finite false m →
    e.digits.length = d.digits.length → |d.number - m.value| ≤ |e.number - m.value|

/-- The first digit of a magnitude in terms of its number. -/
theorem ten_zpow_le_value (hm : 0 < m.units) : 10 ^ m.decimalExponent ≤ m.value := by
  have hfirst := (m.steps_le_value_iff m.decimalExponent 1).2 (by
    rw [Nat.one_mul]
    exact (decimalExponent_bounds hm).1)
  rwa [Nat.cast_one, one_mul] at hfirst

/-- A decimal that is read as a magnitude is a number of steps of the place where the magnitude has
as many digits. If it starts below that place, the power of ten between them is one, and nearer. -/
theorem exists_steps (hm : 0 < m.units) {e : Decimal} (he : e.Normalized)
    (h : m.Attracts e.number) {place : Int}
    (hplace : m.decimalExponent - e.digits.length + 1 = place) :
    ∃ j : Nat, m.Attracts (j * 10 ^ place) ∧
      |j * 10 ^ place - m.value| ≤ |e.number - m.value| := by
  have hlen := List.length_pos_iff.2 he.nonempty
  have hfirst := ten_zpow_le_value hm
  rcases Int.lt_or_le e.exponent m.decimalExponent with hlow | hhigh
  · have hpower : ((10 ^ (e.digits.length - 1) : Nat) : ℚ) * 10 ^ place = 10 ^ m.decimalExponent :=
      cast_pow_mul_zpow (by omega)
    have hbelow : e.number < 10 ^ m.decimalExponent :=
      lt_of_lt_of_le he.number_bounds.2 (zpow_le_zpow_right₀ (by norm_num) (by omega))
    refine ⟨10 ^ (e.digits.length - 1), ?_, ?_⟩
    · rw [hpower]
      exact h.between m.attracts_value hbelow.le hfirst
    · rw [hpower, abs_of_nonpos (by linarith)]
      exact le_trans (by linarith) (neg_le_abs _)
  · refine ⟨Numeral.value 10 e.digits * 10 ^ (e.exponent - m.decimalExponent).toNat, ?_⟩
    have hnumber : ((Numeral.value 10 e.digits * 10 ^ (e.exponent - m.decimalExponent).toNat : Nat)
        : ℚ) * 10 ^ place = e.number := by
      rw [Nat.cast_mul, mul_assoc, number]
      congr 1
      apply cast_pow_mul_zpow
      rw [Decimal.place]
      omega
    rw [hnumber]
    exact ⟨h, le_refl _⟩

/-- The search for the shortest digits finds them. -/
theorem isShortest_shortest (hm : 0 < m.units) (tie : Tie) : m.IsShortest (m.shortest tie) := by
  obtain ⟨count, hpos, -, hfound, hfirst⟩ := exists_shortestWith? hm tie
  obtain ⟨steps, hd, hattracts, hsteps, hnearest⟩ := shortestWith?_nearest hm rfl hfound
  obtain ⟨-, hmost⟩ := leadingSteps_bounds hm hpos
  have hstepsPos : 0 < steps := by
    apply Nat.pos_of_ne_zero
    rintro rfl
    rw [Nat.cast_zero, zero_mul] at hattracts
    exact not_attracts_zero hm hattracts
  generalize m.shortest tie = d at *
  have hnormal : d.Normalized := hd ▸ normalized_ofSteps hstepsPos _
  have hreads : d.toDouble false = .finite false m := by
    rw [toDouble_eq_iff, hd, number_ofSteps]
    exact hattracts
  have hlen : d.digits.length ≤ count := by
    rw [hd]
    exact length_ofSteps_le hpos (by omega) _
  have hfewest : ∀ e : Decimal, e.Normalized → e.toDouble false = .finite false m →
      count ≤ e.digits.length := by
    intro e he hread
    obtain ⟨j, hj, -⟩ := exists_steps hm he ((toDouble_eq_iff false).1 hread) rfl
    have hsome := shortestWith?_isSome hm tie hj
    by_contra hless
    rw [hfirst _ (List.length_pos_iff.2 he.nonempty) (by omega)] at hsome
    cases hsome
  refine ⟨hnormal, hreads, fun e he hread => hlen.trans (hfewest e he hread), ?_⟩
  intro e he hread hsame
  have hcount : e.digits.length = count :=
    hsame.trans (Nat.le_antisymm hlen (hfewest d hnormal hreads))
  obtain ⟨j, hj, hdist⟩ := exists_steps hm he ((toDouble_eq_iff false).1 hread) rfl
  rw [hcount] at hj hdist
  rw [hd, number_ofSteps]
  exact (hnearest j hj).trans hdist

/-- Shortest digits are read as the magnitude with either sign. -/
theorem IsShortest.toDouble {d : Decimal} (h : m.IsShortest d) (negative : Bool) :
    d.toDouble negative = .finite negative m :=
  (toDouble_eq_iff negative).2 ((toDouble_eq_iff false).1 h.reads)

/-- What the search finds is read as the magnitude, zero included. -/
theorem toDouble_shortest (m : Magnitude) (tie : Tie) (negative : Bool) :
    (m.shortest tie).WellFormed ∧ (m.shortest tie).toDouble negative = .finite negative m := by
  by_cases hzero : m.units = 0
  · obtain ⟨hwell, hread⟩ := Decimal.toDouble_zero
    rw [shortest, if_pos hzero, show m = .zero from ext hzero]
    exact ⟨hwell, hread negative⟩
  · have h := isShortest_shortest (Nat.pos_of_ne_zero hzero) tie
    exact ⟨h.normalized.toWellFormed, h.toDouble negative⟩

end Magnitude

end ScriptValues
