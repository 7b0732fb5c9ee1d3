import ScriptValues.Proofs.NearestDouble
import ScriptValues.Proofs.WholeNumber

/-!
Numbers of more than 53 bits with more bits behind them. Rounding sees the new bits only where the
number is half way between two magnitudes and would be rounded down. So doubles of this size are
multiplied by a power of two without another rounding, and a digit that is added then is lost.
-/

namespace ScriptValues

/-- A quotient whose numerator and denominator get more digits is rounded as before, but for a half
that the new digits make more than one. -/
theorem roundDiv_tail {num den scale tail : Nat} (hpos : 0 < den) (hden : den % 2 = 0)
    (htail : tail < scale) :
    roundDiv .toEven (num * scale + tail) (den * scale) =
      roundDiv .toEven num den +
        if 2 * (num % den) = den ∧ num / den % 2 = 0 ∧ 0 < tail then 1 else 0 := by
  have hrest := Nat.mod_lt num hpos
  have hless : num % den * scale + tail < den * scale := by
    have hroom := Nat.mul_le_mul_right scale hrest
    rw [Nat.succ_mul] at hroom
    omega
  have hscaled : num * scale + tail =
      num % den * scale + tail + den * scale * (num / den) := by
    have hsplit := congrArg (· * scale) (Nat.mod_add_div num den)
    simp only [Nat.add_mul] at hsplit
    rw [Nat.mul_right_comm den]
    omega
  have hwhole : (num * scale + tail) / (den * scale) = num / den := by
    rw [hscaled, Nat.add_mul_div_left _ _ (by omega), Nat.div_eq_of_lt hless, Nat.zero_add]
  have hmod : (num * scale + tail) % (den * scale) = num % den * scale + tail := by
    rw [hscaled, Nat.add_mul_mod_self_left, Nat.mod_eq_of_lt hless]
  simp only [roundDiv, hwhole, hmod]
  rcases Nat.lt_trichotomy (2 * (num % den)) den with hbelow | hhalf | habove
  · have hroom := Nat.mul_le_mul_right scale (show 2 * (num % den) + 2 ≤ den by omega)
    rw [Nat.add_mul, Nat.mul_assoc] at hroom
    rw [if_pos (by omega), if_pos hbelow, if_neg (by omega), Nat.add_zero]
  · have hsame : 2 * (num % den * scale) = den * scale := by
      rw [← Nat.mul_assoc, hhalf]
    split <;> grind
  · have hroom := Nat.mul_le_mul_right scale (show den + 2 ≤ 2 * (num % den) by omega)
    rw [Nat.add_mul, Nat.mul_assoc] at hroom
    rw [if_neg (by omega), if_pos (by omega), if_neg (by omega), if_pos habove, if_neg (by omega)]

namespace Magnitude

variable {n bits tail : Nat}

theorem gap_even (hn : 2 ^ (53 : Nat) ≤ n) : gap n % 2 = 0 := by
  have hlog : 53 ≤ n.log2 := (Nat.le_log2 (by omega)).2 hn
  rw [gap, show n.log2 - 52 = n.log2 - 53 + 1 by omega, Nat.pow_succ, Nat.mul_mod_left]

/-- From 53 bits on, the gap grows with the digits that are put behind a number. -/
theorem gap_mul_two_pow_add (hn : 2 ^ (52 : Nat) ≤ n) (htail : tail < 2 ^ bits) :
    gap (n * 2 ^ bits + tail) = gap n * 2 ^ bits := by
  have hzero : n ≠ 0 := by omega
  have hlog : 52 ≤ n.log2 := (Nat.le_log2 hzero).2 hn
  have hless : n * 2 ^ bits + tail < (n + 1) * 2 ^ bits := by
    rw [Nat.succ_mul]
    omega
  have hshifted : (n * 2 ^ bits + tail).log2 = n.log2 + bits := by
    apply (Nat.log2_eq_iff _).2
    · constructor
      · rw [Nat.pow_add]
        exact Nat.le_add_right_of_le (Nat.mul_le_mul_right _ (Nat.log2_self_le hzero))
      · rw [Nat.add_right_comm, Nat.pow_add]
        exact Nat.lt_of_lt_of_le hless (Nat.mul_le_mul_right _ Nat.lt_log2_self)
    · have := Nat.mul_pos (Nat.pos_of_ne_zero hzero) (Nat.two_pow_pos bits)
      omega
  rw [gap, gap, hshifted, ← Nat.pow_add]
  congr 1
  omega

/-- A number half way between two magnitudes, of which the lower one has the even significand. -/
def HalfAboveEven (n : Nat) : Prop := 2 * (n % gap n) = gap n ∧ n / gap n % 2 = 0

instance (n : Nat) : Decidable (HalfAboveEven n) := inferInstanceAs (Decidable (_ ∧ _))

/-- Digits behind a number of more than 53 bits count for its rounding only where the number is a
half that is rounded down. -/
theorem nearestUnits_mul_two_pow_add (hn : 2 ^ (53 : Nat) ≤ n) (htail : tail < 2 ^ bits) :
    nearestUnits (n * 2 ^ bits + tail) 1 =
      (nearestUnits n 1 + if HalfAboveEven n ∧ 0 < tail then gap n else 0) * 2 ^ bits := by
  have hround : roundDiv .toEven (n * 2 ^ bits + tail) (gap n * 2 ^ bits) =
      roundDiv .toEven n (gap n) + if HalfAboveEven n ∧ 0 < tail then 1 else 0 :=
    (roundDiv_tail (gap_pos n) (gap_even hn) htail).trans
      (congrArg _ (if_congr and_assoc.symm rfl rfl))
  simp only [nearestUnits, Nat.div_one, Nat.one_mul,
    gap_mul_two_pow_add (Nat.le_trans (by decide) hn) htail, hround]
  rw [← Nat.mul_assoc, Nat.add_mul _ _ (gap n), ite_mul, Nat.one_mul, Nat.zero_mul]

theorem nearestUnits_mul_two_pow (hn : 2 ^ (53 : Nat) ≤ n) (bits : Nat) :
    nearestUnits (n * 2 ^ bits) 1 = nearestUnits n 1 * 2 ^ bits := by
  simpa using nearestUnits_mul_two_pow_add hn (Nat.two_pow_pos bits)

/-- Digits behind a number do not lift it to a power of two. -/
theorem two_pow_le_of_le_add {top : Nat} (hn : 0 < n) (htail : tail < 2 ^ bits)
    (h : 2 ^ top ≤ n * 2 ^ bits + tail) : 2 ^ top ≤ n * 2 ^ bits := by
  rcases Nat.le_total bits top with hle | hle
  · have hsplit : 2 ^ top = 2 ^ (top - bits) * 2 ^ bits := by
      rw [← Nat.pow_add, Nat.sub_add_cancel hle]
    rw [hsplit] at h ⊢
    apply Nat.mul_le_mul_right
    apply Nat.le_of_lt_succ
    apply Nat.lt_of_mul_lt_mul_right (a := 2 ^ bits)
    rw [Nat.succ_mul]
    omega
  · exact Nat.le_trans (Nat.pow_le_pow_right (by decide) hle) (Nat.le_mul_of_pos_left _ hn)

theorem gap_le_gap_nearestUnits (units : Nat) : gap units ≤ gap (nearestUnits units 1) := by
  by_cases hzero : units = 0
  · rw [hzero, gap_of_lt (by decide)]
    exact gap_pos _
  · have hpow : 2 ^ units.log2 ≤ nearestUnits units 1 := by
      apply le_nearestUnits Nat.one_pos (gap_dvd_two_pow _)
      rw [Nat.mul_one]
      exact Nat.log2_self_le hzero
    have hsame : gap (2 ^ units.log2) = gap units := by rw [gap, gap, Nat.log2_two_pow]
    rw [← hsame]
    exact Nat.le_of_dvd (gap_pos _) (gap_dvd_gap hpow)

theorem HalfAboveEven.nearestUnits_le (h : HalfAboveEven n) : nearestUnits n 1 ≤ n := by
  obtain ⟨hhalf, heven⟩ := h
  simp only [nearestUnits, Nat.div_one, Nat.one_mul, roundDiv, hhalf, Nat.lt_irrefl, if_false,
    heven, Nat.add_zero]
  exact Nat.div_mul_le_self n (gap n)

end Magnitude

namespace Double

open Magnitude

variable {n bits units : Nat}

/-- A double that is rounded is a magnitude, or infinite. -/
theorem ofUnits_cases (units : Nat) :
    (Stored (nearestUnits units 1) ∧ ofUnits units = ofUnits (nearestUnits units 1)) ∨
      (limit ≤ nearestUnits units 1 ∧ ofUnits units = .infinite false) := by
  rcases Nat.lt_or_ge (nearestUnits units 1) limit with hfinite | hinfinite
  · have hstored : Stored (nearestUnits units 1) := ⟨gap_dvd_nearestUnits units 1, hfinite⟩
    left
    refine ⟨hstored, ?_⟩
    rw [hstored.ofUnits_eq]
    exact nearest_eq_finite false rfl
  · exact .inr ⟨hinfinite, nearest_of_limit_le false hinfinite⟩

theorem ofUnits_congr {a b : Nat} (h : nearestUnits a 1 = nearestUnits b 1) :
    ofUnits a = ofUnits b := by
  simp only [ofUnits, nearest, h]

/-- Two numbers of units are rounded to the same double when they are rounded to the same grid
point, or both past all doubles. -/
theorem ofUnits_eq_iff {a b : Nat} :
    ofUnits a = ofUnits b ↔
      nearestUnits a 1 = nearestUnits b 1 ∨
        limit ≤ nearestUnits a 1 ∧ limit ≤ nearestUnits b 1 := by
  constructor
  · intro h
    rcases ofUnits_cases a with ⟨ha, hofA⟩ | ⟨ha, hofA⟩
    · rcases ofUnits_cases b with ⟨hb, hofB⟩ | ⟨hb, hofB⟩
      · left
        rw [hofA, hofB, ha.ofUnits_eq, hb.ofUnits_eq] at h
        exact congrArg Magnitude.units (Double.finite.inj h).2
      · rw [hofA, ha.ofUnits_eq, hofB] at h
        cases h
    · rcases ofUnits_cases b with ⟨hb, hofB⟩ | ⟨hb, hofB⟩
      · rw [hofA, hofB, hb.ofUnits_eq] at h
        cases h
      · exact .inr ⟨ha, hb⟩
  · rintro (h | ⟨ha, hb⟩)
    · exact ofUnits_congr h
    · rw [ofUnits, ofUnits, nearest_of_limit_le false ha, nearest_of_limit_le false hb]

/-- Multiplication by a power of two rounds nothing. -/
theorem ofUnits_mul_two_pow (hunits : 2 ^ (53 : Nat) ≤ units) (hbits : bits < 53) :
    (ofUnits units).mul (ofNat (2 ^ bits)) = ofUnits (units * 2 ^ bits) := by
  have hexact : Exact (2 ^ bits) := .of_lt (Nat.pow_lt_pow_right (by decide) hbits)
  have hscaled := nearestUnits_mul_two_pow hunits bits
  rcases ofUnits_cases units with ⟨hstored, hof⟩ | ⟨hinfinite, hof⟩
  · rw [hof, hstored.mul_ofNat hexact.stored]
    apply ofUnits_congr
    rw [hscaled]
    simpa using nearestUnits_mul (gap_dvd_mul_two_pow hstored.onGrid bits) Nat.one_pos
  · have hpast : limit ≤ nearestUnits (units * 2 ^ bits) 1 := by
      rw [hscaled]
      exact Nat.le_trans hinfinite (Nat.le_mul_of_pos_right _ (Nat.two_pow_pos bits))
    rw [hof, hexact.ofNat_eq, mul, if_neg (hexact.units_pos (Nat.two_pow_pos bits)).ne', ofUnits,
      nearest_of_limit_le false hpast]
    rfl

/-- What is less than half of the gap is lost in a sum. -/
theorem ofUnits_add_of_lt {small : Nat} (hsmall : Stored small) (h : 2 * small < gap units) :
    (ofUnits units).add (ofUnits small) = ofUnits units := by
  rcases ofUnits_cases units with ⟨hstored, hof⟩ | ⟨hinfinite, hof⟩
  · have hgap := gap_le_gap_nearestUnits units
    have hself := nearestUnits_mul hstored.onGrid Nat.one_pos
    rw [hof, hstored.add hsmall]
    generalize nearestUnits units 1 = rounded at *
    rw [Nat.mul_one] at hself
    apply ofUnits_congr
    rw [hself]
    apply nearestUnits_eq Nat.one_pos hstored.onGrid
    · omega
    · omega
    · have hprev := gap_pos (rounded - 1)
      intro hend
      obtain rfl : rounded = 0 := by omega
      simp
  · rw [hof, hsmall.ofUnits_eq]
    rfl

theorem Exact.mul_two_pow_of_lt (hn : n < 2 ^ (53 : Nat)) (hbits : bits < 53) :
    Exact (n * 2 ^ bits) where
  onGrid := gap_dvd_mul_pow bits hn
  bounded := by
    have hless : ∀ top, 53 + 53 ≤ top → n * 2 ^ bits < 2 ^ top := by
      intro top htop
      apply Nat.lt_of_lt_of_le (mul_pow_lt hn hbits.le)
      exact Nat.pow_le_pow_right (by decide) htop
    rw [mul_one_lt_limit_iff]
    apply hless
    decide

/-- Once a number has more than 53 bits, a digit put behind it is as good as a zero. -/
theorem mul_add_digit (hn : 2 ^ (53 : Nat) ≤ n) (hbits : bits < 53) {digit : Nat}
    (hdigit : digit < 2 ^ bits) :
    ((ofNat n).mul (ofNat (2 ^ bits))).add (ofNat digit) = ofNat (n * 2 ^ bits) := by
  have hone := Magnitude.one_pos
  have hunits : 2 ^ (53 : Nat) ≤ n * Magnitude.one :=
    Nat.le_trans hn (Nat.le_mul_of_pos_right _ hone)
  have hexact : Exact digit :=
    .of_lt (Nat.lt_trans hdigit (Nat.pow_lt_pow_right (by decide) hbits))
  have hgap : 2 * (2 ^ bits * Magnitude.one) ≤ gap (n * Magnitude.one * 2 ^ bits) := by
    obtain ⟨exponent, hpow⟩ := one_eq_two_pow
    have hscaled := gap_mul_two_pow_add (Nat.le_trans (by decide) hn)
      (Nat.two_pow_pos (exponent + bits))
    have heven := gap_even hn
    have hpos := gap_pos n
    rw [Nat.add_zero, Nat.pow_add, ← Nat.mul_assoc, ← hpow] at hscaled
    rw [hscaled, Nat.mul_comm (2 ^ bits)]
    exact Nat.mul_le_mul_right _ (by omega)
  have hsmall : 2 * (digit * Magnitude.one) < gap (n * Magnitude.one * 2 ^ bits) := by
    have := Nat.mul_lt_mul_of_pos_right hdigit hone
    omega
  rw [ofNat_eq_ofUnits n, ofUnits_mul_two_pow hunits hbits, ofNat_eq_ofUnits digit,
    ofUnits_add_of_lt hexact.stored hsmall, ofNat_eq_ofUnits, Nat.mul_right_comm]

/-- A number of more than 53 bits and more bits behind it have the same nearest double as with zeros
for these bits, unless it is a half that only they turn up. -/
theorem ofUnits_mul_two_pow_add_eq_iff (hn : 2 ^ (53 : Nat) ≤ n) {tail : Nat}
    (htail : tail < 2 ^ bits) :
    ofUnits (n * 2 ^ bits) = ofUnits (n * 2 ^ bits + tail) ↔
      (n * 2 ^ bits + tail < limit → ¬ (HalfAboveEven n ∧ 0 < tail)) := by
  have hscaled := nearestUnits_mul_two_pow hn bits
  rw [ofUnits_eq_iff, nearestUnits_mul_two_pow_add hn htail, hscaled]
  by_cases hlost : HalfAboveEven n ∧ 0 < tail
  · have hbelow := Nat.mul_le_mul_right (2 ^ bits) hlost.1.nearestUnits_le
    have hless : nearestUnits n 1 * 2 ^ bits < (nearestUnits n 1 + gap n) * 2 ^ bits :=
      Nat.mul_lt_mul_of_pos_right (Nat.lt_add_of_pos_right (gap_pos n)) (Nat.two_pow_pos bits)
    have hlarge : limit ≤ n * 2 ^ bits + tail → limit ≤ nearestUnits n 1 * 2 ^ bits := by
      intro hpast
      have hfront : limit ≤ n * 2 ^ bits := by
        rw [limit] at hpast ⊢
        generalize 53 + 2045 = top at hpast ⊢
        exact two_pow_le_of_le_add (by omega) htail hpast
      rw [← hscaled]
      exact limit_le_nearestUnits Nat.one_pos (by rwa [Nat.mul_one])
    rw [if_pos hlost]
    constructor
    · rintro (hsame | ⟨hinfinite, -⟩) hfinite
      · exact absurd hsame hless.ne
      · omega
    · intro hfinite
      have hinfinite := hlarge (Nat.not_lt.1 fun hlt => hfinite hlt hlost)
      exact .inr ⟨hinfinite, Nat.le_trans hinfinite hless.le⟩
  · rw [if_neg hlost, Nat.add_zero]
    exact iff_of_true (.inl rfl) fun _ => hlost

theorem ofNat_mul_two_pow_add_eq_iff (hn : 2 ^ (53 : Nat) ≤ n) {tail : Nat}
    (htail : tail < 2 ^ bits) :
    ofNat (n * 2 ^ bits) = ofNat (n * 2 ^ bits + tail) ↔
      (n * 2 ^ bits + tail < 2 ^ (1024 : Nat) → ¬ (HalfAboveEven n ∧ 0 < tail)) := by
  obtain ⟨exponent, hone⟩ := one_eq_two_pow
  have hpos := Nat.two_pow_pos exponent
  have hpoint : n * 2 ^ bits * Magnitude.one = n * 2 ^ (bits + exponent) := by
    rw [hone, Nat.mul_assoc, Nat.pow_add]
  have hpast : (n * 2 ^ bits + tail) * Magnitude.one =
      n * 2 ^ (bits + exponent) + tail * 2 ^ exponent := by
    rw [Nat.add_mul, hpoint, hone]
  have hshifted : tail * 2 ^ exponent < 2 ^ (bits + exponent) := by
    rw [Nat.pow_add]
    exact Nat.mul_lt_mul_of_pos_right htail hpos
  have htailPos : 0 < tail * 2 ^ exponent ↔ 0 < tail := Nat.mul_pos_iff_of_pos_right hpos
  rw [ofNat_eq_ofUnits, ofNat_eq_ofUnits, hpoint, hpast,
    ofUnits_mul_two_pow_add_eq_iff hn hshifted, htailPos, ← hpast, mul_one_lt_limit_iff]

end Double

end ScriptValues
