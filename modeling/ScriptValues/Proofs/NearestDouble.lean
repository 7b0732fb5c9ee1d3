import Mathlib.Algebra.Order.Field.Basic
import Mathlib.Algebra.Order.Field.Rat
import Mathlib.Tactic.Linarith
import Mathlib.Tactic.Ring
import ScriptValues.Proofs.Units

/-!
Which double is nearest to a number, said of all doubles at once: every other one is farther away,
or just as far and the significand is even. The infinities take part, and stand where the doubles
after the largest ones would. Rounding finds the one double without a minus sign that is nearest.
-/

namespace ScriptValues

/-- A point is nearer than one above it, or as near and preferred, when it is so by the middle. -/
theorem nearer_iff_of_lt {v a b : ℚ} (hab : a < b) (preferred : Prop) :
    |v - a| < |v - b| ∨ |v - a| = |v - b| ∧ preferred ↔
      2 * v < a + b ∨ 2 * v = a + b ∧ preferred := by
  have hdiff : (v - b) ^ 2 - (v - a) ^ 2 = (b - a) * (a + b - 2 * v) := by ring
  have hpos : 0 < b - a := sub_pos.2 hab
  have hlt : |v - a| < |v - b| ↔ 2 * v < a + b := by
    rw [← sq_lt_sq, ← sub_pos, hdiff, mul_pos_iff_of_pos_left hpos, sub_pos]
  have heq : |v - a| = |v - b| ↔ 2 * v = a + b := by
    rw [← sq_eq_sq_iff_abs_eq_abs, eq_comm, ← sub_eq_zero, hdiff, mul_eq_zero_iff_left hpos.ne',
      sub_eq_zero, eq_comm]
  rw [hlt, heq]

/-- A point is nearer than one below it, or as near and preferred, when it is so by the middle. -/
theorem nearer_iff_of_gt {v a b : ℚ} (hba : b < a) (preferred : Prop) :
    |v - a| < |v - b| ∨ |v - a| = |v - b| ∧ preferred ↔
      a + b < 2 * v ∨ 2 * v = a + b ∧ preferred := by
  have hmirror := @nearer_iff_of_lt (-v) (-a) (-b) (neg_lt_neg hba) preferred
  rw [neg_sub_neg, neg_sub_neg, abs_sub_comm a, abs_sub_comm b] at hmirror
  rw [hmirror]
  constructor
  · rintro (hlt | ⟨heq, hp⟩)
    · exact .inl (by linarith)
    · exact .inr ⟨by linarith, hp⟩
  · rintro (hlt | ⟨heq, hp⟩)
    · exact .inl (by linarith)
    · exact .inr ⟨by linarith, hp⟩

/-- A quotient half way between two whole numbers goes to the even one. -/
theorem roundDiv_toEven_of_tie {num den : Nat} (hden : 0 < den)
    (htie : 2 * (roundDiv .toEven num den * den) = 2 * num + den ∨
      2 * num = 2 * (roundDiv .toEven num den * den) + den) :
    roundDiv .toEven num den % 2 = 0 := by
  have hsplit := Nat.div_add_mod' num den
  have hrest := Nat.mod_lt num hden
  have hup : (num / den + 1) * den = num / den * den + den := Nat.succ_mul _ _
  by_cases hhalf : 2 * (num % den) = den
  · simp only [roundDiv, hhalf, Nat.lt_irrefl, if_false]
    omega
  · have hcases : roundDiv .toEven num den = num / den ∧ 2 * (num % den) < den ∨
        roundDiv .toEven num den = num / den + 1 ∧ den < 2 * (num % den) := by
      simp only [roundDiv]
      grind
    rcases hcases with ⟨hwhole, hless⟩ | ⟨hwhole, hmore⟩
    · rw [hwhole] at htie
      omega
    · rw [hwhole, hup] at htie
      omega

namespace Magnitude

variable {num den units : Nat}

theorem gap_dvd_prev (hgrid : gap units ∣ units) :
    gap (units - gap (units - 1)) ∣ units - gap (units - 1) := by
  have hpos := gap_pos (units - 1)
  apply Nat.dvd_trans (gap_dvd_gap (show units - gap (units - 1) ≤ units - 1 by omega))
  exact Nat.dvd_sub (Nat.dvd_trans (gap_pred_dvd units) hgrid) (Nat.dvd_refl _)

theorem two_pow_div_gap {bits : Nat} (h : 52 ≤ bits) :
    2 ^ bits / gap (2 ^ bits) = 2 ^ (52 : Nat) := by
  rw [gap, Nat.log2_two_pow, Nat.pow_div (Nat.sub_le _ _) (by decide), Nat.sub_sub_self h]

/-- A significand that is even on the grid just below is even on its own grid. -/
theorem even_of_even_pred (hunits : 0 < units) (heven : units / gap (units - 1) % 2 = 0) :
    units / gap units % 2 = 0 := by
  by_cases hsame : gap units = gap (units - 1)
  · rwa [hsame]
  · -- the grid changes at powers of two only, from 2^53 on
    have hlog : 52 < units.log2 := by
      by_contra hsmall
      apply hsame
      have hle : (units - 1).log2 ≤ units.log2 := by
        by_cases hzero : units - 1 = 0
        · simp [hzero]
        · apply (Nat.le_log2 (by omega)).2
          have := Nat.log2_self_le hzero
          omega
      rw [gap, gap, show units.log2 - 52 = 0 by omega, show (units - 1).log2 - 52 = 0 by omega]
    have hle : 2 ^ units.log2 ≤ units := Nat.log2_self_le (by omega)
    have hpow : units = 2 ^ units.log2 := by
      by_contra hne
      apply hsame
      symm
      apply gap_eq_of_le_of_lt
      · omega
      · have : units < 2 ^ (units.log2 + 1) := Nat.lt_log2_self
        omega
    rw [hpow, two_pow_div_gap hlog.le]

/-- A quotient is within half of the gaps around a magnitude, and at an end only when the
significand is even. -/
structure WithinHalf (num den units : Nat) : Prop where
  low : 2 * (units * den) < 2 * num + gap (units - 1) * den ∨
    2 * (units * den) = 2 * num + gap (units - 1) * den ∧ units / gap units % 2 = 0
  high : 2 * num < 2 * (units * den) + gap units * den ∨
    2 * num = 2 * (units * den) + gap units * den ∧ units / gap units % 2 = 0

/-- From a rounded quotient on the quotient has the same gap. -/
private theorem gap_eq_of_nearestUnits_le (hden : 0 < den)
    (hle : nearestUnits num den ≤ num / den) :
    gap (nearestUnits num den) = gap (num / den) := by
  by_cases hzero : num / den = 0
  · rw [hzero] at hle ⊢
    rw [Nat.le_zero.1 hle]
  · apply gap_eq_of_le_of_lt
    · apply le_nearestUnits hden (gap_dvd_two_pow _)
      exact (Nat.le_div_iff_mul_le hden).1 (Nat.log2_self_le hzero)
    · exact Nat.lt_of_le_of_lt hle Nat.lt_log2_self

/-- A quotient is within half of the gaps around the magnitude it is rounded to. -/
theorem withinHalf_nearestUnits (hden : 0 < den) :
    WithinHalf num den (nearestUnits num den) := by
  have hgap := gap_pos (num / den)
  have hstep : 0 < den * gap (num / den) := Nat.mul_pos hden hgap
  have hnear := @roundDiv_near .toEven num _ hstep
  have htie := @roundDiv_toEven_of_tie num _ hstep
  have hround : nearestUnits num den =
      roundDiv .toEven num (den * gap (num / den)) * gap (num / den) := rfl
  have hsame := @gap_eq_of_nearestUnits_le num den hden
  have hquotLe := Nat.div_mul_le_self num den
  have hquotLt : num < (num / den + 1) * den := by
    rw [Nat.succ_mul]
    exact Nat.lt_div_mul_add hden
  generalize roundDiv .toEven num (den * gap (num / den)) = steps at *
  generalize nearestUnits num den = units at *
  have hmul : steps * (den * gap (num / den)) = units * den := by
    rw [hround]
    ring
  have heven : steps % 2 = 0 → units / gap (num / den) % 2 = 0 := by
    rw [hround, Nat.mul_div_cancel _ hgap]
    exact id
  rw [hmul, Nat.mul_comm den] at hnear htie
  generalize num / den = quotient at *
  rcases Nat.lt_or_ge quotient units with hbelow | habove
  · have hlt : num < units * den := Nat.lt_of_lt_of_le hquotLt (Nat.mul_le_mul_right den hbelow)
    have hfiner := gap_dvd_gap (show quotient ≤ units - 1 by omega)
    have hfine := Nat.mul_le_mul_right den (Nat.le_of_dvd (gap_pos _) hfiner)
    refine ⟨?_, .inl (by omega)⟩
    by_contra hend
    have hends : gap quotient * den = gap (units - 1) * den := by omega
    have hgapEq : gap quotient = gap (units - 1) := Nat.eq_of_mul_eq_mul_right hden hends
    rw [hgapEq] at heven htie
    exact hend (.inr ⟨by omega, even_of_even_pred (by omega) (heven (htie (by omega)))⟩)
  · have hle : units * den ≤ num := Nat.le_trans (Nat.mul_le_mul_right den habove) hquotLe
    have hprev : 0 < gap (units - 1) * den := Nat.mul_pos (gap_pos _) hden
    rw [← hsame habove] at hnear htie heven
    refine ⟨.inl (by omega), ?_⟩
    by_contra hend
    exact hend (.inr ⟨by omega, heven (htie (by omega))⟩)

theorem nearestUnits_eq_iff (hden : 0 < den) (hgrid : gap units ∣ units) :
    nearestUnits num den = units ↔ WithinHalf num den units := by
  constructor
  · rintro rfl
    exact withinHalf_nearestUnits hden
  · rintro ⟨hlow, hhigh⟩
    have hcut : (2 * units - gap (units - 1)) * den =
        2 * (units * den) - gap (units - 1) * den := by
      rw [Nat.sub_mul, Nat.mul_assoc]
    have hsum : (2 * units + gap units) * den = 2 * (units * den) + gap units * den := by
      rw [Nat.add_mul, Nat.mul_assoc]
    apply nearestUnits_eq hden hgrid
    · omega
    · omega
    · intro hend
      by_cases hzero : units = 0
      · simp [hzero]
      · have hgap := Nat.mul_le_mul_right den (gap_pred_le (Nat.pos_of_ne_zero hzero) hgrid)
        omega

/-- The same of the number that the quotient is. -/
theorem withinHalf_iff {v : ℚ} (hden : 0 < den) (hv : v * den = num) :
    WithinHalf num den units ↔
      (2 * (units : ℚ) < 2 * v + gap (units - 1) ∨
        2 * (units : ℚ) = 2 * v + gap (units - 1) ∧ units / gap units % 2 = 0) ∧
      (2 * v < 2 * units + gap units ∨
        2 * v = 2 * units + gap units ∧ units / gap units % 2 = 0) := by
  have hpos : (0 : ℚ) < den := Nat.cast_pos.2 hden
  have hpoint : 2 * (units : ℚ) * den = (2 * (units * den) : Nat) := by
    push_cast
    ring
  have hprev : (2 * v + gap (units - 1)) * den = (2 * num + gap (units - 1) * den : Nat) := by
    push_cast [← hv]
    ring
  have hquot : 2 * v * den = (2 * num : Nat) := by
    push_cast [← hv]
    ring
  have hnext : (2 * (units : ℚ) + gap units) * den =
      (2 * (units * den) + gap units * den : Nat) := by
    push_cast
    ring
  rw [← mul_lt_mul_iff_of_pos_right hpos, hpoint, hprev, Nat.cast_lt,
    ← mul_lt_mul_iff_of_pos_right hpos, hquot, hnext, Nat.cast_lt, ← mul_left_inj' hpos.ne',
    hpoint, hprev, Nat.cast_inj, ← mul_left_inj' hpos.ne', hquot, hnext, Nat.cast_inj]
  exact ⟨fun h => ⟨h.low, h.high⟩, fun h => ⟨h.1, h.2⟩⟩

/-- A number is rounded to a magnitude at least when it is at most half a gap below, and less than
that when the significand is not even. -/
theorem le_nearestUnits_iff {v : ℚ} (hden : 0 < den) (hv : v * den = num)
    (hgrid : gap units ∣ units) :
    units ≤ nearestUnits num den ↔
      2 * (units : ℚ) < 2 * v + gap (units - 1) ∨
        2 * (units : ℚ) = 2 * v + gap (units - 1) ∧ units / gap units % 2 = 0 := by
  have hgap : (0 : ℚ) < gap (units - 1) := Nat.cast_pos.2 (gap_pos _)
  have hnext : (0 : ℚ) < gap units := Nat.cast_pos.2 (gap_pos _)
  have hpos : (0 : ℚ) < den := Nat.cast_pos.2 hden
  have hpast : units * den ≤ num ↔ (units : ℚ) ≤ v := by
    rw [← mul_le_mul_iff_of_pos_right hpos, hv]
    exact_mod_cast Iff.rfl
  have heq : nearestUnits num den = units ↔ _ :=
    (nearestUnits_eq_iff hden hgrid).trans (withinHalf_iff hden hv)
  rcases Nat.lt_or_ge num (units * den) with hbelow | habove
  · have hle := nearestUnits_le hden hgrid hbelow.le
    have hlt := mt hpast.2 (Nat.not_le.2 hbelow)
    constructor
    · intro hmost
      exact (heq.1 (Nat.le_antisymm hle hmost)).1
    · intro hlow
      exact (heq.2 ⟨hlow, .inl (by linarith)⟩).ge
  · have hle := hpast.1 habove
    exact iff_of_true (le_nearestUnits hden hgrid habove) (.inl (by linarith))

theorem limit_eq : limit = 2 ^ (1024 : Nat) * one := by
  rw [limit, one, show 53 + 2045 = 1024 + 1074 from rfl]
  generalize 1074 = bits
  exact Nat.pow_add 2 1024 bits

theorem mul_one_lt_limit_iff (n : Nat) : n * one < limit ↔ n < 2 ^ (1024 : Nat) := by
  rw [limit_eq]
  generalize 2 ^ (1024 : Nat) = bound
  exact Nat.mul_lt_mul_right one_pos

/-- The limit is a magnitude too, but for its size, and its significand is even. -/
theorem limit_onGrid : gap limit ∣ limit ∧ limit / gap limit % 2 = 0 := by
  rw [limit]
  generalize hbits : 53 + 2045 = bits
  rw [two_pow_div_gap (by omega)]
  exact ⟨gap_dvd_two_pow bits, by decide⟩

end Magnitude

namespace Double

open Magnitude

/-- Whether the significand of a double is even. Infinities are the power of two after the largest
doubles. -/
def hasEvenSignificand : Double → Bool
  | .finite _ m => m.isEven
  | _ => true

/-- Of all doubles, this one without a minus sign is nearest to a number: no other place on the line
is nearer, and when another one is as near the significand is even. -/
structure IsNearest (v : ℚ) (x : Double) : Prop where
  unsigned : x.abs = x
  nearest : ∃ place : Int, x.place? = some place ∧
    ∀ y other, place? y = some other → other ≠ place →
      |v * Magnitude.one - place| < |v * Magnitude.one - other| ∨
        |v * Magnitude.one - place| = |v * Magnitude.one - other| ∧ x.hasEvenSignificand = true

theorem IsNearest.ne_nan {v : ℚ} {x : Double} (h : IsNearest v x) : x ≠ .nan := by
  rintro rfl
  obtain ⟨place, hplace, -⟩ := h.nearest
  cases hplace

/-- A place is a magnitude up to the limit, or below zero. -/
theorem place?_cases {x : Double} {place : Int} (h : x.place? = some place) :
    place < 0 ∨ ∃ units : Nat, place = units ∧ gap units ∣ units ∧ units ≤ limit := by
  rcases Int.lt_or_le place 0 with hneg | hnonneg
  · exact .inl hneg
  · right
    cases x with
    | nan => cases h
    | infinite negative =>
        cases negative with
        | false => exact ⟨limit, (Option.some.inj h).symm, limit_onGrid.1, Nat.le_refl _⟩
        | true =>
            have hplace : -(limit : Int) = place := Option.some.inj h
            have hlimit := limit_pos
            omega
    | finite negative m =>
        refine ⟨m.units, ?_, m.onGrid, m.bounded.le⟩
        cases h
        cases negative with
        | false => rfl
        | true =>
            simp only [if_true] at hnonneg ⊢
            omega

theorem exists_place? {units : Nat} (hgrid : gap units ∣ units) (hle : units ≤ limit) :
    ∃ x : Double, x.place? = some (units : Int) := by
  rcases Nat.lt_or_eq_of_le hle with hlt | hlimit
  · exact ⟨.finite false ⟨units, hgrid, hlt⟩, rfl⟩
  · exact ⟨.infinite false, by rw [hlimit]; rfl⟩

theorem hasEvenSignificand_finite (negative : Bool) (m : Magnitude) :
    (Double.finite negative m).hasEvenSignificand = true ↔ m.units / gap m.units % 2 = 0 := by
  simp [hasEvenSignificand, isEven, significand, shift, gap]

/-- A double without a minus sign is a magnitude, or the limit. -/
theorem unsigned_cases {x : Double} {place : Int} (hunsigned : x.abs = x)
    (h : x.place? = some place) :
    ∃ units : Nat, place = units ∧ gap units ∣ units ∧
      (x.hasEvenSignificand = true ↔ units / gap units % 2 = 0) ∧
      (units = limit ∧ x = .infinite false ∨
        ∃ m : Magnitude, units = m.units ∧ x = .finite false m) := by
  cases x with
  | nan => cases h
  | infinite negative =>
      cases negative with
      | true => cases hunsigned
      | false =>
          exact ⟨limit, (Option.some.inj h).symm, limit_onGrid.1, iff_of_true rfl limit_onGrid.2,
            .inl ⟨rfl, rfl⟩⟩
  | finite negative m =>
      cases negative with
      | true => cases hunsigned
      | false =>
          exact ⟨m.units, (Option.some.inj h).symm, m.onGrid, hasEvenSignificand_finite false m,
            .inr ⟨m, rfl, rfl⟩⟩

/-- A place is the nearest one when the neighbouring places are not nearer. -/
theorem forall_place_iff {v : ℚ} (hv : 0 ≤ v) {units : Nat} (hgrid : gap units ∣ units)
    (hle : units ≤ limit) (even : Prop) :
    (∀ y other, place? y = some other → other ≠ units →
      |v - units| < |v - other| ∨ |v - units| = |v - other| ∧ even) ↔
    (2 * (units : ℚ) < 2 * v + gap (units - 1) ∨
      2 * (units : ℚ) = 2 * v + gap (units - 1) ∧ even) ∧
    (units < limit → 2 * v < 2 * units + gap units ∨ 2 * v = 2 * units + gap units ∧ even) := by
  have hprev : (0 : ℚ) < gap (units - 1) := Nat.cast_pos.2 (gap_pos _)
  have hnext : (0 : ℚ) < gap units := Nat.cast_pos.2 (gap_pos _)
  constructor
  · intro hall
    constructor
    · rcases Nat.eq_zero_or_pos units with rfl | hpos
      · left
        rw [Nat.cast_zero]
        linarith
      · have hroom := gap_pred_le hpos hgrid
        obtain ⟨y, hy⟩ := exists_place? (gap_dvd_prev hgrid) (by omega)
        have hnear := hall y _ hy (by have := gap_pos (units - 1); omega)
        rw [Int.cast_natCast, Nat.cast_sub hroom, nearer_iff_of_gt (by linarith)] at hnear
        rcases hnear with hlt | ⟨heq, heven⟩
        · exact .inl (by linarith)
        · exact .inr ⟨by linarith, heven⟩
    · intro hlt
      obtain ⟨y, hy⟩ := exists_place? (gap_dvd_next hgrid) (add_gap_le hgrid limit_onGrid.1 hlt)
      have hnear := hall y _ hy (by have := gap_pos units; omega)
      rw [Int.cast_natCast, Nat.cast_add, nearer_iff_of_lt (by linarith)] at hnear
      rcases hnear with hless | ⟨heq, heven⟩
      · exact .inl (by linarith)
      · exact .inr ⟨by linarith, heven⟩
  · rintro ⟨hlow, hhigh⟩ y other hy hne
    rcases place?_cases hy with hneg | ⟨w, rfl, hw, hwle⟩
    · -- a place below zero is farther away than zero is
      have hneg' : (other : ℚ) < 0 := Int.cast_lt_zero.2 hneg
      have hunits : (0 : ℚ) ≤ units := Nat.cast_nonneg _
      rw [nearer_iff_of_gt (by linarith)]
      left
      rcases Nat.eq_zero_or_pos units with rfl | hpos
      · rw [Nat.cast_zero]
        linarith
      · have hroom : (gap (units - 1) : ℚ) ≤ units := Nat.cast_le.2 (gap_pred_le hpos hgrid)
        rcases hlow with hlt | ⟨heq, -⟩
        · linarith
        · linarith
    · have hne' : w ≠ units := fun h => hne (congrArg Nat.cast h)
      rw [Int.cast_natCast]
      rcases Nat.lt_or_gt_of_ne hne' with hbelow | habove
      · have hroom : (w + gap (units - 1) : ℚ) ≤ units := by
          exact_mod_cast add_gap_pred_le hw hgrid hbelow
        rw [nearer_iff_of_gt (Nat.cast_lt.2 hbelow)]
        rcases hlow with hlt | ⟨heq, heven⟩
        · exact .inl (by linarith)
        · rcases hroom.lt_or_eq with hfar | hclose
          · exact .inl (by linarith)
          · exact .inr ⟨by linarith, heven⟩
      · have hroom : (units + gap units : ℚ) ≤ w := by
          exact_mod_cast add_gap_le hgrid hw habove
        rw [nearer_iff_of_lt (Nat.cast_lt.2 habove)]
        rcases hhigh (Nat.lt_of_lt_of_le habove hwle) with hlt | ⟨heq, heven⟩
        · exact .inl (by linarith)
        · rcases hroom.lt_or_eq with hfar | hclose
          · exact .inl (by linarith)
          · exact .inr ⟨by linarith, heven⟩

theorem nearest_of_limit_le (negative : Bool) {num den : Nat}
    (h : limit ≤ nearestUnits num den) : nearest negative num den = .infinite negative :=
  dif_neg (Nat.not_lt.2 h)

/-- Rounding finds the double without a minus sign that is nearest, and there is no other one. -/
theorem isNearest_iff {v : ℚ} {x : Double} {num den : Nat} (hden : 0 < den)
    (hv : v * Magnitude.one * den = num) :
    IsNearest v x ↔ x = nearest false num den := by
  have hpos : (0 : ℚ) < den := Nat.cast_pos.2 hden
  have hnonneg : 0 ≤ v * Magnitude.one :=
    le_of_mul_le_mul_right (by rw [hv, zero_mul]; exact Nat.cast_nonneg _) hpos
  constructor
  · rintro ⟨hunsigned, place, hplace, hall⟩
    obtain ⟨units, rfl, hgrid, heven, hcases⟩ := unsigned_cases hunsigned hplace
    have hlow := le_nearestUnits_iff hden hv hgrid
    have hboth := (nearestUnits_eq_iff hden hgrid).trans (withinHalf_iff hden hv)
    simp only [Int.cast_natCast, heven] at hall
    rcases hcases with ⟨hunits, rfl⟩ | ⟨m, rfl, rfl⟩
    · have hnear := (forall_place_iff hnonneg hgrid (Nat.le_of_eq hunits) _).1 hall
      exact (nearest_of_limit_le false (Nat.le_trans hunits.ge (hlow.2 hnear.1))).symm
    · have hnear := (forall_place_iff hnonneg hgrid m.bounded.le _).1 hall
      exact (nearest_eq_finite false (hboth.2 ⟨hnear.1, hnear.2 m.bounded⟩)).symm
  · intro hx
    have hgrid := gap_dvd_nearestUnits num den
    have hboth := (withinHalf_iff hden hv).1 (withinHalf_nearestUnits hden)
    rcases Nat.lt_or_ge (nearestUnits num den) limit with hfinite | hinfinite
    · rw [hx, nearest, dif_pos hfinite]
      refine ⟨rfl, nearestUnits num den, rfl, ?_⟩
      simp only [Int.cast_natCast, hasEvenSignificand_finite]
      exact (forall_place_iff hnonneg hgrid hfinite.le _).2 ⟨hboth.1, fun _ => hboth.2⟩
    · have hlow := (le_nearestUnits_iff hden hv limit_onGrid.1).1 hinfinite
      rw [hx, nearest_of_limit_le false hinfinite]
      refine ⟨rfl, limit, rfl, ?_⟩
      simp only [Int.cast_natCast]
      apply (forall_place_iff hnonneg limit_onGrid.1 (Nat.le_refl _) _).2
      refine ⟨hlow.imp_right fun hend => ⟨hend.1, rfl⟩, fun hlt => ?_⟩
      exact absurd hlt (Nat.lt_irrefl _)

/-- So whole numbers are rounded to the nearest double. -/
theorem isNearest_natCast_iff {n : Nat} {x : Double} :
    IsNearest n x ↔ x = ofNat n := by
  apply isNearest_iff Nat.one_pos
  rw [Nat.cast_one, mul_one, Nat.cast_mul]

end Double

end ScriptValues
