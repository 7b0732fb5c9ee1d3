import ScriptValues.Proofs.ExponentialText

/-!
The visible digits of a double: those it has at a hundred decimal places. Taking its text apart
gives the digits of the double rounded to so many places. From 10^-41 on that rounding stays on the
same side of every number halfway between two decimals of up to 21 significant digits.
-/

namespace ScriptValues

namespace Numeral

theorem digitChar_ne_point : ∀ d < 10, digitChar d ≠ '.' := by decide

end Numeral

namespace Double

open Decimal (digitChars)

variable {ds : List Nat} {nonzero point : Bool} {place : Nat}

/-- Zeros are passed over. -/
theorem firstExponent_zeros (zeros : Nat) (cs : List Char) :
    firstExponent nonzero point place (digitChars (List.replicate zeros 0) ++ cs) =
      firstExponent nonzero point (place + zeros) cs := by
  induction zeros generalizing place with
  | zero => rfl
  | succ zeros ih =>
      have hzero : Numeral.digitChar 0 = '0' := by decide
      rw [List.replicate_succ, digitChars, List.map_cons, hzero, List.cons_append, firstExponent,
        if_neg (by decide), if_pos rfl, ← digitChars, ih, Nat.add_right_comm, Nat.add_assoc]

/-- The first other digit after the point has the exponent. -/
theorem firstExponent_after_point {d : Nat} (hd : d < 10) (hne : d ≠ 0) (cs : List Char) :
    firstExponent nonzero true place (Numeral.digitChar d :: cs) = 1 - place := by
  rw [firstExponent, if_neg (Numeral.digitChar_ne_point d hd),
    if_neg (mt (Numeral.digitChar_eq_zero_iff d hd).1 hne), if_pos rfl]

theorem firstExponent_before_point {d : Nat} (hd : d < 10) (hne : d ≠ 0) (cs : List Char) :
    firstExponent false false place (Numeral.digitChar d :: cs) =
      firstExponent true false (place + 1) cs := by
  rw [firstExponent, if_neg (Numeral.digitChar_ne_point d hd),
    if_neg (mt (Numeral.digitChar_eq_zero_iff d hd).1 hne), if_neg Bool.false_ne_true]

/-- After another digit the place of the point decides. -/
theorem firstExponent_whole (hds : ∀ d ∈ ds, d < 10) (cs : List Char) :
    firstExponent true false place (digitChars ds ++ '.' :: cs) = place + ds.length - 1 := by
  induction ds generalizing place with
  | nil =>
      rw [digitChars, List.map_nil, List.nil_append, firstExponent, if_pos rfl, if_pos rfl]
      simp
  | cons d ds ih =>
      have hd := hds d List.mem_cons_self
      have hstep : firstExponent true false place (Numeral.digitChar d ::
          (digitChars ds ++ '.' :: cs)) =
          firstExponent true false (place + 1) (digitChars ds ++ '.' :: cs) := by
        rw [firstExponent, if_neg (Numeral.digitChar_ne_point d hd)]
        -- behind another digit a zero counts as every digit does
        split
        · rfl
        · exact if_neg Bool.false_ne_true
      rw [digitChars, List.map_cons, List.cons_append, ← digitChars, hstep,
        ih fun e he => hds e (List.mem_cons_of_mem d he), List.length_cons]
      omega

/-- The steps of the last of the visible decimal places that are nearest to a magnitude. -/
def visibleSteps (m : Magnitude) : Nat :=
  roundDiv .toEven (m.units * 10 ^ visiblePlaces) Magnitude.one

/-- Digits with a point in front of the last visible places. -/
theorem withPoint_visible {front back : List Nat} (hback : back.length = visiblePlaces) :
    Decimal.withPoint (front ++ back) ((front ++ back).length - visiblePlaces) =
      digitChars front ++ '.' :: digitChars back := by
  have hpos : 0 < visiblePlaces := by decide
  rw [List.length_append, hback, Nat.add_sub_cancel, Decimal.withPoint,
    if_neg (by rw [List.length_append]; omega), List.take_left, List.drop_left]

theorem erase_point {front : List Nat} (hfront : ∀ d ∈ front, d < 10) (cs : List Char) :
    (digitChars front ++ '.' :: cs).erase '.' = digitChars front ++ cs := by
  have hpoint : '.' ∉ digitChars front := by
    intro hmem
    obtain ⟨d, hd, heq⟩ := List.mem_map.1 hmem
    exact Numeral.digitChar_ne_point d (hfront d hd) heq
  rw [List.erase_append_right _ hpoint, List.erase_cons_head]

/-- Digits that reach in front of the point are kept, and the place of the point tells their
exponent. -/
theorem visibleDecimal_of_long {m : Magnitude} (hds : ∀ d ∈ ds, d < 10) (hhead : ds.head? ≠ some 0)
    (hlong : visiblePlaces < ds.length)
    (h : visibleChars m = Decimal.withPoint ds (ds.length - visiblePlaces)) :
    visibleDecimal m = ⟨ds, ds.length - 1 - visiblePlaces⟩ := by
  obtain ⟨front, back, hsplit, hback⟩ : ∃ front back, ds = front ++ back ∧
      back.length = visiblePlaces :=
    ⟨_, _, (List.take_append_drop (ds.length - visiblePlaces) ds).symm,
      by rw [List.length_drop]; omega⟩
  have hlen : ds.length = front.length + visiblePlaces := by
    rw [hsplit, List.length_append, hback]
  obtain ⟨d, rest, rfl⟩ := List.exists_cons_of_length_pos (show 0 < front.length by omega)
  have hfront : ∀ e ∈ d :: rest, e < 10 := fun e he => hds e (hsplit ▸ List.mem_append_left back he)
  have hne : d ≠ 0 := by
    rintro rfl
    exact hhead (by rw [hsplit]; rfl)
  have hexponent : firstExponent false false 0 (digitChars (d :: rest) ++ '.' :: digitChars back) =
      ds.length - 1 - visiblePlaces := by
    rw [digitChars, List.map_cons, List.cons_append, ← digitChars,
      firstExponent_before_point (hfront d List.mem_cons_self) hne,
      firstExponent_whole fun e he => hfront e (List.mem_cons_of_mem d he), hlen, List.length_cons]
    omega
  have hnonneg : ¬ (ds.length - 1 - visiblePlaces : Int) < 0 := by omega
  rw [hsplit, withPoint_visible hback] at h
  rw [visibleDecimal, h]
  rw [hexponent, if_neg hnonneg, erase_point hfront, digitChars, digitChars, ← List.map_append,
    ← hsplit, Numeral.filterMap_digitChar hds]

/-- Other digits are those after the zeros, whose number tells the exponent. -/
theorem visibleDecimal_of_short {m : Magnitude} (hds : ∀ d ∈ ds, d < 10)
    (hhead : ds.head? ≠ some 0) (hnil : ds ≠ []) {zeros : Nat}
    (hzeros : zeros + ds.length = visiblePlaces)
    (h : visibleChars m = '0' :: '.' :: (digitChars (List.replicate zeros 0) ++ digitChars ds)) :
    visibleDecimal m = ⟨ds, ds.length - 1 - visiblePlaces⟩ := by
  obtain ⟨d, rest, rfl⟩ := List.exists_cons_of_ne_nil hnil
  have hne : d ≠ 0 := by
    rintro rfl
    exact hhead rfl
  have hexponent : firstExponent false false 0
      ('0' :: '.' :: (digitChars (List.replicate zeros 0) ++ digitChars (d :: rest))) =
      (d :: rest).length - 1 - visiblePlaces := by
    rw [firstExponent, if_neg (by decide), if_pos rfl, firstExponent, if_pos rfl,
      if_neg Bool.false_ne_true, firstExponent_zeros, digitChars, List.map_cons,
      firstExponent_after_point (hds d List.mem_cons_self) hne, ← hzeros]
    omega
  have hneg : ((d :: rest).length - 1 - visiblePlaces : Int) < 0 := by omega
  have hskip : (1 - ((d :: rest).length - 1 - visiblePlaces : Int)).toNat = zeros + 2 := by omega
  have hlen : (digitChars (List.replicate zeros 0)).length = zeros := by
    rw [digitChars, List.length_map, List.length_replicate]
  rw [visibleDecimal, h]
  rw [hexponent, if_pos hneg, hskip, List.drop_succ_cons, List.drop_succ_cons, List.drop_left' hlen,
    digitChars, Numeral.filterMap_digitChar hds]

/-- Zeros only are kept as they are, with an exponent that counts the point as one of them. -/
theorem visibleDecimal_of_zeros {m : Magnitude}
    (h : visibleChars m = '0' :: '.' :: digitChars (List.replicate visiblePlaces 0)) :
    visibleDecimal m = ⟨List.replicate (visiblePlaces + 1) 0, visiblePlaces + 1⟩ := by
  have hexponent : firstExponent false false 0
      ('0' :: '.' :: digitChars (List.replicate visiblePlaces 0)) = visiblePlaces + 1 := by
    rw [firstExponent, if_neg (by decide), if_pos rfl, firstExponent, if_pos rfl,
      if_neg Bool.false_ne_true, ← List.append_nil (digitChars _), firstExponent_zeros,
      firstExponent]
    omega
  have hnonneg : ¬ ((visiblePlaces : Int) + 1) < 0 := by omega
  have herase : ('0' :: '.' :: digitChars (List.replicate visiblePlaces 0)).erase '.' =
      digitChars (List.replicate (visiblePlaces + 1) 0) :=
    @erase_point [0] (by decide) _
  rw [visibleDecimal, h]
  rw [hexponent, if_neg hnonneg, herase, digitChars,
    Numeral.filterMap_digitChar (Numeral.zeros_lt (by decide) _)]

/-- What the text with all visible places is taken apart into. -/
theorem visibleDecimal_of_chars {m : Magnitude} (hds : ∀ d ∈ ds, d < 10)
    (hhead : ds.head? ≠ some 0)
    (h : visibleChars m = Decimal.withPoint (Numeral.padded (visiblePlaces + 1) ds)
      ((Numeral.padded (visiblePlaces + 1) ds).length - visiblePlaces)) :
    visibleDecimal m =
      if ds = [] then ⟨List.replicate (visiblePlaces + 1) 0, visiblePlaces + 1⟩
      else ⟨ds, ds.length - 1 - visiblePlaces⟩ := by
  rcases Nat.lt_or_ge visiblePlaces ds.length with hlong | hshort
  · have hpadded : Numeral.padded (visiblePlaces + 1) ds = ds := by
      rw [Numeral.padded, Nat.sub_eq_zero_of_le hlong, List.replicate_zero, List.nil_append]
    rw [hpadded] at h
    rw [if_neg (List.ne_nil_of_length_pos (by omega)), visibleDecimal_of_long hds hhead hlong h]
  · obtain ⟨zeros, hzeros⟩ : ∃ zeros, zeros + ds.length = visiblePlaces :=
      ⟨_, Nat.sub_add_cancel hshort⟩
    have hpadded : Numeral.padded (visiblePlaces + 1) ds =
        [0] ++ (List.replicate zeros 0 ++ ds) := by
      rw [Numeral.padded, show visiblePlaces + 1 - ds.length = zeros + 1 by omega,
        List.replicate_succ, List.cons_append, List.singleton_append]
    have hback : (List.replicate zeros 0 ++ ds).length = visiblePlaces := by
      rw [List.length_append, List.length_replicate, hzeros]
    have hzero : digitChars [0] = ['0'] := by decide
    rw [hpadded, withPoint_visible hback, hzero, List.singleton_append] at h
    split
    · next hnil =>
      rw [hnil, List.append_nil, show zeros = visiblePlaces by rw [← hzeros, hnil]; rfl] at h
      exact visibleDecimal_of_zeros h
    · next hnil =>
      rw [digitChars, List.map_append] at h
      exact visibleDecimal_of_short hds hhead hnil hzeros h

/-- It has the digits of the visible steps. -/
theorem visibleDecimal_eq (m : Magnitude) :
    visibleDecimal m =
      if Numeral.digits 10 (visibleSteps m) = [] then
        ⟨List.replicate (visiblePlaces + 1) 0, visiblePlaces + 1⟩
      else ⟨Numeral.digits 10 (visibleSteps m),
        (Numeral.digits 10 (visibleSteps m)).length - 1 - visiblePlaces⟩ := by
  apply visibleDecimal_of_chars
  · exact fun d hd => Numeral.digits_lt (by decide) hd
  · exact Numeral.head?_digits_ne_zero (by decide) _
  · rw [visibleChars, placedChars, visibleSteps]

/-- A magnitude at the visible places, as a number. -/
def visibleValue (m : Magnitude) : ℚ := visibleSteps m * 10 ^ (-visiblePlaces : Int)

theorem visibleDecimal_normalized {m : Magnitude} (hsteps : visibleSteps m ≠ 0) :
    (visibleDecimal m).Normalized ∧ (visibleDecimal m).number = visibleValue m := by
  have hpos := Nat.pos_of_ne_zero hsteps
  rw [visibleDecimal_eq, if_neg (Numeral.digits_ne_nil (by decide) hpos), visibleValue]
  generalize visibleSteps m = steps at *
  generalize (visiblePlaces : Int) = places
  obtain ⟨hnormalized, hvalue⟩ := Decimal.normalized_digits hpos
    ((Numeral.digits 10 steps).length - 1 - places)
  refine ⟨hnormalized, ?_⟩
  rw [hvalue]
  congr 2
  omega

end Double

/-- A quotient stays below a mark when it is rounded, if dividend and mark are whole numbers of a
step that is more than half of the divisor. -/
theorem roundDiv_lt_of_dvd (tie : Tie) {num den mark step : Nat} (hden : 0 < den)
    (hnum : step ∣ num) (hmark : step ∣ mark * den) (hstep : den < 2 * step)
    (hlt : num < mark * den) : roundDiv tie num den < mark := by
  have hfar := Magnitude.add_le_of_dvd hnum hmark hlt
  have hnear := (@roundDiv_near tie num den hden).1
  apply Nat.lt_of_mul_lt_mul_right (a := den)
  omega

namespace Double

open Decimal

variable {m : Magnitude}

/-- Marks at the visible places, in units. -/
theorem mark_le_value_iff (mark : Nat) :
    mark * (10 : ℚ) ^ (-visiblePlaces : Int) ≤ m.value ↔
      mark * Magnitude.one ≤ m.units * 10 ^ visiblePlaces := by
  have hone : (0 : ℚ) < Magnitude.one := Nat.cast_pos.2 Magnitude.one_pos
  have hpow : (0 : ℚ) < (10 ^ visiblePlaces : Nat) := Nat.cast_pos.2 (Nat.pow_pos (by decide))
  have hinv : (10 : ℚ) ^ (-visiblePlaces : Int) = ((10 ^ visiblePlaces : Nat) : ℚ)⁻¹ := by
    rw [zpow_neg, zpow_natCast, Nat.cast_pow, Nat.cast_ofNat]
  rw [hinv, Magnitude.value, le_div_iff₀ hone, mul_right_comm, ← div_eq_mul_inv, div_le_iff₀ hpow]
  exact_mod_cast Iff.rfl

theorem mark_le_visibleValue_iff (mark : Nat) :
    mark * (10 : ℚ) ^ (-visiblePlaces : Int) ≤ visibleValue m ↔ mark ≤ visibleSteps m := by
  rw [visibleValue, mul_le_mul_iff_of_pos_right (ten_zpow_pos _), Nat.cast_le]

/-- Rounding to the visible places does not go below a mark there. -/
theorem mark_le_visibleValue {mark : Nat}
    (h : mark * (10 : ℚ) ^ (-visiblePlaces : Int) ≤ m.value) :
    mark * (10 : ℚ) ^ (-visiblePlaces : Int) ≤ visibleValue m := by
  rw [mark_le_value_iff] at h
  rw [mark_le_visibleValue_iff, visibleSteps]
  exact Nat.le_trans ((Nat.le_div_iff_mul_le Magnitude.one_pos).2 h) (div_le_roundDiv _ _ _)

/-- From 10^-41 on, the last binary digit of a double is not below 2^-189. -/
theorem le_shift_of_le (hm : Magnitude.one ≤ m.units * 10 ^ (41 : Nat)) {significand shift : Nat}
    (hsignificand : significand < 2 ^ (53 : Nat)) (hunits : m.units = significand * 2 ^ shift) :
    885 ≤ shift := by
  obtain ⟨bits, hone, hbits⟩ := Magnitude.one_eq_two_pow_bits
  have hbound : 2 ^ bits < 2 ^ (53 + shift + 137) := by
    calc
      2 ^ bits ≤ m.units * 10 ^ (41 : Nat) := hone ▸ hm
      _ ≤ m.units * 2 ^ (137 : Nat) := Nat.mul_le_mul_left _ (by decide)
      _ < 2 ^ (53 + shift + 137) := by
        rw [hunits, Nat.pow_add, Nat.pow_add]
        exact Nat.mul_lt_mul_of_pos_right
          (Nat.mul_lt_mul_of_pos_right hsignificand (Nat.two_pow_pos _)) (Nat.two_pow_pos _)
  have := (Nat.pow_lt_pow_iff_right (by decide)).1 hbound
  omega

/-- From 10^-41 on, rounding to the visible places does not reach a mark with enough factors of five
from below: a double is farther away from it than half of the last place. -/
theorem visibleValue_lt_mark (hm : Magnitude.one ≤ m.units * 10 ^ (41 : Nat)) {mark : Nat}
    (hmark : 5 ^ (39 : Nat) ∣ mark)
    (h : m.value < mark * (10 : ℚ) ^ (-visiblePlaces : Int)) :
    visibleValue m < mark * (10 : ℚ) ^ (-visiblePlaces : Int) := by
  obtain ⟨bits, hone, hbits⟩ := Magnitude.one_eq_two_pow_bits
  obtain ⟨significand, shift, hsignificand, hunits⟩ := (Magnitude.gap_dvd_iff m.units).1 m.onGrid
  have hshift := le_shift_of_le hm hsignificand hunits
  rw [lt_iff_not_ge, mark_le_value_iff, Nat.not_le] at h
  rw [lt_iff_not_ge, mark_le_visibleValue_iff, Nat.not_le, visibleSteps]
  have hplaces : visiblePlaces = 100 := rfl
  have hnum : m.units * 10 ^ visiblePlaces =
      5 ^ visiblePlaces * (2 ^ (shift + visiblePlaces) * significand) := by
    rw [hunits, show 10 = 2 * 5 by rfl, Nat.mul_pow, Nat.pow_add]
    ring
  apply @roundDiv_lt_of_dvd .toEven _ _ _ (5 ^ (39 : Nat) * 2 ^ (bits - 89)) Magnitude.one_pos
  · rw [hnum]
    exact Nat.mul_dvd_mul (Nat.pow_dvd_pow 5 (by omega))
      (Nat.dvd_trans (Nat.pow_dvd_pow 2 (by omega)) (Nat.dvd_mul_right _ _))
  · rw [hone]
    exact Nat.mul_dvd_mul hmark (Nat.pow_dvd_pow 2 (by omega))
  · calc
      Magnitude.one = 2 ^ (89 : Nat) * 2 ^ (bits - 89) := by
        rw [hone, ← Nat.pow_add, show 89 + (bits - 89) = bits by omega]
      _ < 2 * 5 ^ (39 : Nat) * 2 ^ (bits - 89) :=
        Nat.mul_lt_mul_of_pos_right (by decide) (Nat.two_pow_pos _)
      _ = 2 * (5 ^ (39 : Nat) * 2 ^ (bits - 89)) := Nat.mul_assoc _ _ _
  · exact h

/-- Half a step of the last significant digit, as a mark. -/
theorem half_step {count : Nat} {e : Int} {places : Nat}
    (hplaces : (places : Int) = visiblePlaces + e - count) :
    (10 : ℚ) ^ (e - count + 1) =
      2 * (((5 * 10 ^ places : Nat) : ℚ) * 10 ^ (-visiblePlaces : Int)) := by
  have hten : 2 * (5 * 10 ^ places) = 10 ^ (places + 1) := by
    rw [Nat.pow_succ]
    omega
  calc
    (10 : ℚ) ^ (e - count + 1) = ((10 ^ (places + 1) : Nat) : ℚ) * 10 ^ (-visiblePlaces : Int) :=
      (cast_pow_mul_zpow (by omega)).symm
    _ = 2 * (((5 * 10 ^ places : Nat) : ℚ) * 10 ^ (-visiblePlaces : Int)) := by
      rw [← hten, Nat.cast_mul, Nat.cast_ofNat, mul_assoc]

/-- From 10^-41 on a double and its visible places are nearest to the same steps of up to 21
significant digits. -/
theorem nearSteps_visibleValue (hm : Magnitude.one ≤ m.units * 10 ^ (41 : Nat)) {count k : Nat}
    {e : Int} (hcount : count ≤ 21) (he : -41 ≤ e) (h : NearSteps count e k m.value) :
    NearSteps count e k (visibleValue m) := by
  have hvisible : visiblePlaces = 100 := rfl
  obtain ⟨places, hplaces⟩ : ∃ places : Nat, (places : Int) = visiblePlaces + e - count :=
    ⟨(visiblePlaces + e - count).toNat, by omega⟩
  have hstep := half_step hplaces
  have hpos := ten_zpow_pos (-visiblePlaces : Int)
  have hleast := h.least
  have hlow := h.low
  have hhigh := h.high
  rw [hstep] at hlow hhigh
  have hmul : ∀ j : Nat, (j : ℚ) * (((5 * 10 ^ places : Nat) : ℚ) * 10 ^ (-visiblePlaces : Int)) =
      ((j * (5 * 10 ^ places) : Nat) : ℚ) * 10 ^ (-visiblePlaces : Int) := by
    intro j
    rw [Nat.cast_mul j, mul_assoc]
  constructor
  · rw [← cast_pow_mul_zpow (k := (e + visiblePlaces).toNat) (y := (-visiblePlaces : Int))
      (z := e) (by omega)] at hleast ⊢
    exact mark_le_visibleValue hleast
  · rw [hstep]
    -- the mark half a step below the steps; below no steps there is none
    cases k with
    | zero =>
        have hvisible : 0 ≤ visibleValue m := mul_nonneg (Nat.cast_nonneg _) hpos.le
        have hhalf : (0 : ℚ) ≤ ((5 * 10 ^ places : Nat) : ℚ) * 10 ^ (-visiblePlaces : Int) :=
          mul_nonneg (Nat.cast_nonneg _) hpos.le
        rw [Nat.cast_zero, zero_mul, mul_zero]
        linarith
    | succ k =>
        have hmark := @mark_le_visibleValue m ((2 * k + 1) * (5 * 10 ^ places))
        rw [← hmul] at hmark
        push_cast at hlow hmark ⊢
        linarith [hmark (by linarith)]
  · rw [hstep]
    -- the mark half a step above them
    have hfives : 5 ^ (39 : Nat) ∣ (2 * k + 1) * (5 * 10 ^ places) := by
      have hsplit : 5 * 10 ^ places = 5 ^ (places + 1) * 2 ^ places := by
        rw [show 10 = 5 * 2 by rfl, Nat.mul_pow, Nat.pow_succ]
        ring
      rw [hsplit]
      exact Nat.dvd_trans (Nat.dvd_trans (Nat.pow_dvd_pow 5 (by omega)) (Nat.dvd_mul_right _ _))
        (Nat.dvd_mul_left _ _)
    have hmark := visibleValue_lt_mark hm hfives
    rw [← hmul] at hmark
    push_cast at hhigh hmark ⊢
    linarith [hmark (by linarith)]

end Double

end ScriptValues
