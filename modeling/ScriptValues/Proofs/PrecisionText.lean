import ScriptValues.Proofs.DecimalGrammar
import ScriptValues.Proofs.VisibleDigits

/-!
Doubles with a number of significant digits. The text shows the visible digits of the double,
rounded to so many. From 10^-41 on these are the significant digits of the double itself; further
down digits are lost, and in the end all of them.
-/

namespace ScriptValues

namespace DecimalLiteral

/-- A text is a literal of a number. -/
def Reads (cs : List Char) (v : ℚ) : Prop :=
  ∃ literal, scan? cs = some (literal, []) ∧ literal.exact = v

theorem Reads.unique {cs : List Char} {v w : ℚ} (hv : Reads cs v) (hw : Reads cs w) : v = w := by
  obtain ⟨literal, hscan, rfl⟩ := hv
  obtain ⟨literal', hscan', rfl⟩ := hw
  rw [hscan, Option.some.injEq, Prod.mk.injEq] at hscan'
  rw [hscan'.1]

/-- A text is a literal with this sign and these digits, of a number with that sign. -/
def ReadsAs (cs : List Char) (negative : Bool) (ds : List Nat) (v : ℚ) : Prop :=
  ∃ literal, scan? cs = some (literal, []) ∧ literal.negative = negative ∧
    literal.whole ++ literal.fraction = ds ∧ literal.exact = v

theorem ReadsAs.reads {cs : List Char} {negative : Bool} {ds : List Nat} {v : ℚ}
    (h : ReadsAs cs negative ds v) : Reads cs v := by
  obtain ⟨literal, hscan, -, -, hvalue⟩ := h
  exact ⟨literal, hscan, hvalue⟩

end DecimalLiteral

namespace Decimal

open DecimalLiteral

variable {count n : Nat} {e : Int}

/-- Digits with a point, and an exponent if there is one, are a literal of their value, with a sign
in front or without. -/
theorem readsAs_withPoint {ds : List Nat} (hnil : ds ≠ []) (hds : ∀ d ∈ ds, d < 10) {whole : Nat}
    (hwhole : 0 < whole) {tail : List Char} {exponent : Int}
    (htail : tail = [] ∧ exponent = 0 ∨ tail = 'e' :: (if exponent < 0 then '-' else '+') ::
      Numeral.natChars 10 exponent.natAbs) (negative : Bool) :
    ReadsAs (Double.signed negative (withPoint ds whole ++ tail)) negative ds
      (Numeral.value 10 ds * 10 ^ (exponent - (ds.length - whole : Nat))) := by
  have hscan : scanExponent tail = (exponent, []) := by
    rcases htail with ⟨rfl, rfl⟩ | rfl
    · rfl
    · exact scanExponent_sign exponent
  have hstop : Numeral.StopsDigits 10 tail ∧ tail.head? ≠ some '.' := by
    rcases htail with ⟨rfl, rfl⟩ | rfl
    · exact ⟨Numeral.stopsDigits_nil 10, by simp⟩
    · exact ⟨Numeral.stopsDigits_cons (by decide) _, by simp⟩
  have hread := scan?_withPoint hnil hds hwhole hstop.1 hstop.2 negative
  rw [hscan] at hread
  refine ⟨_, hread, rfl, List.take_append_drop whole ds, ?_⟩
  rw [DecimalLiteral.exact, List.take_append_drop, List.length_drop]

theorem reads_withPoint {ds : List Nat} (hnil : ds ≠ []) (hds : ∀ d ∈ ds, d < 10) {whole : Nat}
    (hwhole : 0 < whole) {tail : List Char} {exponent : Int}
    (htail : tail = [] ∧ exponent = 0 ∨ tail = 'e' :: (if exponent < 0 then '-' else '+') ::
      Numeral.natChars 10 exponent.natAbs) :
    Reads (withPoint ds whole ++ tail)
      (Numeral.value 10 ds * 10 ^ (exponent - (ds.length - whole : Nat))) :=
  (readsAs_withPoint hnil hds hwhole htail false).reads

theorem readsAs_exponentialChars {d : Decimal} (hd : d.WellFormed) (negative : Bool) :
    ReadsAs (Double.signed negative d.exponentialChars) negative d.digits d.number := by
  have hlen := List.length_pos_iff.2 hd.nonempty
  have hread := readsAs_withPoint hd.nonempty hd.lt_ten Nat.one_pos
    (Or.inr rfl : _ ∨ _ = 'e' :: (if d.exponent < 0 then '-' else '+') :: _) negative
  rw [number, place, show d.exponent + 1 - d.digits.length =
    d.exponent - (d.digits.length - 1 : Nat) by omega]
  exact hread

theorem reads_exponentialChars {d : Decimal} (hd : d.WellFormed) :
    Reads d.exponentialChars d.number :=
  (readsAs_exponentialChars hd false).reads

theorem reads_positionalChars {d : Decimal} (hd : d.WellFormed) :
    Reads d.positionalChars d.number := by
  have hlen := List.length_pos_iff.2 hd.nonempty
  unfold positionalChars
  split
  · next hexponent =>
    have hlt : ∀ digit ∈ d.digits ++
        List.replicate (d.exponent.toNat + 1 - d.digits.length) 0, digit < 10 :=
      List.forall_mem_append.2 ⟨hd.lt_ten, Numeral.zeros_lt (by decide) _⟩
    have hread := reads_withPoint (by simp [hd.nonempty]) hlt (Nat.succ_pos d.exponent.toNat)
      (Or.inl ⟨rfl, rfl⟩)
    rw [List.append_nil, Numeral.value_append_zeros, Nat.cast_mul, mul_assoc,
      cast_pow_mul_zpow (z := d.place)] at hread
    · exact hread
    · rw [place, List.length_append, List.length_replicate]
      omega
  · next hexponent =>
    have hlt : ∀ digit ∈ List.replicate (-d.exponent).toNat 0 ++ d.digits, digit < 10 :=
      List.forall_mem_append.2 ⟨Numeral.zeros_lt (by decide) _, hd.lt_ten⟩
    have hread := reads_withPoint (by simp [hd.nonempty]) hlt Nat.one_pos (Or.inl ⟨rfl, rfl⟩)
    rw [List.append_nil, Numeral.value_zeros_append] at hread
    rw [number, show d.place = 0 - ((List.replicate (-d.exponent).toNat 0 ++ d.digits).length - 1 :
      Nat) by rw [place, List.length_append, List.length_replicate]; omega]
    exact hread

/-- The text with `count` significant digits: exponential notation below exponent -6 and from
`count` on, and otherwise the digits in their places. -/
def precisionText (count n : Nat) (e : Int) : List Char :=
  let cs := Numeral.fixedWidth count n
  if e < -6 ∨ count ≤ e then exponentialText count n e
  else if 0 ≤ e then
    let whole := e.toNat + 1
    cs.take whole ++ if whole < count then '.' :: cs.drop whole else []
  else '0' :: '.' :: List.replicate (-e - 1).toNat '0' ++ cs

theorem positionalChars_of_nonneg {d : Decimal} (hexponent : 0 ≤ d.exponent)
    (hmost : d.exponent < d.digits.length) :
    d.positionalChars = (digitChars d.digits).take (d.exponent.toNat + 1) ++
      if d.exponent.toNat + 1 < d.digits.length then
        '.' :: (digitChars d.digits).drop (d.exponent.toNat + 1)
      else [] := by
  have hfill : d.exponent.toNat + 1 - d.digits.length = 0 := by omega
  rw [positionalChars, if_pos hexponent]
  dsimp only
  rw [hfill, List.replicate_zero, List.append_nil, withPoint_eq rfl]

theorem positionalChars_of_neg {d : Decimal} (hexponent : d.exponent < 0)
    (hnil : d.digits ≠ []) :
    d.positionalChars =
      '0' :: '.' :: List.replicate (-d.exponent - 1).toNat '0' ++ digitChars d.digits := by
  have hlen := List.length_pos_iff.2 hnil
  have hzero : Numeral.digitChar 0 = '0' := by decide
  have hzeros : (-d.exponent).toNat = (-d.exponent - 1).toNat + 1 := by omega
  have hpoint : 1 < (List.replicate (-d.exponent - 1).toNat 0 ++ d.digits).length + 1 := by
    rw [List.length_append]
    omega
  rw [positionalChars, if_neg (by omega), hzeros, List.replicate_succ, List.cons_append,
    withPoint_eq rfl, List.length_cons, if_pos hpoint, digitChars, List.map_cons, hzero,
    List.map_append, List.map_replicate, hzero]
  rfl

/-- The layout that is chosen for significant digits. -/
theorem precisionText_eq (hcount : 0 < count) (hn : n < 10 ^ count) (e : Int) :
    precisionText count n e =
      if e < -6 ∨ count ≤ e then
        exponentialChars ⟨Numeral.padded count (Numeral.digits 10 n), e⟩
      else positionalChars ⟨Numeral.padded count (Numeral.digits 10 n), e⟩ := by
  have hlen := length_padded_digits hn
  rw [precisionText]
  split
  · exact (exponentialChars_eq hn e).symm
  · next hplain =>
    split
    · next hnonneg =>
      have hmost : e < (Numeral.padded count (Numeral.digits 10 n)).length := by omega
      rw [positionalChars_of_nonneg hnonneg hmost, hlen]
      rfl
    · next hneg =>
      rw [positionalChars_of_neg (Int.lt_of_not_ge hneg)
        (List.ne_nil_of_length_pos (Nat.lt_of_lt_of_eq hcount hlen.symm))]
      rfl

theorem wellFormed_padded (hcount : 0 < count) (hn : n < 10 ^ count) (e : Int) :
    (⟨Numeral.padded count (Numeral.digits 10 n), e⟩ : Decimal).WellFormed where
  nonempty := List.ne_nil_of_length_pos (by rw [length_padded_digits hn]; exact hcount)
  lt_ten := Numeral.padded_lt (by decide) fun _ hd => Numeral.digits_lt (by decide) hd

theorem number_padded (hn : n < 10 ^ count) (e : Int) :
    (⟨Numeral.padded count (Numeral.digits 10 n), e⟩ : Decimal).number = scaled count n e := by
  rw [number, place, length_padded_digits hn, Numeral.value_padded,
    Numeral.value_digits (by decide), scaled]
  congr 2
  dsimp only
  omega

/-- The text reads as the number that it shows. -/
theorem reads_precisionText (hcount : 0 < count) (hn : n < 10 ^ count) (e : Int) :
    Reads (precisionText count n e) (scaled count n e) := by
  rw [precisionText_eq hcount hn e, ← number_padded hn e]
  split
  · exact reads_exponentialChars (wellFormed_padded hcount hn e)
  · exact reads_positionalChars (wellFormed_padded hcount hn e)

end Decimal

namespace Double

open Decimal
open Magnitude (value_eq_zero_iff)

variable {m : Magnitude}

/-- The significant digits and the exponent that a magnitude shows: those of its visible places. A
magnitude of which nothing is visible shows zeros, with an exponent above all places. -/
def IsShown (count : Nat) (m : Magnitude) (n : Nat) (e : Int) : Prop :=
  if 0 < m.units ∧ visibleSteps m = 0 then n = 0 ∧ e = visiblePlaces + 1
  else IsWritten count (visibleValue m) n e

theorem visibleSteps_of_zero (hzero : m.units = 0) : visibleSteps m = 0 := by
  rw [visibleSteps, hzero, Nat.zero_mul,
    roundDiv_of_mod_eq_zero _ Magnitude.one_pos (Nat.zero_mod _), Nat.zero_div]

theorem visibleValue_eq_zero_iff : visibleValue m = 0 ↔ visibleSteps m = 0 := by
  rw [visibleValue, mul_eq_zero, Nat.cast_eq_zero]
  exact or_iff_left (ten_zpow_pos _).ne'

theorem significant_of_invisible {count : Nat} (hcount : 0 < count) (hm : 0 < m.units)
    (hsteps : visibleSteps m = 0) :
    significant count m =
      ⟨Numeral.padded count (Numeral.digits 10 0), visiblePlaces + 1⟩ := by
  rw [significant, if_neg hm.ne', visibleDecimal_eq, hsteps, if_pos (Numeral.digits_zero 10),
    roundDecimal_zeros hcount]

theorem significant_of_visible {count : Nat} (hcount : 0 < count) (hm : 0 < m.units)
    (hsteps : visibleSteps m ≠ 0) :
    ∃ n e, IsRounding count (visibleValue m) n e ∧
      significant count m = ⟨Numeral.padded count (Numeral.digits 10 n), e⟩ := by
  obtain ⟨hnormalized, hvalue⟩ := visibleDecimal_normalized hsteps
  obtain ⟨k, n, e, hnear, hall, hround⟩ := exists_nearSteps hnormalized hcount
  rw [hvalue] at hnear
  exact ⟨n, e, hall _ hnear, by rw [significant, if_neg hm.ne', hround]⟩

theorem isShown_of_zero (hzero : m.units = 0) (count n : Nat) (e : Int) :
    IsShown count m n e ↔ n = 0 ∧ e = 0 := by
  have hvalue : visibleValue m = 0 := visibleValue_eq_zero_iff.2 (visibleSteps_of_zero hzero)
  rw [IsShown, if_neg fun h => h.1.ne' hzero, IsWritten, if_pos hvalue]

/-- What is visible is rounded. -/
theorem isShown_iff_isRounding (hsteps : visibleSteps m ≠ 0) (count n : Nat) (e : Int) :
    IsShown count m n e ↔ IsRounding count (visibleValue m) n e := by
  rw [IsShown, if_neg fun h => hsteps h.2, IsWritten, if_neg (mt visibleValue_eq_zero_iff.1 hsteps)]

/-- The significant digits and the exponent are those that the magnitude shows. -/
theorem exists_significant (m : Magnitude) {count : Nat} (hcount : 0 < count) :
    ∃ n e, n < 10 ^ count ∧ (∀ n' e', IsShown count m n' e' ↔ n' = n ∧ e' = e) ∧
      significant count m = ⟨Numeral.padded count (Numeral.digits 10 n), e⟩ := by
  have hpow : 0 < 10 ^ count := Nat.pow_pos (by decide)
  rcases Nat.eq_zero_or_pos m.units with hzero | hm
  · refine ⟨0, 0, hpow, isShown_of_zero hzero count, ?_⟩
    rw [significant, if_pos hzero, Numeral.padded_digits_zero]
  · by_cases hsteps : visibleSteps m = 0
    · refine ⟨0, visiblePlaces + 1, hpow, fun n' e' => ?_,
        significant_of_invisible hcount hm hsteps⟩
      rw [IsShown, if_pos ⟨hm, hsteps⟩]
    · obtain ⟨n, e, hrounding, hdecimal⟩ := significant_of_visible hcount hm hsteps
      refine ⟨n, e, hrounding.hasDigits.2, fun n' e' => ?_, hdecimal⟩
      rw [IsShown, if_neg fun h => hsteps h.2]
      exact hrounding.isWritten_iff hcount (mt visibleValue_eq_zero_iff.1 hsteps)

theorem one_le_of_le_value (h : 10 ^ (-41 : Int) ≤ m.value) :
    Magnitude.one ≤ m.units * 10 ^ (41 : Nat) := by
  have hmark : ((10 ^ (59 : Nat) : Nat) : ℚ) * 10 ^ (-visiblePlaces : Int) = 10 ^ (-41 : Int) :=
    cast_pow_mul_zpow (by decide)
  rw [← hmark, mark_le_value_iff, show visiblePlaces = 41 + 59 by rfl, Nat.pow_add,
    ← Nat.mul_assoc, Nat.mul_comm (10 ^ 59)] at h
  exact Nat.le_of_mul_le_mul_right h (Nat.pow_pos (by decide))

/-- From 10^-41 on, a magnitude shows what it is written with. -/
theorem isShown_of_isWritten (hm : m.value = 0 ∨ 10 ^ (-41 : Int) ≤ m.value) {count : Nat}
    (hcount : 0 < count) (hmost : count ≤ 21) {n : Nat} {e : Int}
    (h : IsWritten count m.value n e) : IsShown count m n e := by
  rcases hm with hzero | hlarge
  · rw [IsWritten, if_pos hzero] at h
    exact (isShown_of_zero (value_eq_zero_iff.1 hzero) count n e).2 h
  · have hpositive : m.value ≠ 0 := ((ten_zpow_pos _).trans_le hlarge).ne'
    have hunits : 0 < m.units := Nat.pos_of_ne_zero (mt value_eq_zero_iff.2 hpositive)
    have hone := one_le_of_le_value hlarge
    obtain ⟨hnormalized, hvalue⟩ := exactDecimal_normalized hunits
    obtain ⟨k, n', e', hnear, hall, -⟩ := exists_nearSteps hnormalized hcount
    have hexponent := hnormalized.number_bounds.2
    rw [hvalue] at hnear hexponent
    have hlt := (zpow_lt_zpow_iff_right₀ (by norm_num)).1 (hlarge.trans_lt hexponent)
    have hvisible := nearSteps_visibleValue hone hmost (by omega) hnear
    have hsteps : visibleSteps m ≠ 0 :=
      mt visibleValue_eq_zero_iff.2 ((ten_zpow_pos _).trans_le hvisible.least).ne'
    rw [IsWritten, if_neg hpositive] at h
    obtain ⟨rfl, rfl⟩ := h.unique hcount (hall _ hnear)
    exact (isShown_iff_isRounding hsteps _ _ _).2 (hall _ hvisible)

/-- Significant digits that a magnitude is written with and others that it shows are the same when
their numbers are. -/
theorem eq_of_scaled_eq {count n n' : Nat} {e e' : Int} (hcount : 0 < count)
    (hwritten : IsWritten count m.value n' e') (hshown : IsShown count m n e)
    (h : scaled count n' e' = scaled count n e) : n' = n ∧ e' = e := by
  rcases Nat.eq_zero_or_pos m.units with hzero | hm
  · rw [IsWritten, if_pos (value_eq_zero_iff.2 hzero)] at hwritten
    rw [isShown_of_zero hzero] at hshown
    exact ⟨hwritten.1.trans hshown.1.symm, hwritten.2.trans hshown.2.symm⟩
  · rw [IsWritten, if_neg (mt value_eq_zero_iff.1 hm.ne')] at hwritten
    by_cases hsteps : visibleSteps m = 0
    · rw [IsShown, if_pos ⟨hm, hsteps⟩] at hshown
      -- zeros are shown, and a positive number is not written with them
      have hleast := (scaled_bounds hcount hwritten.hasDigits e').1
      rw [h, hshown.1, scaled, Nat.cast_zero, zero_mul] at hleast
      exact absurd (ten_zpow_pos e') (not_lt.2 hleast)
    · rw [isShown_iff_isRounding hsteps] at hshown
      exact scaled_inj hcount hwritten.hasDigits hshown.hasDigits h

/-- The text with so many significant digits shows these digits and this exponent. -/
def ShowsAs (x : Double) (precision : Int) (n : Nat) (e : Int) : Prop :=
  x.toPrecision (some precision) =
    String.ofList (signed (x.less .zero) (precisionText precision.toNat n e))

theorem showsAs_of_significant (negative : Bool) {precision : Int} (hleast : 1 ≤ precision)
    (hmost : precision ≤ 21) {n : Nat} {e : Int} (hn : n < 10 ^ precision.toNat)
    (h : significant precision.toNat m =
      ⟨Numeral.padded precision.toNat (Numeral.digits 10 n), e⟩) :
    ShowsAs (.finite negative m) precision n e := by
  have hcast : (precision.toNat : Int) = precision := by omega
  rw [ShowsAs, less_zero, precisionText_eq (by omega) hn, hcast, ← h, toPrecision,
    if_neg (by omega), h]

/-- Texts with the same sign that show different numbers differ. -/
theorem scaled_eq_of_showsAs {x : Double} {precision : Int} (hleast : 1 ≤ precision) {n n' : Nat}
    {e e' : Int} (hn : n < 10 ^ precision.toNat) (hn' : n' < 10 ^ precision.toNat)
    (h : ShowsAs x precision n e) (h' : ShowsAs x precision n' e') :
    scaled precision.toNat n e = scaled precision.toNat n' e' := by
  have hcount : 0 < precision.toNat := by omega
  have htext : signed (x.less .zero) (precisionText precision.toNat n e) =
      signed (x.less .zero) (precisionText precision.toNat n' e') := by
    rw [← String.ofList_inj, ← h, ← h']
  have hchars : precisionText precision.toNat n e = precisionText precision.toNat n' e' := by
    cases hsign : x.less .zero with
    | false => rwa [hsign] at htext
    | true =>
        rw [hsign] at htext
        exact (List.cons_eq_cons.1 htext).2
  have hread := reads_precisionText hcount hn e
  rw [hchars] at hread
  exact hread.unique (reads_precisionText hcount hn' e')

/-- A finite double is written with the digits and the exponent of the nearest decimal that has so
many significant digits, the larger one of two, and it shows those of its visible places. The text
with 1 to 21 significant digits is the one it shows. It is the one it is written with exactly when
the two are the same, and from 10^-41 on they are. -/
theorem toPrecision_showsAs (negative : Bool) (m : Magnitude) {precision : Int}
    (hleast : 1 ≤ precision) (hmost : precision ≤ 21) :
    let x := Double.finite negative m
    let count := precision.toNat
    ∃ n e shown exponent,
      (∀ n' e', IsWritten count m.value n' e' ↔ n' = n ∧ e' = e) ∧
      (∀ n' e', IsShown count m n' e' ↔ n' = shown ∧ e' = exponent) ∧
      ShowsAs x precision shown exponent ∧
      (ShowsAs x precision n e ↔ n = shown ∧ e = exponent) ∧
      (m.value = 0 ∨ 10 ^ (-41 : Int) ≤ m.value → n = shown ∧ e = exponent) := by
  intro x count
  have hcount : 0 < count := by omega
  obtain ⟨n, e, hwritten, -⟩ := roundDecimal_exactDecimal m hcount
  obtain ⟨shown, exponent, hbound, hshown, hdecimal⟩ := exists_significant m hcount
  have hn : IsWritten count m.value n e := (hwritten n e).2 ⟨rfl, rfl⟩
  have hshows : ShowsAs x precision shown exponent :=
    showsAs_of_significant negative hleast hmost hbound hdecimal
  refine ⟨n, e, shown, exponent, hwritten, hshown, hshows, ⟨fun hshows' => ?_, ?_⟩,
    fun hlarge => ?_⟩
  · exact eq_of_scaled_eq hcount hn ((hshown shown exponent).2 ⟨rfl, rfl⟩)
      (scaled_eq_of_showsAs hleast hn.lt_pow hbound hshows' hshows)
  · rintro ⟨rfl, rfl⟩
    exact hshows
  · exact (hshown n e).1 (isShown_of_isWritten hlarge hcount (by omega) hn)

/-- One with three significant digits. -/
theorem toPrecision_showsAs_one :
    let m := (Exact.of_lt (by decide : 1 < 2 ^ (53 : Nat))).magnitude
    1 ≤ (3 : Int) ∧ (3 : Int) ≤ 21 ∧ 10 ^ (-41 : Int) ≤ m.value ∧ IsWritten 3 m.value 100 0 ∧
      ShowsAs (.finite false m) 3 100 0 := by
  intro m
  have hvalue : m.value = 1 := by
    rw [Magnitude.value, Exact.magnitude_units, Nat.one_mul,
      div_self (Nat.cast_ne_zero.2 Magnitude.one_pos.ne')]
  have hlarge : (10 : ℚ) ^ (-41 : Int) ≤ m.value := by
    rw [hvalue]
    norm_num
  have hwritten : IsWritten 3 m.value 100 0 := by
    have hnear : NearSteps 3 0 100 m.value := by
      rw [hvalue]
      constructor <;> norm_num
    rw [IsWritten, if_neg (by rw [hvalue]; norm_num)]
    exact hnear.isRounding (by decide) ⟨by decide, by decide⟩ rfl
  obtain ⟨n, e, shown, exponent, hwrittenIff, -, hshows, -, hsame⟩ :=
    toPrecision_showsAs false m (by decide : 1 ≤ (3 : Int)) (by decide)
  obtain ⟨rfl, rfl⟩ := (hwrittenIff 100 0).1 hwritten
  obtain ⟨rfl, rfl⟩ := hsame (.inr hlarge)
  exact ⟨by decide, by decide, hlarge, hwritten, hshows⟩

/-- The least positive double is written with the digit 5 and the exponent -324, and shows the digit
zero with the exponent 101. -/
theorem toPrecision_leastPositive :
    let m := Stored.one.magnitude
    let x := Double.finite false m
    IsWritten 1 m.value 5 (-324) ∧ x.toPrecision (some 1) = "0e+101" ∧
      ¬ ShowsAs x 1 5 (-324) := by
  intro m x
  have hm : 0 < m.units := Nat.one_pos
  have hround : roundDecimal 1 (exactDecimal m) = ⟨[5], -324⟩ := by decide +kernel
  have htext : x.toPrecision (some 1) = "0e+101" := by decide +kernel
  refine ⟨?_, htext, ?_⟩
  · obtain ⟨hnormalized, hvalue⟩ := exactDecimal_normalized hm
    obtain ⟨k, n, e, hnear, hall, hdecimal⟩ := exists_nearSteps hnormalized Nat.one_pos
    rw [hvalue] at hnear
    have hrounding := hall _ hnear
    rw [hround, Decimal.mk.injEq] at hdecimal
    obtain ⟨hdigits, rfl⟩ := hdecimal
    have hn := Numeral.value_digits (by decide : 2 ≤ 10) n
    rw [← Numeral.value_padded 10 1, ← hdigits] at hn
    obtain rfl : n = 5 := hn.symm
    rw [IsWritten, if_neg (mt value_eq_zero_iff.1 hm.ne')]
    exact hrounding
  · rw [ShowsAs, htext]
    decide +kernel

end Double

end ScriptValues
