import ScriptValues.Proofs.DecimalValue

/-!
The search for the shortest digits ends. Among the decimals with seventeen digits one always lies
close enough to a magnitude to read back, so the search stops at the first number of digits with
which one does.
-/

namespace ScriptValues

namespace Magnitude

theorem readsBack_of_lt {m : Magnitude} {steps : Nat} {place : Int}
    (hlow : (2 * m.units - gap (m.units - 1)) * 10 ^ (-place).toNat < 2 * steps * placeDen place)
    (hhigh : 2 * steps * placeDen place < (2 * m.units + gap m.units) * 10 ^ (-place).toNat) :
    m.readsBack steps place = true := by
  unfold readsBack
  split <;> simp <;> omega

theorem placeDen_pos (place : Int) : 0 < placeDen place :=
  Nat.mul_pos one_pos (Nat.pow_pos (by decide))

/-- A magnitude counts ten times as many steps one place further down. -/
theorem placeNum_mul_placeDen (m : Magnitude) (place : Int) (places : Nat) :
    m.placeNum place * placeDen (place + places) =
      10 ^ places * (m.placeNum (place + places) * placeDen place) := by
  have hpow : 10 ^ (-place).toNat * 10 ^ (place + places).toNat =
      10 ^ places * (10 ^ (-(place + places)).toNat * 10 ^ place.toNat) := by
    simp only [← Nat.pow_add]
    congr 1
    omega
  unfold placeNum placeDen
  calc
    m.units * 10 ^ (-place).toNat * (one * 10 ^ (place + places).toNat)
      = m.units * one * (10 ^ (-place).toNat * 10 ^ (place + places).toNat) := by ring
    _ = 10 ^ places *
        (m.units * 10 ^ (-(place + places)).toNat * (one * 10 ^ place.toNat)) := by
      rw [hpow]
      ring

/-- The first digit of a magnitude stands at its decimal exponent. -/
theorem decimalExponent_bounds {m : Magnitude} (hm : 0 < m.units) :
    placeDen m.decimalExponent ≤ m.placeNum m.decimalExponent ∧
      m.placeNum m.decimalExponent < 10 * placeDen m.decimalExponent := by
  obtain ⟨start, hstart, hleast⟩ :
      ∃ start : Int, start = -324 ∧ placeDen start ≤ 10 ^ (-start).toNat :=
    ⟨-324, rfl, by decide +kernel⟩
  have hvisible : placeDen start ≤ m.placeNum start :=
    Nat.le_trans hleast (Nat.le_mul_of_pos_left _ hm)
  have hpos := placeDen_pos start
  have hwhole := Nat.div_pos hvisible hpos
  have hlower := Numeral.pow_length_digits_le (by decide : 2 ≤ 10) hwhole
  have hupper := Numeral.lt_pow_length_digits (by decide : 2 ≤ 10)
    (m.placeNum start / placeDen start)
  have hlen := Numeral.length_digits_pos (by decide : 2 ≤ 10) hwhole
  rw [Nat.le_div_iff_mul_le hpos] at hlower
  rw [Nat.div_lt_iff_lt_mul hpos] at hupper
  rw [decimalExponent, ← hstart]
  generalize (Numeral.digits 10 (m.placeNum start / placeDen start)).length = len at *
  obtain ⟨places, rfl⟩ : ∃ places, len = places + 1 := ⟨len - 1, by omega⟩
  rw [Nat.add_sub_cancel] at hlower
  rw [show ((places + 1 : Nat) : Int) - 325 = start + places by omega]
  have hshift := m.placeNum_mul_placeDen start places
  have hfactor : 0 < 10 ^ places * placeDen start := Nat.mul_pos (Nat.pow_pos (by decide)) hpos
  constructor
  · apply Nat.le_of_mul_le_mul_left _ hfactor
    calc
      10 ^ places * placeDen start * placeDen (start + places)
        ≤ m.placeNum start * placeDen (start + places) := Nat.mul_le_mul_right _ hlower
      _ = 10 ^ places * placeDen start * m.placeNum (start + places) := by
        rw [hshift]
        ring
  · apply Nat.lt_of_mul_lt_mul_left (a := 10 ^ places * placeDen start)
    calc
      10 ^ places * placeDen start * m.placeNum (start + places)
        = m.placeNum start * placeDen (start + places) := by
          rw [hshift]
          ring
      _ < 10 ^ (places + 1) * placeDen start * placeDen (start + places) :=
        Nat.mul_lt_mul_of_pos_right hupper (placeDen_pos _)
      _ = 10 ^ places * placeDen start * (10 * placeDen (start + places)) := by
        rw [Nat.pow_succ]
        ring

/-- A step of the seventeenth digit is smaller than the gap below a magnitude. -/
theorem placeDen_lt_gap {m : Magnitude} (hm : 0 < m.units) :
    placeDen (m.decimalExponent - 16) <
      gap (m.units - 1) * 10 ^ (-(m.decimalExponent - 16)).toNat := by
  have hfirst := (decimalExponent_bounds hm).1
  have hshift := m.placeNum_mul_placeDen (m.decimalExponent - 16) 16
  rw [show m.decimalExponent - 16 + ((16 : Nat) : Int) = m.decimalExponent by omega] at hshift
  have hunits := lt_mul_gap (m.units - 1)
  have hexponent := placeDen_pos m.decimalExponent
  generalize m.decimalExponent - 16 = place at *
  have hsteps : 10 ^ (16 : Nat) * placeDen place ≤ m.placeNum place := by
    apply Nat.le_of_mul_le_mul_right _ hexponent
    rw [hshift, Nat.mul_assoc, Nat.mul_comm (placeDen place)]
    exact Nat.mul_le_mul_left _ (Nat.mul_le_mul_right _ hfirst)
  have hgap : 0 < gap (m.units - 1) * 10 ^ (-place).toNat :=
    Nat.mul_pos (gap_pos _) (Nat.pow_pos (by decide))
  apply Nat.lt_of_mul_lt_mul_left (a := 10 ^ (16 : Nat))
  calc
    10 ^ (16 : Nat) * placeDen place ≤ m.units * 10 ^ (-place).toNat := hsteps
    _ ≤ 2 ^ (53 : Nat) * gap (m.units - 1) * 10 ^ (-place).toNat :=
      Nat.mul_le_mul_right _ (by omega)
    _ = 2 ^ (53 : Nat) * (gap (m.units - 1) * 10 ^ (-place).toNat) := Nat.mul_assoc _ _ _
    _ < 10 ^ (16 : Nat) * (gap (m.units - 1) * 10 ^ (-place).toNat) :=
      Nat.mul_lt_mul_of_pos_right (by decide) hgap

/-- Of the decimals with seventeen digits, the nearest one reads back. -/
theorem readsBack_seventeen {m : Magnitude} (hm : 0 < m.units) (tie : Tie) :
    m.readsBack
      (roundDiv tie (m.placeNum (m.decimalExponent - 16)) (placeDen (m.decimalExponent - 16)))
      (m.decimalExponent - 16) = true := by
  have hstep := placeDen_lt_gap hm
  generalize m.decimalExponent - 16 = place at *
  obtain ⟨hlow, hhigh⟩ := @roundDiv_near tie (m.placeNum place) _ (placeDen_pos place)
  generalize roundDiv tie (m.placeNum place) (placeDen place) = steps at *
  have hgap : gap (m.units - 1) * 10 ^ (-place).toNat ≤ gap m.units * 10 ^ (-place).toNat :=
    Nat.mul_le_mul_right _ (Nat.le_of_dvd (gap_pos _) (gap_pred_dvd _))
  have hunits : gap (m.units - 1) * 10 ^ (-place).toNat ≤ m.units * 10 ^ (-place).toNat :=
    Nat.mul_le_mul_right _ (gap_pred_le hm m.onGrid)
  rw [placeNum] at hlow hhigh
  apply readsBack_of_lt
  · simp only [Nat.sub_mul, Nat.mul_assoc]
    omega
  · simp only [Nat.add_mul, Nat.mul_assoc]
    omega

theorem shortestWith?_seventeen {m : Magnitude} (hm : 0 < m.units) (tie : Tie) :
    (m.shortestWith? tie 17).isSome := by
  have hplace : m.decimalExponent - (17 : Nat) + 1 = m.decimalExponent - 16 := by omega
  have hreads := readsBack_seventeen hm tie
  unfold shortestWith?
  simp only [hplace, hreads, if_true, Option.isSome_some]

/-- The search ends at the first number of digits that it accepts. -/
theorem exists_shortestWith? {m : Magnitude} (hm : 0 < m.units) (tie : Tie) :
    ∃ count, 1 ≤ count ∧ count ≤ 17 ∧ m.shortestWith? tie count = some (m.shortest tie) ∧
      ∀ fewer, 1 ≤ fewer → fewer < count → m.shortestWith? tie fewer = none := by
  have hfound : ((List.range' 1 17).findSome? (m.shortestWith? tie)).isSome :=
    List.findSome?_isSome_iff.2 ⟨17, by simp, shortestWith?_seventeen hm tie⟩
  obtain ⟨d, hd⟩ := Option.isSome_iff_exists.1 hfound
  obtain ⟨before, count, later, hsplit, hcount, hnone⟩ := List.findSome?_eq_some_iff.1 hd
  have hmem : count ∈ List.range' 1 17 := by simp [hsplit]
  have hsorted : (before ++ count :: later).Pairwise (· < ·) := by
    rw [← hsplit]
    exact List.pairwise_lt_range' 1
  obtain ⟨hleast, hmost⟩ := List.mem_range'_1.1 hmem
  refine ⟨count, hleast, by omega, ?_, ?_⟩
  · rw [shortest, if_neg (by omega), hd, Option.getD_some, hcount]
  · intro fewer hpos hfewer
    have hrange : fewer ∈ before ++ count :: later := by
      rw [← hsplit]
      exact List.mem_range'_1.2 ⟨hpos, by omega⟩
    rcases List.mem_append.1 hrange with hbefore | hlater
    · exact hnone fewer hbefore
    · rcases List.mem_cons.1 hlater with rfl | hlater
      · exact absurd hfewer (Nat.lt_irrefl _)
      · have hpast := (List.pairwise_cons.1 (List.pairwise_append.1 hsorted).2.1).1 fewer hlater
        omega

end Magnitude

end ScriptValues
