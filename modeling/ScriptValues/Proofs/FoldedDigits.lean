import ScriptValues.Proofs.IntegerText
import ScriptValues.Proofs.TrailingBits

/-!
Digits put together as doubles, in a base that is a power of two. Up to the first digit that makes
more than 53 bits of them nothing is rounded, that digit is rounded in, and all later ones are lost.
So the sum is the nearest double, except when the first of the digits stand for a number half way
between two doubles that is rounded down, and something follows that should have turned it up.
-/

namespace ScriptValues

namespace NumericText

open Numeral Double Magnitude

variable {bits : Nat} {ds front later : List Nat}

/-- The first digits of a number of more than 53 bits, up to the one that makes them so many. -/
structure FillsDouble (base : Nat) (front : List Nat) : Prop where
  filled : 2 ^ (53 : Nat) ≤ value base front
  before : value base front.dropLast < 2 ^ (53 : Nat)

theorem FillsDouble.foldDigits_eq (h : FillsDouble (2 ^ bits) front) (hbits : bits < 53)
    (hfront : ∀ d ∈ front, d < 2 ^ bits) :
    foldDigits (2 ^ bits) front = .ofNat (value (2 ^ bits) front) := by
  have hbase : 2 ^ bits < 2 ^ (53 : Nat) := Nat.pow_lt_pow_right (by decide) hbits
  obtain ⟨filled, before⟩ := h
  induction front using List.reverseRecOn with
  | nil => exact absurd filled (by simp)
  | append_singleton front d _ =>
      rw [List.dropLast_concat] at before
      have hexact : Exact (value (2 ^ bits) front) := .of_lt before
      have hshifted := Exact.mul_two_pow_of_lt before hbits
      have hfirst := NumericText.foldDigits_eq hbits (fun e he => hfront e (by simp [he])) hexact
      have hdigit : Exact d := .of_lt (Nat.lt_trans (hfront d (by simp)) hbase)
      rw [foldDigits_append_singleton, hfirst, hexact.mul (.of_lt hbase), hshifted.add hdigit,
        value_append_singleton]

/-- Nothing after them counts. -/
theorem FillsDouble.foldDigits_append (h : FillsDouble (2 ^ bits) front) (hbits : bits < 53)
    (hds : ∀ d ∈ front ++ later, d < 2 ^ bits) :
    foldDigits (2 ^ bits) (front ++ later) =
      .ofNat (value (2 ^ bits) front * (2 ^ bits) ^ later.length) := by
  induction later using List.reverseRecOn with
  | nil => 
      simpa using h.foldDigits_eq hbits (by simpa using hds)
  | append_singleton later d ih =>
      have hprev := ih fun e he => hds e (by simp at he ⊢; tauto)
      have hlarge : 2 ^ (53 : Nat) ≤ value (2 ^ bits) front * (2 ^ bits) ^ later.length := 
        Nat.le_trans h.filled (Nat.le_mul_of_pos_right _ (Nat.pow_pos (Nat.two_pow_pos bits)))
      rw [← List.append_assoc, foldDigits_append_singleton, hprev,
        mul_add_digit hlarge hbits (hds d (by simp)), List.length_append, List.length_singleton,
        Nat.pow_succ, Nat.mul_assoc]

/-- Digits that stand for more than 53 bits start with such digits. -/
theorem exists_fillsDouble {base : Nat} (hlarge : 2 ^ (53 : Nat) ≤ value base ds) :
    ∃ front later, ds = front ++ later ∧ FillsDouble base front := by
  induction ds using List.reverseRecOn with
  | nil => exact absurd hlarge (by simp)
  | append_singleton ds d ih =>
      rcases Nat.lt_or_ge (value base ds) (2 ^ (53 : Nat)) with hsmall | hmore
      · exact ⟨ds ++ [d], [], (List.append_nil _).symm, hlarge, by rwa [List.dropLast_concat]⟩
      · obtain ⟨front, later, rfl, hfront⟩ := ih hmore
        exact ⟨front, later ++ [d], List.append_assoc _ _ _, hfront⟩

/-- They are found only once. -/
theorem FillsDouble.unique {base : Nat} (hbase : 0 < base) {front' later' : List Nat}
    (h : FillsDouble base front) (h' : FillsDouble base front')
    (hsame : front ++ later = front' ++ later') : front = front' ∧ later = later' := by
  have hshort : ∀ {first longer : List Nat}, FillsDouble base first →
      FillsDouble base (first ++ longer) → longer = [] := by
    intro first longer hfirst hboth
    induction longer using List.reverseRecOn with
    | nil => rfl
    | append_singleton longer d _ =>
        have hbefore := hboth.before
        rw [← List.append_assoc, List.dropLast_concat] at hbefore
        have := value_le_append hbase first longer
        have := hfirst.filled
        omega
  rcases List.append_eq_append_iff.1 hsame with ⟨longer, rfl, rfl⟩ | ⟨longer, rfl, rfl⟩
  · simp [hshort h h']
  · simp [hshort h' h]

/-- The first digits that fill a double are a half that is rounded down, and the digits after them
stand for more than zero. -/
def LosesTie (base : Nat) (ds : List Nat) : Prop :=
  ∃ front later, ds = front ++ later ∧ FillsDouble base front ∧
    HalfAboveEven (value base front) ∧ 0 < value base later

theorem not_losesTie_of_lt {base : Nat} (hbase : 0 < base) (h : value base ds < 2 ^ (53 : Nat)) :
    ¬ LosesTie base ds := by
  rintro ⟨front, later, rfl, hfront, -⟩
  have := value_le_append hbase front later
  have := hfront.filled
  omega

/-- When the digits put together are the nearest double to what they stand for. -/
theorem foldDigits_eq_ofNat_iff (hpos : 0 < bits) (hbits : bits < 53)
    (hds : ∀ d ∈ ds, d < 2 ^ bits) :
    foldDigits (2 ^ bits) ds = .ofNat (value (2 ^ bits) ds) ↔
      (value (2 ^ bits) ds < 2 ^ (1024 : Nat) → ¬ LosesTie (2 ^ bits) ds) := by
  have hbase := Nat.two_pow_pos bits
  rcases Nat.lt_or_ge (value (2 ^ bits) ds) (2 ^ (53 : Nat)) with hsmall | hlarge
  · apply iff_of_true
    · exact foldDigits_eq hbits hds (.of_lt hsmall)
    · exact fun _ => not_losesTie_of_lt hbase hsmall
  · obtain ⟨front, later, rfl, hfront⟩ := exists_fillsDouble hlarge
    have htail := value_lt_pow (Nat.le_pow hpos) (fun d hd => hds d (List.mem_append_right _ hd))
    have hlost : LosesTie (2 ^ bits) (front ++ later) ↔
        HalfAboveEven (value (2 ^ bits) front) ∧ 0 < value (2 ^ bits) later := by
      constructor
      · rintro ⟨front', later', hsplit, hfront', hhalf⟩
        obtain ⟨rfl, rfl⟩ := hfront.unique hbase hfront' hsplit
        exact hhalf
      · intro hhalf
        exact ⟨front, later, rfl, hfront, hhalf⟩
    rw [hfront.foldDigits_append hbits hds, value_append, hlost]
    rw [← Nat.pow_mul] at htail ⊢
    exact ofNat_mul_two_pow_add_eq_iff hfront.filled htail

/-- The marker of a base in front of a whole number. -/
inductive BaseMarker : List Char → Nat → Prop
  | hexadecimal {c : Char} (h : c = 'x' ∨ c = 'X') : BaseMarker ['0', c] 16
  | octal {c : Char} (h : c = 'o' ∨ c = 'O') : BaseMarker ['0', c] 8
  | binary {c : Char} (h : c = 'b' ∨ c = 'B') : BaseMarker ['0', c] 2

namespace BaseMarker

variable {marker cs : List Char} {base : Nat}

theorem base_mem (h : BaseMarker marker base) : base ∈ [2, 4, 8, 16, 32] := by
  cases h <;> decide

theorem scanBase?_append (h : BaseMarker marker base) (cs : List Char) :
    scanBase? (marker ++ cs) = some (base, cs) := by
  rcases h with (rfl | rfl) | (rfl | rfl) | (rfl | rfl) <;> rfl

theorem not_trimmable (h : BaseMarker marker base) : ∀ c ∈ marker, Text.isTrimmable c = false := by
  intro c hc
  rcases h with (rfl | rfl) | (rfl | rfl) | (rfl | rfl)
  all_goals
    rcases List.mem_pair.1 hc with rfl | rfl <;> decide

theorem scanInfinity?_append (h : BaseMarker marker base) (cs : List Char) :
    scanInfinity? (marker ++ cs) = none := by
  rcases h with _ | _ | _ <;> simp [scanInfinity?, DecimalLiteral.scanSign, infinityWord_eq]

/-- A whole number with a marker, whatever blanks are around it, is read by putting its digits
together. -/
theorem toNumber_of_trim (h : BaseMarker marker base) (hdigits : Spelled base cs ds)
    (hnil : ds ≠ []) {text : List Char} (htext : Text.trim text = marker ++ cs)
    (reader : DecimalReader) : toNumber text reader = foldDigits base ds := by
  have hsome : marker ++ cs ≠ [] := by
    cases h <;> simp
  unfold toNumber
  rw [htext]
  dsimp only
  rw [if_neg hsome, h.scanInfinity?_append, h.scanBase?_append]
  dsimp only
  rw [hdigits.span_eq]
  cases ds with
  | nil => exact absurd rfl hnil
  | cons d ds => rfl

theorem toNumber_append (h : BaseMarker marker base) (hdigits : Spelled base cs ds)
    (hnil : ds ≠ []) : toNumber (marker ++ cs) = foldDigits base ds := by
  have htrim : ∀ c ∈ marker ++ cs, Text.isTrimmable c = false := by
    intro c hc
    rcases List.mem_append.1 hc with hmarker | hdigit
    · exact h.not_trimmable c hmarker
    · exact not_trimmable_of_isDigit (hdigits.isDigit_of_mem c hdigit)
  exact h.toNumber_of_trim hdigits hnil (Text.trim_eq_self htrim) .standard

end BaseMarker

/-- Put together, digits come to the nearest double to the first ones with zeros behind them. -/
theorem FillsDouble.isNearest_foldDigits (h : FillsDouble (2 ^ bits) front) (hbits : bits < 53)
    (hds : ∀ d ∈ front ++ later, d < 2 ^ bits) :
    IsNearest ((value (2 ^ bits) front * (2 ^ bits) ^ later.length : Nat) : ℚ)
      (foldDigits (2 ^ bits) (front ++ later)) :=
  isNearest_natCast_iff.2 (h.foldDigits_append hbits hds)

/-- When digits that are put together come to the nearest double. -/
theorem isNearest_foldDigits_iff (hpos : 0 < bits) (hbits : bits < 53)
    (hds : ∀ d ∈ ds, d < 2 ^ bits) :
    IsNearest (value (2 ^ bits) ds) (foldDigits (2 ^ bits) ds) ↔
      (value (2 ^ bits) ds < 2 ^ (1024 : Nat) → ¬ LosesTie (2 ^ bits) ds) :=
  isNearest_natCast_iff.trans (foldDigits_eq_ofNat_iff hpos hbits hds)

/-- Digits that would also be rounded once are no infinity. -/
theorem isNearest_foldDigits_iff_of_lt (hpos : 0 < bits) (hbits : bits < 53)
    (hds : ∀ d ∈ ds, d < 2 ^ bits) (hsmall : value (2 ^ bits) ds < 2 ^ (127 : Nat)) :
    IsNearest (value (2 ^ bits) ds) (foldDigits (2 ^ bits) ds) ↔ ¬ LosesTie (2 ^ bits) ds := by
  have hless : ∀ top, 127 ≤ top → value (2 ^ bits) ds < 2 ^ top := by
    intro top htop
    apply Nat.lt_of_lt_of_le hsmall
    exact Nat.pow_le_pow_right (by decide) htop
  rw [isNearest_foldDigits_iff hpos hbits hds]
  constructor
  · intro hkept
    apply hkept
    apply hless
    decide
  · intro hkept _
    exact hkept

end NumericText

namespace Value

open NumericText Numeral Double

variable {digits : String} {radix : Value} {base : Nat} {ds : List Nat}

/-- A string of nothing but digits is read to its end. -/
theorem parseInt_digits (hbase : 2 ≤ base) (hle : base ≤ 36) (hradix : radix.toInt32 = base)
    (hdigits : Spelled base digits.toList ds) (hnil : ds ≠ []) :
    (Value.string digits).parseInt radix = integerValue base ds := by
  have hread := (leadingInteger_signed hbase hle hdigits false).integerStart_eq
  rw [if_neg hnil, ← hradix] at hread
  exact hread

/-- A whole number with a base marker and the integer that its digits are without the marker, in
that base, are the same double, unless the first digits that fill a double are a half that is
rounded down and later ones should have turned it up. Then the number without the marker is the
nearest double, and the one with it the nearest double to the first digits with zeros behind. -/
theorem toNumber_marked {marker : String} (hmarker : BaseMarker marker.toList base)
    (hradix : radix.toInt32 = base) (hdigits : Spelled base digits.toList ds) (hnil : ds ≠ []) :
    let marked := (Value.string (marker ++ digits)).toNumber
    let parsed := (Value.string digits).parseInt radix
    (marked = parsed ↔ (Numeral.value base ds < 2 ^ (127 : Nat) → ¬ LosesTie base ds)) ∧
    (Numeral.value base ds < 2 ^ (127 : Nat) →
      IsNearest (Numeral.value base ds) parsed ∧
      (IsNearest (Numeral.value base ds) marked ↔ ¬ LosesTie base ds)) ∧
    ∀ front later, ds = front ++ later → FillsDouble base front →
      IsNearest ((Numeral.value base front * base ^ later.length : Nat) : ℚ) marked := by
  obtain ⟨hbase, hle⟩ := bounds_of_mem hmarker.base_mem
  obtain ⟨bits, hpos, hfew, rfl⟩ := exists_two_pow_of_mem hmarker.base_mem
  intro marked parsed
  have hbits : bits < 53 := by omega
  have hlt := hdigits.lt_base
  have hmarked : marked = foldDigits (2 ^ bits) ds := by
    have hread := hmarker.toNumber_append hdigits hnil
    rw [← String.toList_append] at hread
    exact hread
  have hparsed : parsed = integerValue (2 ^ bits) ds :=
    parseInt_digits hbase hle hradix hdigits hnil
  have hnearest := isNearest_foldDigits_iff_of_lt hpos hbits hlt
  rw [hmarked, hparsed]
  refine ⟨?_, fun hsmall => ?_, ?_⟩
  · rcases Nat.lt_or_ge (Numeral.value (2 ^ bits) ds) (2 ^ (127 : Nat)) with hsmall | hlarge
    · rw [integerValue_of_lt hsmall, ← isNearest_natCast_iff, hnearest hsmall]
      exact ⟨fun hkept _ => hkept, fun hkept => hkept hsmall⟩
    · rw [integerValue_of_le hlarge]
      exact iff_of_true rfl fun hsmall => absurd hsmall (Nat.not_lt.2 hlarge)
  · rw [integerValue_of_lt hsmall]
    exact ⟨isNearest_natCast_iff.2 rfl, hnearest hsmall⟩
  · rintro front later rfl hfront
    exact hfront.isNearest_foldDigits hbits hlt

/-- After 54 binary digits, the last of them the half, one more digit is lost. -/
theorem toNumber_marked_binary :
    let ds := 1 :: List.replicate 52 0 ++ [1, 1]
    let digits := String.ofList (ds.map digitChar)
    BaseMarker "0b".toList 2 ∧ (Value.ofInt 2).toInt32 = 2 ∧ Spelled 2 digits.toList ds ∧
      ds ≠ [] ∧ LosesTie 2 ds ∧
      (Value.string ("0b" ++ digits)).toNumber ≠ (Value.string digits).parseInt (.ofInt 2) := by
  intro ds digits
  have hmarker : BaseMarker "0b".toList 2 := .binary (.inl rfl)
  have hradix : (Value.ofInt 2).toInt32 = 2 := @toInt32_ofInt 2 (by decide)
  have hdigits : Spelled 2 digits.toList ds := by
    rw [String.toList_ofList]
    exact spelled_digitChars (by decide) (by decide)
  have hnil : ds ≠ [] := List.cons_ne_nil _ _
  have hlost : LosesTie 2 ds := by
    refine ⟨1 :: List.replicate 52 0 ++ [1], [1], rfl, ⟨?_, ?_⟩, ?_, ?_⟩ <;> decide
  have hsmall : Numeral.value 2 ds < 2 ^ (127 : Nat) := by decide
  have hsame := (toNumber_marked hmarker hradix hdigits hnil).1
  exact ⟨hmarker, hradix, hdigits, hnil, hlost, fun heq => hsame.1 heq hsmall hlost⟩

/-- Above 2^57 doubles are 32 apart. With a marker 2^57 + 17 is taken for 2^57, half a gap and one
below it, and without one for the nearer double. -/
theorem toNumber_past_half :
    let digits := "200000000000011"
    (Value.string ("0x" ++ digits)).toNumber = .ofNat (2 ^ (57 : Nat)) ∧
      (Value.string digits).parseInt (.ofInt 16) = .ofNat (2 ^ (57 : Nat) + 32) ∧
      (Value.string ("0x" ++ digits)).toNumber ≠ (Value.string digits).parseInt (.ofInt 16) ∧
      ¬ IsNearest ((2 ^ (57 : Nat) + 17 : Nat) : ℚ) (Value.string ("0x" ++ digits)).toNumber := by
  intro digits
  have hmarked : (Value.string ("0x" ++ digits)).toNumber = .ofNat (2 ^ (57 : Nat)) := by
    decide +kernel
  have hparsed : (Value.string digits).parseInt (.ofInt 16) = .ofNat (2 ^ (57 : Nat) + 32) := by
    decide +kernel
  rw [isNearest_natCast_iff, hmarked, hparsed]
  refine ⟨rfl, rfl, ?_, ?_⟩ <;> decide +kernel

/-- In a base that is a power of two the integer that a string of digits is read as is the nearest
double to what the digits stand for, infinity included. The exception are integers from 2^127 on
whose first digits fill a double and are a half that is rounded down, while later ones should have
turned it up. These are read as the nearest double to the first digits with zeros behind. -/
theorem parseInt_exact_radix (hbase : base ∈ [2, 4, 8, 16, 32]) (hradix : radix.toInt32 = base)
    (hdigits : Spelled base digits.toList ds) (hnil : ds ≠ []) :
    let parsed := (Value.string digits).parseInt radix
    (IsNearest (Numeral.value base ds) parsed ↔
      (2 ^ (127 : Nat) ≤ Numeral.value base ds → Numeral.value base ds < 2 ^ (1024 : Nat) →
        ¬ LosesTie base ds)) ∧
    (2 ^ (127 : Nat) ≤ Numeral.value base ds →
      ∀ front later, ds = front ++ later → FillsDouble base front →
        IsNearest ((Numeral.value base front * base ^ later.length : Nat) : ℚ) parsed) := by
  obtain ⟨hleast, hle⟩ := bounds_of_mem hbase
  obtain ⟨bits, hpos, hfew, rfl⟩ := exists_two_pow_of_mem hbase
  intro parsed
  have hbits : bits < 53 := by omega
  have hlt := hdigits.lt_base
  have hparsed : parsed = integerValue (2 ^ bits) ds :=
    parseInt_digits hleast hle hradix hdigits hnil
  rw [hparsed]
  rcases Nat.lt_or_ge (Numeral.value (2 ^ bits) ds) (2 ^ (127 : Nat)) with hsmall | hlarge
  · have hnot := Nat.not_le.2 hsmall
    rw [integerValue_of_lt hsmall]
    constructor
    · exact iff_of_true (isNearest_natCast_iff.2 rfl) fun hlarge => absurd hlarge hnot
    · exact fun hlarge => absurd hlarge hnot
  · rw [integerValue_of_le hlarge]
    constructor
    · rw [isNearest_foldDigits_iff hpos hbits hlt]
      exact ⟨fun hkept _ => hkept, fun hkept => hkept hlarge⟩
    · rintro - front later rfl hfront
      exact hfront.isNearest_foldDigits hbits hlt

/-- In base 16 the digits of 2^1024 are read as infinity. -/
theorem parseInt_exact_radix_infinite :
    let ds := 1 :: List.replicate 256 0
    let digits := String.ofList (ds.map digitChar)
    16 ∈ [2, 4, 8, 16, 32] ∧ (Value.ofInt 16).toInt32 = 16 ∧ Spelled 16 digits.toList ds ∧
      ds ≠ [] ∧ IsNearest (Numeral.value 16 ds) ((Value.string digits).parseInt (.ofInt 16)) ∧
      (Value.string digits).parseInt (.ofInt 16) = .infinite false := by
  intro ds digits
  have hbase : 16 ∈ [2, 4, 8, 16, 32] := by decide
  have hradix : (Value.ofInt 16).toInt32 = 16 := @toInt32_ofInt 16 (by decide)
  have hdigits : Spelled 16 digits.toList ds := by
    rw [String.toList_ofList]
    exact spelled_digitChars (by decide) (by decide +kernel)
  have hnil : ds ≠ [] := List.cons_ne_nil _ _
  have hlarge : 2 ^ (1024 : Nat) ≤ Numeral.value 16 ds := by decide +kernel
  have hnearest := (parseInt_exact_radix hbase hradix hdigits hnil).1.2
    fun _ hfinite => absurd hfinite (Nat.not_lt.2 hlarge)
  refine ⟨hbase, hradix, hdigits, hnil, hnearest, ?_⟩
  rw [isNearest_natCast_iff.1 hnearest]
  decide +kernel

/-- The one at the end of 2^129 + 2^76 + 1 decides the half that the digits before it leave, but it
is lost. -/
theorem parseInt_past_half :
    ¬ IsNearest ((2 ^ (129 : Nat) + 2 ^ (76 : Nat) + 1 : Nat) : ℚ)
      ((Value.string "200000000000010000000000000000001").parseInt (.ofInt 16)) ∧
    IsNearest ((2 ^ (129 : Nat) + 2 ^ (76 : Nat) + 1 : Nat) : ℚ)
      (.ofNat (2 ^ (129 : Nat) + 2 ^ (77 : Nat))) := by
  rw [isNearest_natCast_iff, isNearest_natCast_iff]
  constructor <;> decide +kernel

end Value

end ScriptValues
