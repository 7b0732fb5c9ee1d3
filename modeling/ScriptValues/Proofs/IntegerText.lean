import ScriptValues.Proofs.NearestDouble
import ScriptValues.Proofs.NumberText
import ScriptValues.Proofs.WholeNumber

/-!
What an integer at the start of a text is, part by part, and that reading finds it. Every text has
exactly one such reading in a radix that has digits, and the number is NaN only when no digit is
left. Integers that fit into 127 bits are rounded once.
-/

namespace ScriptValues

namespace Text

/-- The blanks in front of a text are taken off, and no other character. -/
theorem trimStart_append {blanks cs : List Char} (hblanks : ∀ c ∈ blanks, isTrimmable c = true)
    (hcs : ∀ c ∈ cs.head?, isTrimmable c = false) : trimStart (blanks ++ cs) = cs := by
  rw [trimStart, List.dropWhile_append_of_pos hblanks]
  cases cs with
  | nil => rfl
  | cons c cs => rw [List.dropWhile_cons_of_neg (by simp [hcs c rfl])]

theorem exists_blanks (cs : List Char) : ∃ blanks rest, cs = blanks ++ rest ∧
    (∀ c ∈ blanks, isTrimmable c = true) ∧ ∀ c ∈ rest.head?, isTrimmable c = false := by
  refine ⟨_, _, (List.takeWhile_append_dropWhile (p := isTrimmable) (l := cs)).symm,
    fun c hc => List.mem_takeWhile_imp hc, fun c hc => ?_⟩
  have hhead := List.head?_dropWhile_not isTrimmable cs
  rw [Option.mem_def.1 hc] at hhead
  simpa using hhead

end Text

namespace NumericText

open Numeral

/-- The radixes that have digits. Zero stands for no request. -/
def IsRadix (radix : Int) : Prop := radix = 0 ∨ 2 ≤ radix ∧ radix ≤ 36

/-- An optional sign at the start of a text, whether it is a minus, and the text after it. -/
inductive LeadingSign : List Char → Bool → List Char → Prop
  | minus (cs : List Char) : LeadingSign ('-' :: cs) true cs
  | plus (cs : List Char) : LeadingSign ('+' :: cs) false cs
  | absent {cs : List Char} (h : ∀ c ∈ cs.head?, c ≠ '-' ∧ c ≠ '+') : LeadingSign cs false cs

/-- A marker of base sixteen at the start of a text, and the text after it. -/
inductive HexMarked : List Char → List Char → Prop
  | lower (cs : List Char) : HexMarked ('0' :: 'x' :: cs) cs
  | upper (cs : List Char) : HexMarked ('0' :: 'X' :: cs) cs

/-- The base of the digits at the start of a text, and the text after its marker. A marker counts
when no radix or sixteen is requested. -/
inductive LeadingBase (radix : Int) : List Char → Nat → List Char → Prop
  | marked {cs digits : List Char} (hradix : radix = 0 ∨ radix = 16) (h : HexMarked cs digits) :
      LeadingBase radix cs 16 digits
  | decimal {cs : List Char} (hradix : radix = 0) (h : ∀ digits, ¬ HexMarked cs digits) :
      LeadingBase radix cs 10 cs
  | requested {cs : List Char} {base : Nat} (hradix : radix = base) (hbase : 2 ≤ base)
      (hle : base ≤ 36) (h : base = 16 → ∀ digits, ¬ HexMarked cs digits) :
      LeadingBase radix cs base cs

/-- An integer at the start of a text: blanks, an optional sign, a base that may be marked, and
digits as long as there are any. There may be none. -/
inductive LeadingInteger (radix : Int) : List Char → Bool → Nat → List Nat → Prop
  | intro {blanks signed unsigned front rest : List Char} {negative : Bool} {base : Nat}
      {ds : List Nat} (hblanks : ∀ c ∈ blanks, Text.isTrimmable c = true)
      (hsigned : ∀ c ∈ signed.head?, Text.isTrimmable c = false)
      (hsign : LeadingSign signed negative unsigned)
      (hbase : LeadingBase radix unsigned base (front ++ rest)) (hdigits : Spelled base front ds)
      (hrest : StopsDigits base rest) :
      LeadingInteger radix (blanks ++ signed) negative base ds

section Parts

variable {radix : Int} {base : Nat} {negative : Bool} {cs rest : List Char}

theorem LeadingSign.scanSign_eq (h : LeadingSign cs negative rest) :
    DecimalLiteral.scanSign cs = (negative, rest) := by
  cases h with
  | minus => rfl
  | plus => rfl
  | absent hsign =>
      unfold DecimalLiteral.scanSign
      split
      · exact absurd rfl (hsign '-' rfl).1
      · exact absurd rfl (hsign '+' rfl).2
      · rfl

theorem exists_leadingSign (cs : List Char) : ∃ negative rest, LeadingSign cs negative rest := by
  by_cases hminus : ∃ rest, cs = '-' :: rest
  · obtain ⟨rest, rfl⟩ := hminus
    exact ⟨true, rest, .minus rest⟩
  · by_cases hplus : ∃ rest, cs = '+' :: rest
    · obtain ⟨rest, rfl⟩ := hplus
      exact ⟨false, rest, .plus rest⟩
    · refine ⟨false, cs, .absent fun c hc => ?_⟩
      obtain ⟨rest, hrest⟩ := List.head?_eq_some_iff.1 hc
      constructor
      · rintro rfl
        exact hminus ⟨rest, hrest⟩
      · rintro rfl
        exact hplus ⟨rest, hrest⟩

theorem dropHexMarker?_eq_some_iff : dropHexMarker? cs = some rest ↔ HexMarked cs rest := by
  constructor
  · intro h
    unfold dropHexMarker? at h
    split at h
    · cases h
      exact .lower _
    · cases h
      exact .upper _
    · cases h
  · rintro (_ | _) <;> rfl

theorem dropHexMarker?_eq_none (h : ∀ digits, ¬ HexMarked cs digits) :
    dropHexMarker? cs = none := by
  cases hmarker : dropHexMarker? cs with
  | none => rfl
  | some digits => exact absurd (dropHexMarker?_eq_some_iff.1 hmarker) (h digits)

theorem LeadingBase.chooseBase?_eq (h : LeadingBase radix cs base rest) :
    chooseBase? radix cs = some (base, rest) := by
  unfold chooseBase?
  cases h with
  | marked hradix hmarked =>
      rw [if_neg (by omega), if_pos hradix, dropHexMarker?_eq_some_iff.2 hmarked]
  | decimal hradix hplain =>
      rw [if_neg (by omega), if_pos (.inl hradix), dropHexMarker?_eq_none hplain]
      simp [hradix]
  | requested hradix hbase hle hplain =>
      subst hradix
      rw [if_neg (by omega)]
      split
      · next hhex =>
        obtain rfl : base = 16 := by omega
        rw [dropHexMarker?_eq_none (hplain rfl)]
        rfl
      · rw [Int.toNat_natCast]

theorem exists_leadingBase (hradix : IsRadix radix) (cs : List Char) :
    ∃ base rest, LeadingBase radix cs base rest := by
  by_cases hskip : (radix = 0 ∨ radix = 16) ∧ ∃ digits, HexMarked cs digits
  · obtain ⟨hhex, digits, hmarked⟩ := hskip
    exact ⟨16, digits, .marked hhex hmarked⟩
  · rw [not_and, not_exists] at hskip
    rcases hradix with rfl | ⟨hleast, hmost⟩
    · exact ⟨10, cs, .decimal rfl (hskip (.inl rfl))⟩
    · refine ⟨radix.toNat, cs, .requested (by omega) (by omega) (by omega) fun hhex => ?_⟩
      exact hskip (.inr (by omega))

theorem LeadingBase.bounds (h : LeadingBase radix cs base rest) : 2 ≤ base ∧ base ≤ 36 := by
  cases h with
  | marked => decide
  | decimal => decide
  | requested _ hbase hle _ => exact ⟨hbase, hle⟩

/-- Without a base there is no number. -/
theorem integerStart_of_not_isRadix (h : ¬ IsRadix radix) (text : List Char) :
    integerStart text radix = .nan := by
  have hbad : radix ≠ 0 ∧ (radix < 2 ∨ 36 < radix) := by
    rw [IsRadix, not_or, not_and] at h
    omega
  have hnone : ∀ cs, chooseBase? radix cs = none := fun cs => if_pos hbad
  simp only [integerStart, hnone]

end Parts

namespace LeadingInteger

variable {radix : Int} {text : List Char} {negative : Bool} {base : Nat} {ds : List Nat}

theorem bounds (h : LeadingInteger radix text negative base ds) : 2 ≤ base ∧ base ≤ 36 := by
  cases h with
  | intro _ _ _ hbase _ _ => exact hbase.bounds

theorem lt_base (h : LeadingInteger radix text negative base ds) : ∀ d ∈ ds, d < base := by
  cases h with
  | intro _ _ _ _ hdigits _ => exact hdigits.lt_base

/-- The steps of reading find the parts of the integer. -/
theorem scans (h : LeadingInteger radix text negative base ds) :
    ∃ unsigned digits rest,
      DecimalLiteral.scanSign (Text.trimStart text) = (negative, unsigned) ∧
      chooseBase? radix unsigned = some (base, digits) ∧ span base digits = (ds, rest) := by
  cases h with
  | intro hblanks hsigned hsign hbase hdigits hrest =>
      refine ⟨_, _, _, ?_, hbase.chooseBase?_eq, hdigits.span_append hrest⟩
      rw [Text.trimStart_append hblanks hsigned]
      exact hsign.scanSign_eq

/-- So a text starts with one integer only. -/
theorem unique (h : LeadingInteger radix text negative base ds) {negative' : Bool} {base' : Nat}
    {ds' : List Nat} (h' : LeadingInteger radix text negative' base' ds') :
    negative' = negative ∧ base' = base ∧ ds' = ds := by
  obtain ⟨unsigned, digits, rest, hsign, hbase, hdigits⟩ := h.scans
  obtain ⟨unsigned', digits', rest', hsign', hbase', hdigits'⟩ := h'.scans
  obtain ⟨rfl, rfl⟩ := Prod.mk.inj (hsign.symm.trans hsign')
  obtain ⟨rfl, rfl⟩ := Prod.mk.inj (Option.some.inj (hbase.symm.trans hbase'))
  obtain ⟨rfl, rfl⟩ := Prod.mk.inj (hdigits.symm.trans hdigits')
  exact ⟨rfl, rfl, rfl⟩

/-- Reading puts the digits of the integer together. -/
theorem integerStart_eq (h : LeadingInteger radix text negative base ds) :
    integerStart text radix =
      if ds = [] then .nan
      else if negative then (integerValue base ds).neg else integerValue base ds := by
  obtain ⟨unsigned, digits, rest, hsign, hbase, hdigits⟩ := h.scans
  unfold integerStart
  rw [hsign]
  dsimp only
  rw [hbase]
  dsimp only
  rw [hdigits]
  cases ds with
  | nil => rfl
  | cons d ds => rfl

end LeadingInteger

/-- Every text starts with an integer, as far as there is a base for it. -/
theorem exists_leadingInteger {radix : Int} (hradix : IsRadix radix) (text : List Char) :
    ∃ negative base ds, LeadingInteger radix text negative base ds := by
  obtain ⟨blanks, signed, rfl, hblanks, hsigned⟩ := Text.exists_blanks text
  obtain ⟨negative, unsigned, hsign⟩ := exists_leadingSign signed
  obtain ⟨base, digits, hbase⟩ := exists_leadingBase hradix unsigned
  obtain ⟨front, ds, rest, rfl, hdigits, hrest⟩ := exists_spelled base digits
  exact ⟨negative, base, ds, .intro hblanks hsigned hsign hbase hdigits hrest⟩

/-- Digits with a sign in front or without are all of the integer at their start, whatever base is
requested for them. -/
theorem leadingInteger_signed {base : Nat} (hbase : 2 ≤ base) (hle : base ≤ 36) {cs : List Char}
    {ds : List Nat} (h : Spelled base cs ds) (negative : Bool) :
    LeadingInteger base (Double.signed negative cs) negative base ds := by
  have hdigit := h.isDigit_of_mem
  have hplain : base = 16 → ∀ digits, ¬ HexMarked cs digits := by
    rintro rfl digits (_ | _)
    · exact absurd (hdigit 'x' (by simp)) (by decide)
    · exact absurd (hdigit 'X' (by simp)) (by decide)
  have hstart : LeadingBase base cs base (cs ++ []) := by
    rw [List.append_nil]
    exact .requested rfl hbase hle hplain
  cases negative with
  | true =>
      change LeadingInteger base ([] ++ '-' :: cs) true base ds
      apply LeadingInteger.intro (List.forall_mem_nil _) _ (.minus cs) hstart h
        (stopsDigits_nil base)
      intro c hc
      cases hc
      decide
  | false =>
      change LeadingInteger base ([] ++ cs) false base ds
      apply LeadingInteger.intro (List.forall_mem_nil _) _ _ hstart h (stopsDigits_nil base)
      · intro c hc
        exact not_trimmable_of_isDigit (hdigit c (List.mem_of_mem_head? hc))
      · apply LeadingSign.absent
        intro c hc
        exact not_sign_of_isDigit (hdigit c (List.mem_of_mem_head? hc))

end NumericText

namespace Double

variable {x : Double}

theorem mul_ofNat_ne_nan (hx : x ≠ .nan) {b : Nat} (hb : Exact b) (hpos : 0 < b) :
    x.mul (.ofNat b) ≠ .nan := by
  rw [hb.ofNat_eq]
  cases x with
  | nan => exact absurd rfl hx
  | infinite negative =>
      rw [mul, if_neg (hb.units_pos hpos).ne']
      simp
  | finite negative m =>
      rw [mul, nearest]
      split <;> simp

theorem add_ofNat_ne_nan (hx : x ≠ .nan) {d : Nat} (hd : Exact d) : x.add (.ofNat d) ≠ .nan := by
  rw [hd.ofNat_eq]
  cases x with
  | nan => exact absurd rfl hx
  | infinite negative => simp [add]
  | finite negative m =>
      rw [add]
      split
      · simp
      · rw [nearest]
        split <;> simp

theorem ofNat_ne_nan (n : Nat) : ofNat n ≠ .nan := by
  rw [ofNat, nearest]
  split <;> simp

theorem neg_ne_nan (hx : x ≠ .nan) : x.neg ≠ .nan := by
  cases x with
  | nan => exact absurd rfl hx
  | infinite negative => simp [neg]
  | finite negative m => simp [neg]

end Double

namespace NumericText

open Numeral

variable {base : Nat} {ds : List Nat}

/-- Putting digits together never leads to NaN, also not past the largest doubles. -/
theorem foldDigits_ne_nan (hbase : 0 < base) (hle : base ≤ 36) (hds : ∀ d ∈ ds, d < base) :
    foldDigits base ds ≠ .nan := by
  have hexact : Double.Exact base := .of_lt (Nat.lt_of_le_of_lt hle (by decide))
  induction ds using List.reverseRecOn with
  | nil => simp [foldDigits, Double.zero]
  | append_singleton ds d ih =>
      have hd : d < base := hds d (by simp)
      have hfront := ih fun e he => hds e (by simp [he])
      rw [foldDigits_append_singleton]
      apply Double.add_ofNat_ne_nan (Double.mul_ofNat_ne_nan hfront hexact hbase)
      exact .of_lt (Nat.lt_of_lt_of_le hd (Nat.le_trans hle (by decide)))

/-- Small integers are rounded once. -/
theorem integerValue_of_lt (h : value base ds < 2 ^ (127 : Nat)) :
    integerValue base ds = .ofNat (value base ds) :=
  if_pos h

theorem integerValue_of_le (h : 2 ^ (127 : Nat) ≤ value base ds) :
    integerValue base ds = foldDigits base ds :=
  if_neg (Nat.not_lt.2 h)

theorem integerValue_ne_nan (hbase : 0 < base) (hle : base ≤ 36) (hds : ∀ d ∈ ds, d < base) :
    integerValue base ds ≠ .nan := by
  rcases Nat.lt_or_ge (value base ds) (2 ^ (127 : Nat)) with hsmall | hlarge
  · rw [integerValue_of_lt hsmall]
    exact Double.ofNat_ne_nan _
  · rw [integerValue_of_le hlarge]
    exact foldDigits_ne_nan hbase hle hds

theorem integerStart_eq_nan_iff {radix : Int} {text : List Char} {negative : Bool}
    (h : LeadingInteger radix text negative base ds) :
    integerStart text radix = .nan ↔ ds = [] := by
  obtain ⟨hbase, hle⟩ := h.bounds
  have hnumber := integerValue_ne_nan (by omega) hle h.lt_base
  have hneg := Double.neg_ne_nan hnumber
  rw [h.integerStart_eq]
  split
  · next hnil => exact iff_of_true rfl hnil
  · next hnil =>
    apply iff_of_false _ hnil
    split
    · exact hneg
    · exact hnumber

end NumericText

namespace Value

open NumericText Numeral

/-- Reading an integer from a string. The number is NaN exactly without a base or without digits.
Otherwise, when the digits stand for less than 2^127, it is the nearest double to what they stand
for, with its sign, so that a minus in front of zero leaves a negative zero. -/
theorem parseInt_string (s : String) (radix : Value) :
    let answer := (Value.string s).parseInt radix
    (¬ IsRadix radix.toInt32 → answer = .nan) ∧
    (IsRadix radix.toInt32 → ∃ negative base ds,
      LeadingInteger radix.toInt32 s.toList negative base ds) ∧
    ∀ negative base ds, LeadingInteger radix.toInt32 s.toList negative base ds →
      (answer = .nan ↔ ds = []) ∧
      (ds ≠ [] → Numeral.value base ds < 2 ^ (127 : Nat) →
        (∃ x, Double.IsNearest (Numeral.value base ds) x ∧
          answer = if negative then x.neg else x) ∧
        (Numeral.value base ds = 0 →
          answer = if negative then .negativeZero else .zero)) := by
  intro answer
  have hanswer : answer = integerStart s.toList radix.toInt32 := rfl
  refine ⟨fun hbad => ?_, fun hradix => exists_leadingInteger hradix _,
    fun negative base ds hparts => ⟨?_, fun hnil hsmall => ?_⟩⟩
  · rw [hanswer, integerStart_of_not_isRadix hbad]
  · rw [hanswer, integerStart_eq_nan_iff hparts]
  · have hread : answer = if negative then (Double.ofNat (Numeral.value base ds)).neg
        else .ofNat (Numeral.value base ds) := by
      rw [hanswer, hparts.integerStart_eq, if_neg hnil, integerValue_of_lt hsmall]
    refine ⟨⟨_, Double.isNearest_natCast_iff.2 rfl, hread⟩, fun hzero => ?_⟩
    rw [hread, hzero, Double.ofNat_zero]
    rfl

/-- A sign stands in front of the marker, and the integer ends before the first other character. -/
example : (Value.string "\t-0x1Fz").parseInt .undefined = (Double.ofNat 31).neg := by
  decide +kernel

end Value

end ScriptValues
