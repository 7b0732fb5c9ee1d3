import ScriptValues.Proofs.DecimalValue
import ScriptValues.Proofs.IntegerText
import ScriptValues.Proofs.NearestDouble
import ScriptValues.Proofs.RoundedDigits

/-!
What a decimal literal is, part by part, and which number it stands for. The scanner accepts exactly
the texts that start with a literal, takes the longest one, and the value is the exact number of the
literal, rounded to the nearest double.
-/

namespace ScriptValues

namespace Numeral

variable {base : Nat} {front : List Char} {ds : List Nat}

/-- Digits in front of a text join the digits at its start. -/
theorem Spelled.span_front (h : Spelled base front ds) (rest : List Char) :
    span base (front ++ rest) = (ds ++ (span base rest).1, (span base rest).2) := by
  induction h with
  | nil => rfl
  | cons hd _ ih =>
      simp only [span, Prod.mk.injEq] at ih
      simp [span, isDigit, hd, ih]

theorem span_suffix (base : Nat) (cs : List Char) : (span base cs).2 <:+ cs :=
  List.dropWhile_suffix _

theorem Spelled.ne_nil (h : Spelled base front ds) (hnil : ds ≠ []) : front ≠ [] := by
  rintro rfl
  cases h
  exact hnil rfl

end Numeral

namespace NumericText.LeadingSign

variable {cs unsigned front rest : List Char} {negative : Bool}

/-- A sign stays in front when the text goes on. -/
theorem append (h : LeadingSign cs negative unsigned) (hnil : unsigned ≠ []) (rest : List Char) :
    LeadingSign (cs ++ rest) negative (unsigned ++ rest) := by
  cases h with
  | minus => exact .minus _
  | plus => exact .plus _
  | absent hsign =>
      apply LeadingSign.absent
      rwa [List.head?_append_of_ne_nil _ hnil]

/-- A sign in front of a text is in front of the start of it. -/
theorem exists_front (h : LeadingSign cs negative (front ++ rest)) (hnil : front ≠ []) :
    ∃ signed, cs = signed ++ rest ∧ LeadingSign signed negative front := by
  generalize htext : front ++ rest = text at h
  cases h with
  | minus => exact ⟨'-' :: front, by rw [← htext]; rfl, .minus front⟩
  | plus => exact ⟨'+' :: front, by rw [← htext]; rfl, .plus front⟩
  | absent hsign =>
      refine ⟨front, htext.symm, .absent ?_⟩
      rwa [← htext, List.head?_append_of_ne_nil _ hnil] at hsign

theorem length_le (h : LeadingSign cs negative unsigned) : unsigned.length ≤ cs.length := by
  cases h <;> simp

theorem mem (h : LeadingSign cs negative unsigned) {c : Char} (hc : c ∈ cs) :
    c = '-' ∨ c = '+' ∨ c ∈ unsigned := by
  cases h with
  | minus => exact (List.mem_cons.1 hc).imp_right .inr
  | plus => exact .inr (List.mem_cons.1 hc)
  | absent => exact .inr (.inr hc)

end NumericText.LeadingSign

namespace Double

/-- Rounding keeps the sign apart. -/
theorem nearest_eq_signed (negative : Bool) (num den : Nat) :
    nearest negative num den =
      if negative then (nearest false num den).neg else nearest false num den := by
  unfold nearest
  split <;> cases negative <;> rfl

end Double

namespace DecimalLiteral

open Numeral NumericText

/-- Digits with an optional point, one digit at least: the digits before the point and after it. -/
inductive Mantissa : List Char → List Nat → List Nat → Prop
  | whole {cs : List Char} {ds : List Nat} (h : Spelled 10 cs ds) (hnil : ds ≠ []) :
      Mantissa cs ds []
  | pointed {before after : List Char} {ds es : List Nat} (hbefore : Spelled 10 before ds)
      (hafter : Spelled 10 after es) (hnil : ds ≠ [] ∨ es ≠ []) :
      Mantissa (before ++ '.' :: after) ds es

/-- An exponent with an optional sign and one digit at least, or nothing. -/
inductive Exponent : List Char → Int → Prop
  | absent : Exponent [] 0
  | marked {mark : Char} {signed cs : List Char} {negative : Bool} {ds : List Nat}
      (hmark : mark = 'e' ∨ mark = 'E') (hsign : LeadingSign signed negative cs)
      (hdigits : Spelled 10 cs ds) (hnil : ds ≠ []) :
      Exponent (mark :: signed) (if negative then -(Numeral.value 10 ds : Int) else Numeral.value 10 ds)

/-- A text that is one literal from its first character to its last. -/
inductive Spelling : List Char → DecimalLiteral → Prop
  | intro {cs mantissa exponent : List Char} {negative : Bool} {whole fraction : List Nat} {e : Int}
      (hsign : LeadingSign cs negative (mantissa ++ exponent))
      (hmantissa : Mantissa mantissa whole fraction) (hexponent : Exponent exponent e) :
      Spelling cs ⟨negative, whole, fraction, e⟩

section Parts

variable {cs rest : List Char} {whole fraction : List Nat} {e : Int}

theorem Mantissa.ne_nil (h : Mantissa cs whole fraction) : cs ≠ [] := by
  cases h with
  | whole h hnil => exact h.ne_nil hnil
  | pointed => simp

theorem Exponent.stopsDigits (h : Exponent cs e) : StopsDigits 10 cs ∧ cs.head? ≠ some '.' := by
  cases h with
  | absent => exact ⟨stopsDigits_nil 10, by simp⟩
  | marked hmark => rcases hmark with rfl | rfl <;>
      exact ⟨stopsDigits_cons (by decide) _, by simp⟩

theorem scanFraction_suffix (cs : List Char) : (scanFraction cs).2 <:+ cs := by
  unfold scanFraction
  split
  · exact (span_suffix 10 _).trans (List.suffix_cons _ _)
  · exact List.suffix_refl _

theorem scanFraction_of_head? (h : cs.head? ≠ some '.') : scanFraction cs = ([], cs) := by
  unfold scanFraction
  split
  · exact absurd rfl h
  · rfl

theorem scanExponent_suffix (cs : List Char) : (scanExponent cs).2 <:+ cs := by
  cases cs with
  | nil => exact List.suffix_refl _
  | cons c cs =>
      obtain ⟨negative, unsigned, hsign⟩ := exists_leadingSign cs
      have hscan := hsign.scanSign_eq
      have hunsigned : unsigned <:+ cs := by
        cases hsign with
        | minus => exact List.suffix_cons _ _
        | plus => exact List.suffix_cons _ _
        | absent => exact List.suffix_refl _
      rw [scanExponent]
      split
      · rw [hscan]
        dsimp only
        split
        · exact List.suffix_refl _
        · next hspan =>
          have hrest := span_suffix 10 unsigned
          rw [hspan] at hrest
          exact (hrest.trans hunsigned).trans (List.suffix_cons _ _)
      · exact List.suffix_refl _

/-- The digits of a mantissa are scanned, and no point after them is its own. -/
theorem Mantissa.scans (h : Mantissa cs whole fraction) (hstop : StopsDigits 10 rest)
    (hpoint : rest.head? ≠ some '.') :
    ∃ afterWhole, span 10 (cs ++ rest) = (whole, afterWhole) ∧
      scanFraction afterWhole = (fraction, rest) := by
  cases h with
  | whole h hnil => exact ⟨rest, h.span_append hstop, scanFraction_of_head? hpoint⟩
  | pointed hbefore hafter hnil =>
      rw [List.append_assoc]
      exact ⟨_, hbefore.span_append (stopsDigits_cons (by decide) _), hafter.span_append hstop⟩

/-- When a text goes on after a mantissa, the scan goes that far at least. -/
theorem Mantissa.scans_front (h : Mantissa cs whole fraction) (rest : List Char) :
    ∃ ds afterWhole es after, span 10 (cs ++ rest) = (ds, afterWhole) ∧
      scanFraction afterWhole = (es, after) ∧ ¬ (ds = [] ∧ es = []) ∧ after <:+ rest := by
  cases h with
  | whole h hnil =>
      refine ⟨_, _, _, _, h.span_front rest, rfl, by simp [hnil], ?_⟩
      exact (scanFraction_suffix _).trans (span_suffix 10 rest)
  | pointed hbefore hafter hnil =>
      rw [List.append_assoc]
      refine ⟨_, _, _, _, hbefore.span_append (stopsDigits_cons (by decide) _),
        hafter.span_front rest, ?_, span_suffix 10 rest⟩
      rcases hnil with hnil | hnil <;> simp [hnil]

/-- An exponent is scanned to its last digit. -/
theorem Exponent.scans (h : Exponent cs e) (hstop : StopsDigits 10 rest)
    (hnil : cs = [] → rest = []) : scanExponent (cs ++ rest) = (e, rest) := by
  cases h with
  | absent =>
      rw [hnil rfl]
      rfl
  | @marked mark signed cs negative ds hmark hsign hdigits hds =>
      have hspan := hdigits.span_append hstop
      cases ds with
      | nil => exact absurd rfl hds
      | cons d ds =>
          rw [List.cons_append, scanExponent, if_pos hmark,
            (hsign.append (hdigits.ne_nil hds) rest).scanSign_eq]
          dsimp only
          rw [hspan]

/-- When a text goes on after an exponent, the scan goes that far at least. -/
theorem Exponent.scans_front (h : Exponent cs e) (rest : List Char) :
    (scanExponent (cs ++ rest)).2 <:+ rest := by
  cases h with
  | absent => exact scanExponent_suffix rest
  | @marked mark signed cs negative ds hmark hsign hdigits hds =>
      have hspan := hdigits.span_front rest
      cases ds with
      | nil => exact absurd rfl hds
      | cons d ds =>
          rw [List.cons_append, scanExponent, if_pos hmark,
            (hsign.append (hdigits.ne_nil hds) rest).scanSign_eq]
          dsimp only
          rw [hspan]
          exact span_suffix 10 rest

/-- What is scanned as a fraction is nothing, or a point with digits. -/
theorem exists_fraction (cs : List Char) : ∃ front rest ds, cs = front ++ rest ∧
    scanFraction cs = (ds, rest) ∧
      (front = [] ∧ ds = [] ∨ ∃ after, front = '.' :: after ∧ Spelled 10 after ds) := by
  by_cases hpoint : cs.head? = some '.'
  · obtain ⟨tail, rfl⟩ := List.head?_eq_some_iff.1 hpoint
    obtain ⟨after, ds, rest, rfl, hafter, hstop⟩ := exists_spelled 10 tail
    exact ⟨'.' :: after, rest, ds, rfl, hafter.span_append hstop, .inr ⟨after, rfl, hafter⟩⟩
  · exact ⟨[], cs, [], rfl, scanFraction_of_head? hpoint, .inl ⟨rfl, rfl⟩⟩

/-- What is scanned as an exponent is one. -/
theorem exists_exponent (cs : List Char) : ∃ front rest e, cs = front ++ rest ∧
    scanExponent cs = (e, rest) ∧ Exponent front e := by
  by_cases hmark : ∃ mark tail, cs = mark :: tail ∧ (mark = 'e' ∨ mark = 'E')
  · obtain ⟨mark, tail, rfl, hmark⟩ := hmark
    obtain ⟨negative, unsigned, hsign⟩ := exists_leadingSign tail
    obtain ⟨digits, ds, rest, rfl, hdigits, hstop⟩ := exists_spelled 10 unsigned
    by_cases hnil : ds = []
    · subst hnil
      cases hdigits
      refine ⟨[], _, 0, rfl, ?_, .absent⟩
      rw [scanExponent, if_pos hmark, hsign.scanSign_eq]
      dsimp only
      rw [Spelled.span_append .nil hstop]
    · obtain ⟨signed, rfl, hsigned⟩ := hsign.exists_front (hdigits.ne_nil hnil)
      have hexponent := Exponent.marked hmark hsigned hdigits hnil
      exact ⟨mark :: signed, rest, _, rfl,
        hexponent.scans hstop fun hnil => absurd hnil (List.cons_ne_nil mark signed), hexponent⟩
  · refine ⟨[], cs, 0, rfl, ?_, .absent⟩
    cases cs with
    | nil => rfl
    | cons c cs => exact if_neg fun h => hmark ⟨c, cs, rfl, h⟩

end Parts

section Characters

variable {cs : List Char} {literal : DecimalLiteral}

/-- The characters of literals. -/
def isLiteralChar (c : Char) : Bool := Decimal.isLayoutChar c || c == 'E'

theorem isLiteralChar_of_isDigit {c : Char} (h : isDigit 10 c = true) :
    isLiteralChar c = true := by
  rw [isLiteralChar, Decimal.isLayoutChar, h, Bool.true_or, Bool.true_or]

theorem not_trimmable_of_isLiteralChar {c : Char} (h : isLiteralChar c = true) :
    Text.isTrimmable c = false := by
  rw [isLiteralChar, Bool.or_eq_true, beq_iff_eq] at h
  rcases h with h | rfl
  · exact Decimal.not_trimmable_of_isLayoutChar h
  · decide

theorem Mantissa.isLiteralChar {whole fraction : List Nat} (h : Mantissa cs whole fraction) :
    ∀ c ∈ cs, isLiteralChar c = true := by
  intro c hc
  cases h with
  | whole h => exact isLiteralChar_of_isDigit (h.isDigit_of_mem c hc)
  | pointed hbefore hafter =>
      rcases List.mem_append.1 hc with hc | hc
      · exact isLiteralChar_of_isDigit (hbefore.isDigit_of_mem c hc)
      · rcases List.mem_cons.1 hc with rfl | hc
        · decide
        · exact isLiteralChar_of_isDigit (hafter.isDigit_of_mem c hc)

theorem Exponent.isLiteralChar {e : Int} (h : Exponent cs e) :
    ∀ c ∈ cs, isLiteralChar c = true := by
  intro c hc
  cases h with
  | absent => cases hc
  | marked hmark hsign hdigits =>
      rcases List.mem_cons.1 hc with rfl | hc
      · rcases hmark with rfl | rfl <;> decide
      · rcases hsign.mem hc with rfl | rfl | hc
        · decide
        · decide
        · exact isLiteralChar_of_isDigit (hdigits.isDigit_of_mem c hc)

theorem Spelling.isLiteralChar (h : Spelling cs literal) : ∀ c ∈ cs, isLiteralChar c = true := by
  intro c hc
  cases h with
  | intro hsign hmantissa hexponent =>
      rcases hsign.mem hc with rfl | rfl | hc
      · decide
      · decide
      · rcases List.mem_append.1 hc with hc | hc
        · exact hmantissa.isLiteralChar c hc
        · exact hexponent.isLiteralChar c hc

/-- After its sign a literal starts with a digit or a point, also when the text goes on. -/
theorem Spelling.startsNumber (h : Spelling cs literal) (rest : List Char) :
    NumericText.startsNumber (cs ++ rest) = true := by
  cases h with
  | @intro mantissa exponent negative whole fraction e hsign hmantissa hexponent =>
      have hsigned := hsign.append
        (List.append_ne_nil_of_left_ne_nil hmantissa.ne_nil exponent) rest
      rw [NumericText.startsNumber, hsigned.scanSign_eq, List.append_assoc]
      dsimp only
      rw [List.head?_append_of_ne_nil _ hmantissa.ne_nil]
      cases hmantissa with
      | whole h hnil =>
          cases h with
          | nil => exact absurd rfl hnil
          | cons hd => simp [isDigit, hd]
      | pointed hbefore =>
          cases hbefore with
          | nil => simp
          | cons hd => simp [isDigit, hd]

/-- No letter of a literal is that of a word. -/
theorem Spelling.hasWordLetter (h : Spelling cs literal) :
    NumericText.hasWordLetter cs = false := by
  rw [NumericText.hasWordLetter, List.any_eq_false]
  intro c hc
  have hchar := h.isLiteralChar c hc
  rw [DecimalLiteral.isLiteralChar, Bool.or_eq_true, beq_iff_eq] at hchar
  rcases hchar with hchar | rfl
  · exact Decimal.not_wordLetter_of_isLayoutChar hchar
  · decide

end Characters

section Scan

variable {cs front rest : List Char} {literal : DecimalLiteral}

theorem Spelling.ne_nil (h : Spelling cs literal) : cs ≠ [] := by
  cases h with
  | intro hsign hmantissa =>
      cases hsign with
      | minus => simp
      | plus => simp
      | absent => simp [hmantissa.ne_nil]

/-- A literal is scanned to its end. -/
theorem Spelling.scan?_eq (h : Spelling cs literal) : scan? cs = some (literal, []) := by
  cases h with
  | @intro mantissa exponent negative whole fraction e hsign hmantissa hexponent =>
      obtain ⟨hstop, hpoint⟩ := hexponent.stopsDigits
      obtain ⟨afterWhole, hwhole, hfraction⟩ := hmantissa.scans hstop hpoint
      have hscan := hexponent.scans (stopsDigits_nil 10) fun _ => rfl
      rw [List.append_nil] at hscan
      have hdigits : ¬ (whole = [] ∧ fraction = []) := by
        cases hmantissa with
        | whole _ hnil => simp [hnil]
        | pointed _ _ hnil => simpa only [not_and_or] using hnil
      unfold scan?
      rw [hsign.scanSign_eq]
      dsimp only
      rw [hwhole]
      dsimp only
      rw [hfraction]
      dsimp only
      rw [if_neg hdigits, hscan]

/-- When a text starts with a literal, a literal is scanned that reaches as far at least. -/
theorem Spelling.scans_front (h : Spelling front literal) (rest : List Char) :
    ∃ scanned left, scan? (front ++ rest) = some (scanned, left) ∧ left <:+ rest := by
  cases h with
  | @intro mantissa exponent negative whole fraction e hsign hmantissa hexponent =>
      have hsigned := hsign.append (by simp [hmantissa.ne_nil]) rest
      rw [List.append_assoc] at hsigned
      obtain ⟨ds, afterWhole, es, after, hwhole, hfraction, hdigits, hafter⟩ :=
        hmantissa.scans_front (exponent ++ rest)
      have hleft : (scanExponent after).2 <:+ rest := by
        cases hexponent with
        | absent => exact (scanExponent_suffix after).trans hafter
        | @marked mark signed cs _ _ hmark hexpSign hexpDigits hnil =>
            -- the mark of the exponent ends the mantissa
            have hstop : StopsDigits 10 (mark :: signed ++ rest) ∧
                (mark :: signed ++ rest).head? ≠ some '.' := by
              rcases hmark with rfl | rfl <;> exact ⟨stopsDigits_cons (by decide) _, by simp⟩
            obtain ⟨afterWhole', hwhole', hfraction'⟩ := hmantissa.scans hstop.1 hstop.2
            rw [hwhole, Prod.mk.injEq] at hwhole'
            rw [← hwhole'.2, hfraction, Prod.mk.injEq] at hfraction'
            rw [hfraction'.2]
            exact (Exponent.marked hmark hexpSign hexpDigits hnil).scans_front rest
      unfold scan?
      rw [hsigned.scanSign_eq]
      dsimp only
      rw [hwhole]
      dsimp only
      rw [hfraction]
      dsimp only
      rw [if_neg hdigits]
      exact ⟨_, _, rfl, hleft⟩

/-- What is scanned is a literal at the start of the text. -/
theorem exists_spelling (h : scan? cs = some (literal, rest)) :
    ∃ front, cs = front ++ rest ∧ Spelling front literal := by
  obtain ⟨negative, unsigned, hsign⟩ := exists_leadingSign cs
  obtain ⟨before, ds, afterWhole, rfl, hbefore, hstop⟩ := exists_spelled 10 unsigned
  obtain ⟨point, afterFraction, es, rfl, hfraction, hpoint⟩ := exists_fraction afterWhole
  obtain ⟨exponent, left, e, rfl, hexponent, he⟩ := exists_exponent afterFraction
  unfold scan? at h
  rw [hsign.scanSign_eq] at h
  dsimp only at h
  rw [hbefore.span_append hstop] at h
  dsimp only at h
  rw [hfraction] at h
  dsimp only at h
  rw [hexponent] at h
  split at h
  · cases h
  · next hdigits =>
    cases h
    have hmantissa : Mantissa (before ++ point) ds es := by
      rcases hpoint with ⟨rfl, rfl⟩ | ⟨after, rfl, hafter⟩
      · rw [List.append_nil]
        exact .whole hbefore fun hnil => hdigits ⟨hnil, rfl⟩
      · exact .pointed hbefore hafter (not_and_or.1 hdigits)
    rw [← List.append_assoc, ← List.append_assoc] at hsign
    obtain ⟨signed, rfl, hsigned⟩ := hsign.exists_front (List.append_ne_nil_of_left_ne_nil hmantissa.ne_nil exponent)
    exact ⟨signed, rfl, .intro hsigned hmantissa he⟩

/-- A text is a literal exactly when the scan of it leaves nothing. -/
theorem spelling_iff : Spelling cs literal ↔ scan? cs = some (literal, []) := by
  constructor
  · exact Spelling.scan?_eq
  · intro h
    obtain ⟨front, rfl, hfront⟩ := exists_spelling h
    rwa [List.append_nil]

end Scan

/-- The exact number that a literal stands for, without its sign. -/
def exact (literal : DecimalLiteral) : ℚ :=
  Numeral.value 10 (literal.whole ++ literal.fraction) *
    10 ^ (literal.exponent - literal.fraction.length)

/-- The value of a literal is the nearest double to its exact number, with its sign. -/
theorem exists_isNearest (literal : DecimalLiteral) : ∃ x, Double.IsNearest literal.exact x ∧
    literal.value = if literal.negative then x.neg else x := by
  have hvalue : literal.value = Double.ofDecimal literal.negative _ _ := rfl
  rw [hvalue, Double.ofDecimal_eq_nearest, Double.nearest_eq_signed]
  refine ⟨_, (Double.isNearest_iff (Nat.pow_pos (by decide)) ?_).2 rfl, rfl⟩
  generalize hplace : literal.exponent - literal.fraction.length = place
  rw [exact, hplace]
  have hscale : (10 : ℚ) ^ place * ((10 ^ (-place).toNat : Nat) : ℚ) =
      ((10 ^ place.toNat : Nat) : ℚ) := by
    have hshift := @Decimal.cast_pow_mul_zpow (-place).toNat place place.toNat (by omega)
    rw [mul_comm, hshift, Nat.cast_pow, zpow_natCast, Nat.cast_ofNat]
  calc
    (Numeral.value 10 (literal.whole ++ literal.fraction) : ℚ) * 10 ^ place * Magnitude.one *
        ((10 ^ (-place).toNat : Nat) : ℚ)
      = Numeral.value 10 (literal.whole ++ literal.fraction) *
          (10 ^ place * ((10 ^ (-place).toNat : Nat) : ℚ)) * Magnitude.one := by ring
    _ = _ := by
      rw [hscale, Nat.cast_mul, Nat.cast_mul]

end DecimalLiteral

end ScriptValues
