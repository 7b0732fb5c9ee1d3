import ScriptValues.Text.NormalForm

/-!
The library of normal forms. Besides the normal form of a text it has a quick check, which may find
out without computing the form that a text is in it already. Whoever asks it first leaves such a text
as it is.
-/

namespace ScriptValues

/-- A library of normal forms. -/
structure Normalizer where
  /-- Whether the quick check is sure that a text is in a form. -/
  isSurely : Text.NormalForm → String → Bool
  /-- A text in a form. -/
  normalized : Text.NormalForm → String → String

namespace Normalizer

/-- The library that texts are brought into normal forms with. -/
def standard : Normalizer where
  isSurely form s := Text.normalize form s == s
  normalized := Text.normalize

/-- The text in a form; none when the quick check is sure that the text is in it already. -/
def change? (normalizer : Normalizer) (form : Text.NormalForm) (s : String) : Option String :=
  if normalizer.isSurely form s then none else some (normalizer.normalized form s)

/-- What is documented of the library: the quick check is sure of texts in the form only. -/
structure Documented (normalizer : Normalizer) : Prop where
  normalized_of_isSurely : ∀ {form : Text.NormalForm} {s : String},
    normalizer.isSurely form s = true → normalizer.normalized form s = s

/-- The quick check cannot be told from its result. -/
theorem Documented.getD_change? {normalizer : Normalizer} (h : normalizer.Documented)
    (form : Text.NormalForm) (s : String) :
    (normalizer.change? form s).getD s = normalizer.normalized form s := by
  unfold change?
  split
  · next hsure => exact (h.normalized_of_isSurely hsure).symm
  · rfl

theorem standard_documented : standard.Documented where
  normalized_of_isSurely hsure := eq_of_beq hsure

end Normalizer

end ScriptValues
