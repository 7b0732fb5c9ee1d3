import ScriptValues.Text.CodeTable
import ScriptValues.Text.NormalForm.Tables

/-!
The four normal forms of texts. A text is decomposed, its marks are put in canonical order, and for
the composed forms each mark is then joined to the letter before it where a single character
exists for both.
-/

namespace ScriptValues

namespace Text

/-- A normal form: decomposed or composed, with canonical or with compatibility mappings. -/
inductive NormalForm
  | nfc
  | nfd
  | nfkc
  | nfkd
  deriving DecidableEq, Repr

/-- The form with a given name, if there is one. -/
def NormalForm.ofName? (name : String) : Option NormalForm :=
  if name = "NFC" then some .nfc
  else if name = "NFD" then some .nfd
  else if name = "NFKC" then some .nfkc
  else if name = "NFKD" then some .nfkd
  else none

def NormalForm.isComposed : NormalForm → Bool
  | .nfc | .nfkc => true
  | .nfd | .nfkd => false

def NormalForm.isCompatible : NormalForm → Bool
  | .nfkc | .nfkd => true
  | .nfc | .nfd => false

def canonicalMap : Std.HashMap Nat (List Char) := CodeTable.texts canonicalTable

def compatibilityMap : Std.HashMap Nat (List Char) := CodeTable.texts compatibilityTable

def combiningClasses : Std.HashMap Nat Nat := CodeTable.numbers combiningClassTable

def compositionExclusions : List CodeTable.Entry := CodeTable.entries compositionExclusionTable

/-- The class that orders a mark among its neighbours; characters that start anew have class
zero. -/
def combiningClass (c : Char) : Nat := (combiningClasses[c.toNat]?).getD 0

/-- Syllables that are composed by arithmetic: 19 leading consonants, 21 vowels and 27 optional
trailing consonants. -/
structure Syllable where
  lead : Nat
  vowel : Nat
  trail : Nat

namespace Syllable

def firstSyllable : Nat := 0xAC00
def firstLead : Nat := 0x1100
def firstVowel : Nat := 0x1161
def beforeTrail : Nat := 0x11A7

def ofChar? (c : Char) : Option Syllable :=
  if firstSyllable ≤ c.toNat ∧ c.toNat < firstSyllable + 19 * 21 * 28 then
    let index := c.toNat - firstSyllable
    some ⟨index / (21 * 28), index / 28 % 21, index % 28⟩
  else none

def toChar (s : Syllable) : Char :=
  Char.ofNat (firstSyllable + (s.lead * 21 + s.vowel) * 28 + s.trail)

/-- The letters of a syllable. -/
def letters (s : Syllable) : List Char :=
  let pair := [Char.ofNat (firstLead + s.lead), Char.ofNat (firstVowel + s.vowel)]
  if s.trail = 0 then pair else pair ++ [Char.ofNat (beforeTrail + s.trail)]

/-- Joins a leading consonant and a vowel, or a syllable without trailing consonant and one. -/
def join? (a b : Char) : Option Char :=
  if firstLead ≤ a.toNat ∧ a.toNat < firstLead + 19
      ∧ firstVowel ≤ b.toNat ∧ b.toNat < firstVowel + 21 then
    some (toChar ⟨a.toNat - firstLead, b.toNat - firstVowel, 0⟩)
  else match ofChar? a with
    | some s =>
      if s.trail = 0 ∧ beforeTrail < b.toNat ∧ b.toNat < beforeTrail + 28 then
        some { s with trail := b.toNat - beforeTrail }.toChar
      else none
    | none => none

end Syllable

/-- The full decomposition of a character. -/
def decomposition (compatible : Bool) (c : Char) : List Char :=
  match Syllable.ofChar? c with
  | some s => s.letters
  | none =>
    match if compatible then compatibilityMap[c.toNat]? else none with
    | some cs => cs
    | none => (canonicalMap[c.toNat]?).getD [c]

/-- Characters found by the code points of their canonical decompositions. -/
def composites : Std.HashMap (List Nat) Char :=
  canonicalMap.fold
    (fun map n cs =>
      if cs.length < 2 || CodeTable.covers compositionExclusions n then map
      else map.insert (cs.map Char.toNat) (Char.ofNat n))
    ∅

/-- The single character that stands for two in a row. -/
def compositeOf? (a b : Char) : Option Char :=
  match Syllable.join? a b with
  | some c => some c
  | none => composites[(decomposition false a ++ [b]).map Char.toNat]?

/-- Sorts each run of marks by combining class; `run` holds the marks read so far. -/
def orderMarks (run : List Char) : List Char → List Char
  | [] => sorted run
  | c :: cs =>
    if combiningClass c = 0 then sorted run ++ c :: orderMarks [] cs
    else orderMarks (c :: run) cs
where
  sorted (run : List Char) : List Char :=
    run.reverse.mergeSort (fun a b => combiningClass a ≤ combiningClass b)

/-- The text composed so far: the last character that marks may join, the marks after it that did
not join, last one first, and all that came before, also last one first. -/
structure Composition where
  base? : Option Char
  marks : List Char
  done : List Char

/-- Whether no earlier mark stands between the base and a character of this class. -/
def Composition.reaches (s : Composition) (cls : Nat) : Bool :=
  match s.marks with
  | [] => true
  | mark :: _ => combiningClass mark < cls

def Composition.step (s : Composition) (c : Char) : Composition :=
  let cls := combiningClass c
  match s.base? with
  | none => if cls = 0 then { s with base? := some c } else { s with done := c :: s.done }
  | some base =>
    match if s.reaches cls then compositeOf? base c else none with
    | some joined => { s with base? := some joined }
    | none =>
      if cls = 0 then ⟨some c, [], s.marks ++ base :: s.done⟩
      else { s with marks := c :: s.marks }

def Composition.chars (s : Composition) : List Char :=
  (s.marks ++ (s.base?.toList ++ s.done)).reverse

/-- Joins marks to the characters before them. -/
def compose (cs : List Char) : List Char :=
  (cs.foldl Composition.step ⟨none, [], []⟩).chars

/-- A text in a normal form. -/
def normalize (form : NormalForm) (s : String) : String :=
  let marked := orderMarks [] (s.toList.flatMap (decomposition form.isCompatible))
  String.ofList (if form.isComposed then compose marked else marked)

end Text

end ScriptValues
