/-!
Occurrences of one text in another: the first one from a place on, and the parts between them.
-/

namespace ScriptValues

namespace Text

/-- The place of the first occurrence of `needle` in a list whose first entry has the place
`place`. -/
def findFrom {α : Type} [BEq α] (needle : List α) (place : Nat) : List α → Option Nat
  | [] => if needle.isPrefixOf [] then some place else none
  | x :: xs =>
    if needle.isPrefixOf (x :: xs) then some place else findFrom needle (place + 1) xs

/-- Cuts a text at the occurrences of `needle`, from left to right and without overlap. `skip`
characters of an occurrence are still to be passed over, and `part` is the part so far, read
backward. -/
def splitFrom (needle : List Char) (skip : Nat) (part : List Char) :
    List Char → List (List Char)
  | [] => [part.reverse]
  | c :: cs =>
    if 0 < skip then splitFrom needle (skip - 1) part cs
    else if needle.isPrefixOf (c :: cs) then
      part.reverse :: splitFrom needle (needle.length - 1) [] cs
    else splitFrom needle 0 (c :: part) cs

/-- The parts of a text between the occurrences of a text that is not empty; the characters one by
one when it is. -/
def split (needle cs : List Char) : List (List Char) :=
  if needle = [] then cs.map ([·]) else splitFrom needle 0 [] cs

end Text

end ScriptValues
