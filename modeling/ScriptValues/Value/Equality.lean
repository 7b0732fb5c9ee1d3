import ScriptValues.Value.Coercion

/-!
The equalities of values: equal content, strict equality, equality that also finds NaN, and loose
equality, which converts its operands.
-/

namespace ScriptValues

namespace Value

mutual

/-- Equal content: the same constructor with equal parts. Numbers compare as numbers; symbols,
objects and functions by identity. -/
def sameContent : Value → Value → Bool
  | .undefined, .undefined => true
  | .null, .null => true
  | .boolean a, .boolean b => a == b
  | .number x, .number y => x.equal y
  | .string s, .string t => s == t
  | .symbol s, .symbol t => s.identity == t.identity
  | .object a, .object b => a.identity == b.identity
  | .array vs, .array ws => sameContents vs ws
  | .function f, .function g => f.identity == g.identity
  | _, _ => false

/-- Equal content element by element, and nothing left over. -/
def sameContents : List Value → List Value → Bool
  | [], [] => true
  | v :: vs, w :: ws => sameContent v w && sameContents vs ws
  | _, _ => false

end

instance : BEq Value := ⟨sameContent⟩

mutual

/-- Strict equality: values of one kind, numbers equal as numbers, arrays of one length with
strictly equal elements. -/
def strictlyEqual (v w : Value) : Bool :=
  v.kind == w.kind &&
    match v, w with
    | .undefined, _ => true
    | .null, _ => true
    | .boolean a, .boolean b => a == b
    | .number x, .number y => x.equal y
    | .string s, .string t => s == t
    | .symbol s, .symbol t => s.identity == t.identity
    | .object a, .object b => a.identity == b.identity
    | .array vs, .array ws => vs.length == ws.length && pairwiseEqual vs ws
    | .function f, .function g => f.identity == g.identity
    | _, _ => false

/-- Strict equality of elements at the same places, as far as both lists go. -/
def pairwiseEqual : List Value → List Value → Bool
  | v :: vs, w :: ws => strictlyEqual v w && pairwiseEqual vs ws
  | _, _ => true

end

/-- Strict equality, except that NaN equals NaN. -/
def sameValueZero : Value → Value → Bool
  | .number x, .number y => (x.isNaN && y.isNaN) || x.equal y
  | v, w => v.strictlyEqual w

/-- How many conversions loose equality has left for a value: booleans and strings become numbers,
and nothing else is converted. -/
def conversionsLeft : Value → Nat
  | .boolean _ | .string _ => 1
  | _ => 0

/-- Loose equality. Values of one kind compare strictly, and undefined and null are equal. Of a
number and a string the string is converted to a number, otherwise a boolean is, and the comparison
starts again; values that nothing of this holds for are left as they are. -/
@[semireducible] -- comparisons of given kinds compute although the recursion is not structural
def looselyEqual (v w : Value) : Bool :=
  if v.kind = w.kind then v.strictlyEqual w
  else if v.isNullish && w.isNullish then true
  else match v, w with
    | .number x, .string t => looselyEqual (.number x) (.number (Value.string t).toNumber)
    | .string s, .number y => looselyEqual (.number (Value.string s).toNumber) (.number y)
    | .boolean b, w => looselyEqual (.number (Value.boolean b).toNumber) w
    | v, .boolean b => looselyEqual v (.number (Value.boolean b).toNumber)
    | v, w => v.toPrimitive.strictlyEqual w.toPrimitive
termination_by v.conversionsLeft + w.conversionsLeft
decreasing_by all_goals simp [conversionsLeft]

/-- The order of two numbers or of two strings, strings by code points; other pairs have none. -/
def order? : Value → Value → Option Ordering
  | .number x, .number y => x.order? y
  | .string s, .string t => some (compareOfLessAndEq s t)
  | _, _ => none

end Value

end ScriptValues
