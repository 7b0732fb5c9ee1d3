import ScriptValues.Value.Coercion

/-!
What the coercions make of a value, in five lines.
-/

namespace ScriptValues

/-- The shown form of a value, its type, and its number, text and truth. -/
def Value.inspection (v : Value) : List String :=
  [v.shown,
    "  typeof    " ++ v.typeName,
    "  ToNumber  " ++ v.toNumber.text,
    "  ToString  " ++ Text.quoted v.text,
    "  ToBoolean " ++ (Value.boolean v.toBoolean).text]

end ScriptValues
