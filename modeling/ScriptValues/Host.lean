import ScriptValues.Globals

/-!
Calling functions. Functions that are not global belong to the host, which may keep a state of its
own across calls.
-/

namespace ScriptValues

/-- How the host answers a call of one of its functions. -/
abbrev Host (σ : Type) := Function → List Value → StateM σ Value

/-- Calls a function with some arguments. -/
def Function.call {σ : Type} (f : Function) (host : Host σ) (args : List Value) :
    StateM σ Value :=
  match f.behaviour with
  | .global g => pure (g.run args)
  | .host => host f args

end ScriptValues
