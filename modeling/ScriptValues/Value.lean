import ScriptValues.Double

/-!
The values of the language. Texts, numbers and sequences are plain data; symbols, plain objects and
functions carry an identity, handed out by a source that counts up.
-/

namespace ScriptValues

/-- A symbol is told apart by its identity; the description is only shown. -/
structure Symbol where
  identity : UInt32
  description? : Option String
  deriving DecidableEq

/-- An object without properties: nothing but an identity. -/
structure PlainObject where
  identity : UInt32
  deriving DecidableEq

/-- The functions that every program finds by name. -/
inductive GlobalFunction
  | isFinite
  | isNaN
  | parseFloat
  | parseInt
  deriving DecidableEq, Repr

/-- What a function does when called: one of the global functions, or something that the host
knows. -/
inductive Behaviour
  | global (g : GlobalFunction)
  | host
  deriving DecidableEq, Repr

/-- A function is told apart by its identity, not by its name. -/
structure Function where
  name : String
  identity : Nat
  behaviour : Behaviour
  deriving DecidableEq

/-- A value of the language. -/
inductive Value
  | undefined
  | null
  | boolean (b : Bool)
  | number (x : Double)
  | string (s : String)
  | symbol (s : Symbol)
  | object (o : PlainObject)
  | array (elements : List Value)
  | function (f : Function)

/-- The kinds that values are told apart by. -/
inductive Kind
  | undefined
  | null
  | boolean
  | number
  | string
  | symbol
  | object
  | array
  | function
  deriving DecidableEq, Repr

namespace Value

instance : Inhabited Value := ⟨.undefined⟩

def kind : Value → Kind
  | .undefined => .undefined
  | .null => .null
  | .boolean _ => .boolean
  | .number _ => .number
  | .string _ => .string
  | .symbol _ => .symbol
  | .object _ => .object
  | .array _ => .array
  | .function _ => .function

/-- The value of a natural number. -/
def ofNat (n : Nat) : Value := .number (.ofNat n)

/-- The value of an integer. -/
def ofInt (n : Int) : Value := .number (.ofInt n)

/-- Undefined or null. -/
def isNullish (v : Value) : Bool := v.kind = .undefined || v.kind = .null

/-- Whether a value can be called. -/
def isCallable (v : Value) : Bool := v.kind = .function

/-- NaN itself; other values are not converted. -/
def isNaN : Value → Bool
  | .number x => x.isNaN
  | _ => false

def isEmptyString : Value → Bool
  | .string s => s.isEmpty
  | _ => false

end Value

/-- The answer of the type operator. Null and arrays count as objects. -/
def Kind.typeName : Kind → String
  | .undefined => "undefined"
  | .null | .object | .array => "object"
  | .boolean => "boolean"
  | .number => "number"
  | .string => "string"
  | .symbol => "symbol"
  | .function => "function"

def Value.typeName (v : Value) : String := v.kind.typeName

/-- The identities that new symbols, objects and functions will get. Symbols and objects share the
range of 32-bit words, each with a counter of its own. -/
structure Identities where
  symbol : UInt32
  object : UInt32
  function : Nat

namespace Identities

/-- The counters before anything was made. -/
def first : Identities := ⟨1, 1, 0⟩

def newSymbol (ids : Identities) (description? : Option String) : Symbol × Identities :=
  (⟨ids.symbol, description?⟩, { ids with symbol := ids.symbol + 1 })

def newObject (ids : Identities) : PlainObject × Identities :=
  (⟨ids.object⟩, { ids with object := ids.object + 1 })

def newFunction (ids : Identities) (name : String) (behaviour : Behaviour) :
    Function × Identities :=
  (⟨name, ids.function, behaviour⟩, { ids with function := ids.function + 1 })

end Identities

end ScriptValues
