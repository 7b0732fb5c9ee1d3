import ScriptValues.Decimal.Printer
import ScriptValues.Text.Quoted
import ScriptValues.Value

/-!
The two texts of a value: the one it converts to, and the one that shows what it holds, with quotes
around strings and brackets around arrays.
-/

namespace ScriptValues

/-- The text of a symbol, with its description in parentheses. -/
def Symbol.text (s : Symbol) : String := "Symbol(" ++ s.description?.getD "" ++ ")"

/-- The shown form of a function. -/
def Function.shown (f : Function) : String := "[Function: " ++ f.name ++ "]"

namespace Value

/-- The text of a value without elements. -/
def scalarText (v : Value) (printer : DecimalPrinter := .standard) : String :=
  match v with
  | .undefined => "undefined"
  | .null => "null"
  | .boolean b => if b then "true" else "false"
  | .number x => x.text printer
  | .string s => s
  | .symbol s => s.text
  | .object _ => "[object Object]"
  | .array _ => ""
  | .function _ => "function () \x7b [native code] \x7d"

mutual

/-- The text a value converts to. An array's is its elements' texts with commas between. -/
def text (v : Value) (printer : DecimalPrinter := .standard) : String :=
  match v with
  | .array (v :: vs) => joinOnto "," (if v.isNullish then "" else text v printer) vs printer
  | v => scalarText v printer

/-- Extends a line by elements, each after a separator. -/
def joinOnto (separator line : String) (vs : List Value) (printer : DecimalPrinter := .standard) :
    String :=
  match vs with
  | [] => line
  | v :: vs =>
    joinOnto separator (line ++ separator ++ (if v.isNullish then "" else text v printer)) vs
      printer

end

/-- The text of a value as an element of an array: undefined and null leave their place empty. -/
def elementText (v : Value) (printer : DecimalPrinter := .standard) : String :=
  if v.isNullish then "" else v.text printer

/-- The texts of elements with a separator between them. -/
def join (separator : String) (vs : List Value) (printer : DecimalPrinter := .standard) : String :=
  match vs with
  | [] => ""
  | v :: vs => joinOnto separator (elementText v printer) vs printer

mutual

/-- The text that shows what a value holds. -/
def shown (v : Value) (printer : DecimalPrinter := .standard) : String :=
  match v with
  | .array [] => "[]"
  | .array (v :: vs) => showOnto ("[" ++ shown v printer) vs printer
  | .string s => Text.quoted s
  | .function f => f.shown
  | v => scalarText v printer

/-- Extends an opened list by more elements and closes it. -/
def showOnto (line : String) (vs : List Value) (printer : DecimalPrinter := .standard) : String :=
  match vs with
  | [] => line ++ "]"
  | v :: vs => showOnto (line ++ ", " ++ shown v printer) vs printer

end

end Value

end ScriptValues
