import ScriptValues.CommandLine

/-!
The program: runs the command its arguments ask for.
-/

namespace ScriptValues

/-- The commands and their operands. -/
def Command.usage : String :=
  "usage: demo [-v|--verbose] | inspect <literal>... | add <left> <right> | eq <left> <right>"

end ScriptValues

open ScriptValues in
def main (args : List String) : IO UInt32 := do
  match Command.ofWords? args with
  | none =>
    IO.eprintln Command.usage
    return 2
  | some command =>
    let started ← IO.monoNanosNow
    let stopped ← IO.monoNanosNow
    let report := command.run started stopped
    IO.print report.printed
    for line in report.errors do
      IO.eprintln line
    return report.exit
