/-
MachineSpec.Main — the program: arguments in, text and an exit code out.

Everything it does is `CommandLine.run`; this module only reads the file that
the arguments name and prints the outcome.
-/
import MachineSpec.CommandLine

open MachineSpec

/-- The text of a file, if it can be read. -/
def readText (path : String) : IO (Option String) := do
  try
    return some (← IO.FS.readFile path)
  catch _ =>
    return none

/-- Answers the arguments. -/
def main (arguments : List String) : IO UInt32 := do
  let source ← match CommandLine.request? arguments with
    | some (.report _ _ path) => readText path
    | _ => pure none
  let outcome := CommandLine.run arguments fun _ => source
  IO.print outcome.output
  IO.eprint outcome.errors
  return outcome.exitCode.toUInt32
