import MapAudit.CommandLine.Basic
import MapAudit.CommandLine.Setting
import MapAudit.Script.Launch

/-! # The program

    The program takes its arguments from the command line and the setting it
    works in from the standard input. Programs in that setting are scripts.
-/

open MapAudit

/-- Everything that a stream still holds. -/
partial def readAll (input : IO.FS.Stream) (before : String) : IO String := do
  let line ← input.getLine
  if line.isEmpty then return before else readAll input (before ++ line)

/-- Runs the program. -/
def main (arguments : List String) : IO UInt32 := do
  let text ← readAll (← IO.getStdin) ""
  match CommandLine.Setting.read? text with
  | none => do
    IO.eprint (CommandLine.errorLine "the setting cannot be read")
    return CommandLine.broken.toUInt32
  | some setting => do
    let host := Script.host setting.base setting.environment
    let w : World := { tree := setting.tree, nextNumber := 0, reported := [] }
    let (outcome, _) := CommandLine.execute host setting.environment arguments w
    IO.eprint outcome.errors
    IO.print outcome.output
    return outcome.status.toUInt32
