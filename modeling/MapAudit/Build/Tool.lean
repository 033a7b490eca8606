import MapAudit.Build.Error
import MapAudit.Text.Lossy
import MapAudit.World.Activity

/-! # The build tool

    The tool is made once before anything is built, and then looked for: where
    it is said to be, or else in its own directory, or else along the search
    path, where only an executable file will do.
-/

namespace MapAudit.Tool

/-- The name of the tool. -/
def name : Path :=
  ⟨["esbuild"]⟩

/-- The program that makes the tool. -/
def maker : Path :=
  ⟨["make"]⟩

/-- The first tool in a list of directories. -/
def searchAlong : List Path → Activity (Option Path)
  | [] => return none
  | directory :: rest => do
    if ← Activity.hasProgram (directory.join name) then return some (directory.join name)
    else searchAlong rest

/-- **Finding the tool**. A given path must lead to something and nothing else
    is tried; without one, any file of the right name in the tool's directory
    comes before the search path. -/
def find (given : Option Path) (root : Path) (searchPath : List Path) :
    ExceptT BuildError Activity Path := do
  match given with
  | some p => if ← Activity.hasNode p then return p else throw (.toolNotFound p)
  | none =>
    if ← Activity.hasFile (root.join name) then return root.join name
    match ← searchAlong searchPath with
    | some p => return p
    | none => throw (.toolNotFound (root.join name))

/-- **Making the tool** in its directory. -/
def prepare (root : Path) : ExceptT BuildError Activity Unit := do
  match ← Activity.launch maker [] root with
  | none => throw (.spawnFailed maker)
  | some exit =>
    unless exit.isSuccess do
      throw (.prepareFailed root exit.code (Text.decodeLossy exit.errors))

end MapAudit.Tool
