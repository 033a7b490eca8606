import MapAudit.Files.Path
import MapAudit.Fixture.Basic

/-! # Why a build fails -/

namespace MapAudit

/-- **Build error**. None of these is tried again. -/
inductive BuildError where
  /-- The tool is not where it was looked for. -/
  | toolNotFound (p : Path)
  /-- A program cannot be started. -/
  | spawnFailed (program : Path)
  /-- The tool did not succeed. -/
  | toolFailed (code : Int) (errors : String)
  /-- Making the tool did not succeed. -/
  | prepareFailed (root : Path) (code : Int) (errors : String)
  /-- There is no file to build from. -/
  | noEntry (variant : Variant)
  /-- The tool succeeded without writing a file it had to write. -/
  | missingOutput (p : Path)
  /-- A file cannot be written, read or removed. -/
  | io (p : Path)
  deriving DecidableEq, Repr

/-- The message of the error. -/
def BuildError.message : BuildError → String
  | .toolNotFound p => "build tool not found at: " ++ p.text
  | .spawnFailed program => "failed to spawn " ++ program.text
  | .toolFailed code errors => "build tool exited with code " ++ toString code ++ ": " ++ errors
  | .prepareFailed root code errors =>
    "building the tool in " ++ root.text ++ " failed with code " ++ toString code ++ ": "
      ++ errors
  | .noEntry variant => "fixture " ++ variant.name ++ " has no entry file"
  | .missingOutput p => "build tool did not write " ++ p.text
  | .io p => "i/o error on " ++ p.text

end MapAudit
