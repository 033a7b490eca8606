import MapAudit.Build.Scratch
import MapAudit.Fixture.Basic
import MapAudit.Text.Lossy

/-! # Building a fixture

    The files of the fixture are written into a scratch directory, the tool is
    run there on the entry file, and the output and its map are read back. The
    first step that fails decides the error; the map is looked at last.

    The tool is given the entry file first, then where to write the output, and
    then what to do with it. A run that minifies has a label of its own.
-/

namespace MapAudit

/-- **Build flags**. -/
structure BuildFlags where
  /-- Whether imports are followed and all files put into one. -/
  bundle : Bool
  /-- Whether the output is made small. -/
  minify : Bool
  deriving DecidableEq, Repr

namespace BuildFlags

/-- The name of the output file. -/
def outputName : String :=
  "out.js"

/-- The name of the file with the map of the output. -/
def mapName : String :=
  outputName ++ ".map"

/-- The arguments for an entry file. -/
def arguments (flags : BuildFlags) (entry : String) : List String :=
  [entry, "--sourcemap", "--outfile=" ++ outputName]
    ++ (if flags.bundle then ["--bundle"] else [])
    ++ (if flags.minify then ["--minify"] else [])

/-- What the label of a run has after the name of the variant. -/
def suffix (flags : BuildFlags) : String :=
  if flags.minify then "-min" else ""

end BuildFlags

/-- **Artifacts** of a build. -/
structure Artifacts where
  /-- The text of the output. -/
  output : String
  /-- The text of the map. -/
  map : String
  deriving DecidableEq, Repr

namespace Artifacts

/-- Writes a file of a fixture below a directory, with the directories above
    the file. -/
def writeFile (directory : Path) (f : FixtureFile) : ExceptT BuildError Activity Unit := do
  let path := directory.join (.ofString f.path)
  match path.parent? with
  | none => pure ()
  | some parent => Activity.orFail (.io parent) (Activity.createAll parent)
  Activity.orFail (.io path) (Activity.write path f.source.toUTF8)

/-- Writes files in their order. -/
def writeFiles (directory : Path) : List FixtureFile → ExceptT BuildError Activity Unit
  | [] => return ()
  | f :: rest => do
    writeFile directory f
    writeFiles directory rest

/-- Reads a file that the tool had to write. -/
def readText (p : Path) : ExceptT BuildError Activity String := do
  match ← Activity.read p with
  | .error .notFound => throw (.missingOutput p)
  | .error _ => throw (.io p)
  | .ok bytes =>
    match Text.decodeUtf8? bytes with
    | none => throw (.io p)
    | some text => return text

/-- Runs the tool on an entry file. -/
def runTool (tool : Path) (flags : BuildFlags) (directory : Path) (entry : FixtureFile) :
    ExceptT BuildError Activity Unit := do
  match ← Activity.launch tool (flags.arguments entry.path) directory with
  | none => throw (.spawnFailed tool)
  | some exit =>
    unless exit.isSuccess do
      throw (.toolFailed exit.code (Text.decodeLossy exit.errors))

/-- **Build** of a fixture in a scratch directory. -/
def build (tool : Path) (fixture : Fixture) (flags : BuildFlags) (scratch : Scratch) :
    ExceptT BuildError Activity Artifacts := do
  writeFiles scratch.path fixture.files
  match fixture.entry? with
  | none => throw (.noEntry fixture.variant)
  | some entry =>
    runTool tool flags scratch.path entry
    let output ← readText (scratch.path.join ⟨[BuildFlags.outputName]⟩)
    let map ← readText (scratch.path.join ⟨[BuildFlags.mapName]⟩)
    return { output, map }

end Artifacts

end MapAudit
