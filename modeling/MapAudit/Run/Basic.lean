import MapAudit.Build.Artifacts
import MapAudit.Build.Tool
import MapAudit.Config.Basic
import MapAudit.Fixture.Catalog
import MapAudit.Run.Summary
import MapAudit.Verification.Report

/-! # Runs

    A run makes the tool, finds it, and then performs its tasks. It has one task
    for every mode and variant. A task builds the fixture of its variant in a
    scratch directory of its own and verifies what came out. Its scratch
    directory is gone when it ends, also when it fails, unless it is to be kept.

    Every task has a slot in the summary, by the order of launching, so that the
    summary does not depend on the order in which tasks end. The first task that
    fails ends the run.
-/

namespace MapAudit

/-! ## Tasks -/

/-- Why a run is aborted. -/
inductive RunError where
  /-- The tool could not be made, found or run. -/
  | build (e : BuildError)
  /-- The verification could not be carried out. -/
  | verification (fault : VerificationFault)
  deriving DecidableEq, Repr

/-- The message of the error. -/
def RunError.message : RunError → String
  | .build e => e.message
  | .verification fault => fault.message

/-- **Task** of a run. -/
structure Task where
  /-- The variant to build. -/
  variant : Variant
  /-- The mode to build it in. -/
  mode : Mode
  deriving DecidableEq, Repr

namespace Task

/-- How the build tool is called for a task. -/
def flags (task : Task) : BuildFlags where
  bundle := task.variant.bundles
  minify := task.mode.minify

/-- The label of a task. -/
def kind (task : Task) : String :=
  task.variant.name ++ task.flags.suffix

/-- The tasks of a configuration, mode by mode. -/
def ofConfig (config : Config) : List Task :=
  config.modes.flatMap fun mode => config.variants.map fun variant => { variant, mode }

/-- An activity with build errors, as part of a run. -/
def building {α : Type} (a : ExceptT BuildError Activity α) : ExceptT RunError Activity α :=
  a.adapt .build

/-- Builds and verifies in a scratch directory. Diagnostics are shown one after
    another, and nothing else happens between them. -/
def verifyIn (task : Task) (fixture : Fixture) (tool : Path) (scratch : Scratch) :
    ExceptT RunError Activity Report := do
  let artifacts ← building (Artifacts.build tool fixture task.flags scratch)
  let verification := verify task.kind fixture artifacts.output artifacts.map
  verification.reported.forM fun d => (Activity.report d : ExceptT RunError Activity Unit)
  match verification.result with
  | .ok report => return report
  | .error fault => throw (.verification fault)

/-- **Course** of a task. An error of the build or of the verification comes
    before one of the removal. -/
def perform (config : Config) (tool : Path) (task : Task) :
    ExceptT RunError Activity Report := do
  let fixture := Fixture.ofVariant task.variant
  match fixture.validate with
  | .error e => throw (.verification (.fixture e))
  | .ok () =>
    let scratch ← building (Scratch.create config.scratchRoot)
    let scratch ← ExceptT.lift (scratch.setKeep config.keepScratch)
    let result ← ExceptT.lift (task.verifyIn fixture tool scratch).run
    let cleanup ← ExceptT.lift scratch.remove.run
    match result, cleanup with
    | .error e, _ => throw e
    | .ok _, .error e => throw (.build e)
    | .ok report, .ok () => return report

end Task

/-! ## Runs -/

namespace Summary

/-- Puts a report into a slot. -/
def fill (slots : List (Option Report)) : Nat × Report → List (Option Report)
  | (slot, report) => slots.set slot (some report)

/-- **Collected summary** of tasks that ended, each with its slot, in the order
    in which they ended. -/
def collect (slots : Nat) (ended : List (Nat × Report)) : Summary where
  tasks := (ended.foldl fill (List.replicate slots none)).filterMap id

end Summary

namespace Run

/-- The build tool of a run, made unless that is skipped. -/
def readyTool (config : Config) : ExceptT BuildError Activity Path := do
  unless config.skipBuild do
    Tool.prepare config.toolRoot
  Tool.find config.tool config.toolRoot config.searchPath

/-- Performs tasks one after another up to the first that fails. The answer has
    the slots of the tasks, counted from `slot`. -/
def performAll (config : Config) (tool : Path) : (slot : Nat) → List Task →
    ExceptT RunError Activity (List (Nat × Report))
  | _, [] => return []
  | slot, task :: rest => do
    let report ← task.perform config tool
    return (slot, report) :: (← performAll config tool (slot + 1) rest)

/-- **Run** of a configuration. -/
def perform (config : Config) : ExceptT RunError Activity Summary := do
  let tool ← Task.building (readyTool config)
  let tasks := Task.ofConfig config
  return .collect tasks.length (← performAll config tool 0 tasks)

end Run

end MapAudit
