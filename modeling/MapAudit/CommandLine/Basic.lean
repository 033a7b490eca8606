import MapAudit.Run.Basic
import MapAudit.World.Basic

/-! # The command line

    The program reads its arguments, makes a configuration, runs it and writes
    the summary. Its exit status says what came out: zero when every check held,
    one when some did not, and two when no summary could be made. In that last
    case nothing is written as output.
-/

namespace MapAudit.CommandLine

/-- The name of the program. -/
def programName : String :=
  "verify-source-map"

/-- The version of the program. -/
def version : String :=
  "0.1.0"

/-- Why there is no summary. -/
inductive Failure where
  /-- The arguments are not carried out. -/
  | usage (e : UsageError)
  /-- A variant is not known. -/
  | variant (e : UnknownVariant)
  /-- The run was aborted. -/
  | run (e : RunError)
  deriving DecidableEq, Repr

/-- **Course** of the program: the configuration and the summary of its run. -/
def perform (env : Environment) (arguments : List String) :
    ExceptT Failure Activity (Config × Summary) := do
  match Arguments.parse arguments with
  | .error e => throw (.usage e)
  | .ok a =>
    match Config.ofArguments env a with
    | .error e => throw (.variant e)
    | .ok config => return (config, ← (Run.perform config).adapt .run)

/-- **Outcome** of the program. -/
structure Outcome where
  /-- The exit status. -/
  status : Nat
  /-- What is written as output. -/
  output : String
  /-- What is written as errors. -/
  errors : String
  deriving DecidableEq, Repr

/-- The exit status when every check held. -/
def allHeld : Nat := 0

/-- The exit status when some check did not hold. -/
def someFailed : Nat := 1

/-- The exit status when no summary could be made. -/
def broken : Nat := 2

/-- What is said when arguments are refused. -/
def refusalText : UsageError → String
  | .unknownArgument => "error: unknown argument\n"
  | .invalidValue => "error: invalid value\n"
  | .argumentConflict => "error: argument given twice\n"
  | .tooManyValues => "error: value given to a flag\n"
  | .displayHelp | .displayVersion => ""

/-- How the program is called. -/
def usageText : String :=
  "Usage: " ++ programName ++ " [OPTIONS]\n\n"
    ++ "  --tool <PATH>          the build tool\n"
    ++ "  --tool-root <DIR>      where the tool is made and looked for\n"
    ++ "  --skip-build           do not make the tool first\n"
    ++ "  --scratch-root <DIR>   where scratch directories are made\n"
    ++ "  --keep-scratch         leave scratch directories\n"
    ++ "  --variant <NAME>       a variant to verify: commonjs, es6, ts\n"
    ++ "  --mode <NAME>          a mode to build in: plain, minified\n"
    ++ "  --output <FORMAT>      the form of the summary: human, json\n"
    ++ "  -v, --verbose          show progress\n"

/-- The line of an error. -/
def errorLine (message : String) : String :=
  "Error: " ++ message ++ "\n"

/-- **Outcome** of a course, given what was reported on the way. -/
def outcome (result : Except Failure (Config × Summary)) (reported : List Diagnostic) :
    Outcome :=
  let shown := String.join (reported.map fun d => d.line ++ "\n")
  match result with
  | .error (.usage .displayHelp) => { status := allHeld, output := usageText, errors := shown }
  | .error (.usage .displayVersion) =>
    { status := allHeld, output := programName ++ " " ++ version ++ "\n", errors := shown }
  | .error (.usage e) => { status := broken, output := "", errors := shown ++ refusalText e }
  | .error (.variant e) =>
    { status := broken, output := "", errors := shown ++ errorLine e.message }
  | .error (.run e) => { status := broken, output := "", errors := shown ++ errorLine e.message }
  | .ok (config, summary) =>
    { status := if summary.failed = 0 then allHeld else someFailed
      output := summary.text config.output ++ "\n"
      errors := shown }

/-- Runs the program in a world in which nothing has been reported yet. -/
def execute (host : Host) (env : Environment) (arguments : List String) (w : World) :
    Outcome × World :=
  let (result, w) := (perform env arguments).run.run host w
  (outcome result w.reported, w)

end MapAudit.CommandLine
