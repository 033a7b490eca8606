import MapAudit.Config.Basic
import MapAudit.Script.Execution.Starting
import MapAudit.World.Basic

/-! # A host of programs

    The installation is what a machine has before anybody uses it: the programs that
    come with it, a place for temporary files and a home for the user, and the devices.
    What a process can see of its own streams is there as well.

    On this host programs are scripts, or those that come with the machine. A
    program named by a single segment is looked for along a search path; any other
    name leads to the program itself. The directory it starts in must be there.
-/

namespace MapAudit.Script

/-! ## The installation -/

namespace Installation

/-- The file of a program that comes with the machine. -/
def program (name : String) : FileTree :=
  .ofBytes (Raw.toBytes (Image.mark ++ name.toList)) true

/-- The programs by their names. -/
def programs : List (String × FileTree) :=
  (Utility.names ++ shellNames.map (·.1)).map fun name => (name, program name)

/-- A directory that users do not change. -/
def fixed (entries : List (String × FileTree)) : FileTree :=
  .directory (.usual 0o555) entries

/-- How many streams have names. -/
def namedStreams : Nat := 256

/-- A name that is a link. -/
def linked (name target : String) : String × FileTree :=
  (name, .link (.ofString target))

/-- The devices. -/
def devices : FileTree :=
  fixed [
    linked "fd" "/proc/self/fd",
    ("full", .device .full),
    ("null", .device .null),
    ("random", .device .noise),
    ("shm", .empty),
    linked "stderr" "/proc/self/fd/2",
    linked "stdin" "/proc/self/fd/0",
    linked "stdout" "/proc/self/fd/1",
    ("tty", .device .terminal),
    ("urandom", .device .noise),
    ("zero", .device .zero)]

/-- What a process can see of its own streams. -/
def streams : FileTree :=
  fixed ((List.range namedStreams).map fun n => (toString n, .device (.stream n)))

/-- The files that there are from the start. -/
def tree : FileTree :=
  fixed [
    linked "bin" "usr/bin",
    ("dev", devices),
    ("etc", fixed []),
    ("home", fixed []),
    ("proc", fixed [("self", fixed [("fd", streams)])]),
    ("root", .empty),
    ("tmp", .empty),
    ("usr", fixed [("bin", fixed programs)]),
    ("var", fixed [("tmp", .empty)])]

/-- The home of the user. -/
def home : String :=
  "/root"

end Installation

/-! ## The host -/

/-- The variables that a program gets from an environment. -/
def variablesOf (env : Environment) : List (Raw × Variable) :=
  let path := ":".intercalate (env.searchPath.map Path.text)
  let usual := [("PATH", path), ("HOME", Installation.home)].filter fun (name, _) =>
    (env.value? name).isNone
  (env.values ++ usual).map fun (name, value) =>
    (Raw.ofText name, { Variable.ofText (Raw.ofText value) with isExported := true })

/-- The files that a program with a name may be. -/
def candidates (searchPath : List Path) (program : Path) : List Path :=
  match program.segments with
  | [_] => searchPath.map (·.join program)
  | _ => [program]

/-- The image of the first file that can be executed. -/
def firstImage? (tree : FileTree) (base : Location) (name : Raw) (arguments : List Raw) :
    List Path → Option Image
  | [] => none
  | p :: rest =>
    match imageOf tree base name (Raw.ofText p.text) arguments with
    | .ok image => some image
    | .error (.formless _) => none
    | .error _ => firstImage? tree base name arguments rest

/-- The number of the first process. -/
def firstProcess : Nat := 4242

/-- How deep commands may nest. -/
def maxDepth : Nat := 100000

/-- The engine that programs are run by. -/
def hostEngine : Engine :=
  engine maxDepth

/-- The number of the pipe for errors. -/
def errorPipe : Nat := 1

/-- The machine on which a program is about to be started. Its input is empty, and
    everything is taken that it writes. -/
def newMachine (tree : FileTree) (directory : Location) : Machine :=
  let taken := { Pipe.empty with isDrained := true }
  let first : Process := { Process.blank with
    parent := firstProcess - 1
    group := firstProcess - 1
    directory
    streams := [(0, 0), (1, 1), (2, 2)] }
  { Machine.blank with
    tree
    pipes := #[taken, taken]
    channels := #[.device .null, .pipe 0 .writing, .pipe errorPipe .writing]
    processes := [(firstProcess, first)]
    nextProcess := firstProcess + 1 }

/-- The process that is about to become a program. -/
def newborn (env : Environment) (machine : Machine) (directory : Location) : Shell where
  machine
  dialect := .sh
  process := firstProcess
  mainProcess := firstProcess
  nesting := 0
  background := none
  jobs := []
  conduits := []
  companions := []
  directoryText := locationText directory
  directoryStack := []
  name := []
  source := []
  arguments := []
  bindings := variablesOf env
  frames := []
  functions := []
  aliases := []
  remembered := []
  rememberedIn := []
  inStandardPath := false
  options := []
  settings := []
  traps := []
  formerTraps := []
  isTrapped := false
  command := []
  line := 0
  readLine := 0
  depth := 0
  calls := 0
  running := []
  loops := 0
  random := (firstProcess, 0)
  firstSecond := 0
  status := 0
  wordStatus := 0
  stageStatuses := []
  builtin := none
  optionOffset := 0
  unwritten := []
  unwrittenSize := 0
  outputFault := none
  writesInTurn := true
  lacksInput := false

/-- How many steps there may be until a program has ended. -/
def maxSteps : Nat := 1000000000

/-- Whether a program has ended, and nobody is left who could write to where it has
    written. -/
def isOver (m : Machine) : Bool :=
  !m.isAlive firstProcess && !m.hasWriter 0 && !m.hasWriter errorPipe

/-- The machine after an image was launched on it. -/
def runImage (env : Environment) (image : Image) (machine : Machine) (directory : Location) :
    Machine :=
  let start (machine : Machine) : Course :=
    (hostEngine.launch image).run.run (newborn env machine directory) fun (answer, s) =>
      .over s.machine (match answer with
        | .ok status => .exited status
        | .error stop => .exited stop.status)
  machine.advance isOver maxSteps [{ process := firstProcess, need := .nothing, next := start }]

/-- **Launch** of a program in a directory. -/
def launch (base : Location) (env : Environment) (program : Path) (arguments : List String)
    (directory : Path) (tree : FileTree) : Option (Exit × FileTree) := do
  let start ← (tree.locate base directory).toOption
  if !tree.isDirectoryAt start then none
  let image ← firstImage? tree start (Raw.ofText program.text) (arguments.map Raw.ofText)
    (candidates env.searchPath program)
  let after := runImage env image (newMachine tree start) start
  let status := match (after.process firstProcess).ending with
    | some (.exited n) => some (n % 256)
    | some (.killed _) | none => none
  return ({ status, errors := (after.pipe errorPipe).content.toBytes }, after.tree)

/-- **Host** of programs. -/
def host (base : Location) (env : Environment) : Host where
  base := base
  launch := launch base env

end MapAudit.Script
