import MapAudit.Config.Arguments
import MapAudit.Files.Path
import MapAudit.Fixture.Basic

/-! # Configuration

    The configuration of a run is made from the arguments of the command line
    and the environment. Paths become absolute here. Variants and modes named
    more than once count once, at their first place; where none is named, all
    are meant.
-/

namespace MapAudit

/-- **Environment** of a run. -/
structure Environment where
  /-- The directory that relative paths start from. -/
  workingDirectory : Path
  /-- The directories that programs are looked for in. -/
  searchPath : List Path
  /-- The values of variables that are set. -/
  values : List (String × String)
  deriving Repr

namespace Environment

/-- The value of a variable. -/
def value? (env : Environment) (name : String) : Option String :=
  env.values.lookup name

/-- The name of the variable that says where the tool is. -/
def toolVariable : String :=
  "VERIFY_SOURCE_MAP_TOOL"

/-- The name of the variable that says that the tool is not made first. -/
def skipVariable : String :=
  "VERIFY_SOURCE_MAP_SKIP_BUILD"

/-- The words that switch something on, in any mixture of cases. -/
def onWords : List String :=
  ["1", "true", "yes", "on"]

/-- Whether a variable switches something on. -/
def isOn (env : Environment) (name : String) : Bool :=
  match env.value? name with
  | none => false
  | some value => onWords.any fun word => Variant.sameIgnoringCase word value

/-- The absolute path of a path in an environment. -/
def absolute (env : Environment) (p : String) : Path :=
  env.workingDirectory.join (.ofString p)

end Environment

/-- **Configuration** of a run. -/
structure Config where
  /-- Where the tool is said to be. -/
  tool : Option Path
  /-- The directory of the tool. -/
  toolRoot : Path
  /-- The directories in which the tool is looked for last. -/
  searchPath : List Path
  /-- Whether the tool is not made first. -/
  skipBuild : Bool
  /-- Where scratch directories are made. -/
  scratchRoot : Path
  /-- Whether scratch directories stay. -/
  keepScratch : Bool
  /-- The variants to verify, in the order in which they are launched. -/
  variants : List Variant
  /-- The modes to build in, in the order in which they are launched. -/
  modes : List Mode
  /-- The format of the summary. -/
  output : OutputFormat
  deriving DecidableEq, Repr

namespace Config

/-- The directory of the tool when none is given. -/
def defaultToolRoot : String :=
  "."

/-- The variants that are named, each at its first place; all of them if none
    is named. -/
def variantsOf (names : List String) : Except UnknownVariant (List Variant) :=
  if names.isEmpty then .ok Variant.all
  else do return (← names.mapM Variant.parse).eraseDups

/-- The modes that are named, each at its first place; all of them if none is
    named. -/
def modesOf (modes : List Mode) : List Mode :=
  if modes.isEmpty then Mode.all else modes.eraseDups

/-- **Configuration** made from arguments in an environment. -/
def ofArguments (env : Environment) (a : Arguments) : Except UnknownVariant Config := do
  let variants ← variantsOf a.variants
  let toolRoot := env.absolute (a.toolRoot.getD defaultToolRoot)
  return {
    tool := (a.tool <|> env.value? Environment.toolVariable).map env.absolute
    toolRoot
    searchPath := env.searchPath
    skipBuild := a.skipBuild || env.isOn Environment.skipVariable
    scratchRoot := match a.scratchRoot with
      | none => toolRoot
      | some p => env.absolute p
    keepScratch := a.keepScratch
    variants
    modes := modesOf a.modes
    output := a.output.getD .human }

/-- Number of tasks of the run. -/
def taskCount (config : Config) : Nat :=
  config.variants.length * config.modes.length

end Config

end MapAudit
