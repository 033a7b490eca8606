/-! # Command-line arguments

    Arguments are read from left to right. A flag stands for itself. An option
    has a value, which follows it as the next argument or after an equals sign.
    Nothing else is accepted, and the reason why a command line is refused is
    the kind of the first problem met.

    A value that is an argument of its own is taken up only when the next option
    is read or the arguments end. So a problem with it gives way to an argument
    right after it that is not known at all.
-/

namespace MapAudit

/-- How an output is built: as it is, or made small. -/
inductive Mode where
  /-- As it is. -/
  | plain
  /-- Made small. -/
  | minified
  deriving DecidableEq, Repr

namespace Mode

/-- All modes, in the order in which they are launched. -/
def all : List Mode :=
  [.plain, .minified]

/-- The name of a mode. -/
def name : Mode → String
  | .plain => "plain"
  | .minified => "minified"

/-- The mode with a name. -/
def ofName? (name : String) : Option Mode :=
  all.find? (·.name = name)

/-- Whether the output is made small. -/
def minify : Mode → Bool
  | .plain => false
  | .minified => true

end Mode

/-- How a summary is written. -/
inductive OutputFormat where
  /-- For people to read. -/
  | human
  /-- As a JSON document. -/
  | json
  deriving DecidableEq, Repr

namespace OutputFormat

/-- All formats. -/
def all : List OutputFormat :=
  [.human, .json]

/-- The name of a format. -/
def name : OutputFormat → String
  | .human => "human"
  | .json => "json"

/-- The format with a name. -/
def ofName? (name : String) : Option OutputFormat :=
  all.find? (·.name = name)

end OutputFormat

/-- Why a command line is not carried out. -/
inductive UsageError where
  /-- An argument is not known. -/
  | unknownArgument
  /-- A value is missing or is none of those possible. -/
  | invalidValue
  /-- A flag or an option is given twice. -/
  | argumentConflict
  /-- A flag is given a value. -/
  | tooManyValues
  /-- Help is asked for. -/
  | displayHelp
  /-- The version is asked for. -/
  | displayVersion
  deriving DecidableEq, Repr

/-- **Arguments** of a command line. -/
structure Arguments where
  /-- Where the tool is. -/
  tool : Option String
  /-- The directory of the tool. -/
  toolRoot : Option String
  /-- Whether the tool is not made first. -/
  skipBuild : Bool
  /-- Where scratch directories are made. -/
  scratchRoot : Option String
  /-- Whether scratch directories stay. -/
  keepScratch : Bool
  /-- The names of variants, as given. -/
  variants : List String
  /-- The modes, as given. -/
  modes : List Mode
  /-- The format of the summary. -/
  output : Option OutputFormat
  /-- Whether progress is shown. -/
  verbose : Bool
  deriving DecidableEq, Repr

/-- **Flag** on a command line. -/
inductive Flag where
  /-- Does not make the tool first. -/
  | skipBuild
  /-- Leaves scratch directories. -/
  | keepScratch
  /-- Shows progress. -/
  | verbose
  /-- Asks for help. -/
  | help
  /-- Asks for the version. -/
  | version
  deriving DecidableEq, Repr

namespace Flag

/-- All flags. -/
def all : List Flag :=
  [.skipBuild, .keepScratch, .verbose, .help, .version]

/-- The name of a flag. -/
def name : Flag → String
  | .skipBuild => "skip-build"
  | .keepScratch => "keep-scratch"
  | .verbose => "verbose"
  | .help => "help"
  | .version => "version"

/-- The letter of a flag, if it has one. -/
def letter? : Flag → Option Char
  | .skipBuild | .keepScratch => none
  | .verbose => some 'v'
  | .help => some 'h'
  | .version => some 'V'

/-- The flag with a name. -/
def ofName? (name : List Char) : Option Flag :=
  all.find? (·.name.toList = name)

/-- The flag with a letter. -/
def ofLetter? (c : Char) : Option Flag :=
  all.find? (·.letter? = some c)

end Flag

/-- **Option** on a command line: a setting with a value. -/
inductive Setting where
  /-- Where the tool is. -/
  | tool
  /-- The directory of the tool. -/
  | toolRoot
  /-- Where scratch directories are made. -/
  | scratchRoot
  /-- A variant to verify. -/
  | variant
  /-- A mode to build in. -/
  | mode
  /-- The format of the summary. -/
  | output
  deriving DecidableEq, Repr

namespace Setting

/-- All options. -/
def all : List Setting :=
  [.tool, .toolRoot, .scratchRoot, .variant, .mode, .output]

/-- The name of an option. -/
def name : Setting → String
  | .tool => "tool"
  | .toolRoot => "tool-root"
  | .scratchRoot => "scratch-root"
  | .variant => "variant"
  | .mode => "mode"
  | .output => "output"

/-- The option with a name. -/
def ofName? (name : List Char) : Option Setting :=
  all.find? (·.name.toList = name)

end Setting

namespace Arguments

/-- What an empty command line says. -/
def none : Arguments where
  tool := .none
  toolRoot := .none
  skipBuild := false
  scratchRoot := .none
  keepScratch := false
  variants := []
  modes := []
  output := .none
  verbose := false

/-- Takes up a flag. -/
def raise (a : Arguments) : Flag → Except UsageError Arguments
  | .skipBuild =>
    if a.skipBuild then .error .argumentConflict else .ok { a with skipBuild := true }
  | .keepScratch =>
    if a.keepScratch then .error .argumentConflict else .ok { a with keepScratch := true }
  | .verbose => if a.verbose then .error .argumentConflict else .ok { a with verbose := true }
  | .help => .error .displayHelp
  | .version => .error .displayVersion

/-- Takes up an option with its value. Variants and modes may be given many
    times. -/
def assign (a : Arguments) (s : Setting) (value : String) : Except UsageError Arguments :=
  match s with
  | .tool =>
    if a.tool.isSome then .error .argumentConflict else .ok { a with tool := some value }
  | .toolRoot =>
    if a.toolRoot.isSome then .error .argumentConflict else .ok { a with toolRoot := some value }
  | .scratchRoot =>
    if a.scratchRoot.isSome then .error .argumentConflict
    else .ok { a with scratchRoot := some value }
  | .variant => .ok { a with variants := a.variants ++ [value] }
  | .mode =>
    match Mode.ofName? value with
    | some mode => .ok { a with modes := a.modes ++ [mode] }
    | .none => .error .invalidValue
  | .output =>
    if a.output.isSome then .error .argumentConflict
    else
      match OutputFormat.ofName? value with
      | some output => .ok { a with output := some output }
      | .none => .error .invalidValue

/-- **Reading state**: an option may still wait for its value, or to be taken up
    with the value it got. -/
inductive Pending where
  /-- No option waits. -/
  | nothing
  /-- An option waits for its value. -/
  | option (s : Setting)
  /-- An option with its value waits to be taken up. -/
  | value (s : Setting) (value : String)
  deriving DecidableEq, Repr

/-- Takes up what waits. A value that did not come is missing. -/
def settle (a : Arguments) : Pending → Except UsageError Arguments
  | .nothing => .ok a
  | .option _ => .error .invalidValue
  | .value s value => a.assign s value

/-- Takes up flags written by their letters. Whatever waits is taken up before
    the first of them. -/
def readLetters (a : Arguments) (pending : Pending) : List Char →
    Except UsageError (Arguments × Pending)
  | [] => .ok (a, pending)
  | c :: rest =>
    match Flag.ofLetter? c with
    | .none => .error .unknownArgument
    | some flag => do
      let a ← a.settle pending
      readLetters (← a.raise flag) .nothing rest

/-- The part of an argument before its first equals sign, and the value after
    it if there is one. -/
def splitValue : List Char → List Char × Option (List Char)
  | [] => ([], .none)
  | c :: rest =>
    if c = '=' then ([], some rest)
    else
      let (name, value) := splitValue rest
      (c :: name, value)

/-- Takes up an argument that begins with two dashes; `body` is the rest of it. -/
def readLong (a : Arguments) (pending : Pending) (body : List Char) :
    Except UsageError (Arguments × Pending) :=
  match splitValue body with
  | (name, value) =>
    match Flag.ofName? name, Setting.ofName? name, value with
    | some _, _, some _ => .error .tooManyValues
    | some flag, _, .none => do
      let a ← a.settle pending
      return (← a.raise flag, .nothing)
    | .none, some s, some value => do
      let a ← a.settle pending
      return (← a.assign s (String.ofList value), .nothing)
    | .none, some s, .none => do return (← a.settle pending, .option s)
    | .none, .none, _ => .error .unknownArgument

/-- Takes up an argument that is no flag and no option: the value that an option
    waits for, or nothing that is known. -/
def readPlain (a : Arguments) (pending : Pending) (argument : String) :
    Except UsageError (Arguments × Pending) :=
  match pending with
  | .option s => .ok (a, .value s argument)
  | .nothing | .value _ _ => .error .unknownArgument

/-- Reads arguments one after another. After two dashes alone no argument is
    known any more. -/
def readAll (a : Arguments) (pending : Pending) : List String → Except UsageError Arguments
  | [] => a.settle pending
  | argument :: rest =>
    match argument.toList with
    | ['-', '-'] => if rest.isEmpty then a.settle pending else .error .unknownArgument
    | '-' :: '-' :: body => do
      let (a, pending) ← a.readLong pending body
      readAll a pending rest
    | '-' :: c :: letters => do
      let (a, pending) ← a.readLetters pending (c :: letters)
      readAll a pending rest
    | _ => do
      let (a, pending) ← a.readPlain pending argument
      readAll a pending rest

/-- **Arguments** that a command line gives. -/
def parse (arguments : List String) : Except UsageError Arguments :=
  readAll .none .nothing arguments

end Arguments

end MapAudit
