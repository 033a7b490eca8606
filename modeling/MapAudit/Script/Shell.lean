import MapAudit.Script.Layout
import MapAudit.Script.Command
import MapAudit.Script.Course
import MapAudit.Script.Raw
import MapAudit.Text.Letters

/-! # The shell

    A shell is a process that runs commands. It has variables, functions,
    options, provisions for signals, a working directory, and streams that lead
    to channels of the machine.

    A procedure of the shell gives an exit status or another result, unless it
    stops the shell or a part of what the shell is doing. Utilities are
    procedures as well: they run in a process that has what they need of a shell.

    Settings are options of a shell that have names but no letters. Some of them are
    usually on. A shell keeps just those that are not as usual.
-/

namespace MapAudit.Script

/-! ## Settings -/

namespace Setting

/-- The settings of the richer dialect in the order that they are listed in, and whether
    they are usually on. -/
def all : List (String × Bool) :=
  [("autocd", false), ("assoc_expand_once", false), ("cdable_vars", false), ("cdspell", false),
    ("checkhash", false), ("checkjobs", false), ("checkwinsize", true), ("cmdhist", true),
    ("compat31", false), ("compat32", false), ("compat40", false), ("compat41", false),
    ("compat42", false), ("compat43", false), ("compat44", false), ("complete_fullquote", true),
    ("direxpand", false), ("dirspell", false), ("dotglob", false), ("execfail", false),
    ("expand_aliases", false), ("extdebug", false), ("extglob", false), ("extquote", true),
    ("failglob", false), ("force_fignore", true), ("globasciiranges", true),
    ("globskipdots", true), ("globstar", false), ("gnu_errfmt", false), ("histappend", false),
    ("histreedit", false), ("histverify", false), ("hostcomplete", true), ("huponexit", false),
    ("inherit_errexit", false), ("interactive_comments", true), ("lastpipe", false),
    ("lithist", false), ("localvar_inherit", false), ("localvar_unset", false),
    ("login_shell", false), ("mailwarn", false), ("no_empty_cmd_completion", false),
    ("nocaseglob", false), ("nocasematch", false), ("noexpand_translation", false),
    ("nullglob", false), ("patsub_replacement", true), ("progcomp", true),
    ("progcomp_alias", false), ("promptvars", true), ("restricted_shell", false),
    ("shift_verbose", false), ("sourcepath", true), ("varredir_close", false),
    ("xpg_echo", false)]

/-- Whether a setting is usually on. -/
def isUsuallyOn (name : String) : Bool :=
  name = "interactive-comments" || (all.lookup name).getD false

/-- Whether a setting is on, given those that are not as usual. -/
def isOn (unusual : List String) (name : String) : Bool :=
  unusual.contains name != isUsuallyOn name

/-- The settings that are not as usual after one was turned on or off. -/
def turned (unusual : List String) (name : String) (on : Bool) : List String :=
  let others := unusual.filter (· ≠ name)
  if on = isUsuallyOn name then others else name :: others

end Setting

/-- The names of options, with their letters where they have one. -/
def optionNames (d : Dialect) : List (String × Option Char) :=
  match d with
  | .sh =>
    [("errexit", some 'e'), ("noglob", some 'f'), ("ignoreeof", some 'I'),
      ("interactive", some 'i'), ("monitor", some 'm'), ("noexec", some 'n'), ("stdin", some 's'),
      ("xtrace", some 'x'), ("verbose", some 'v'), ("vi", some 'V'), ("emacs", some 'E'),
      ("noclobber", some 'C'), ("allexport", some 'a'), ("notify", some 'b'),
      ("nounset", some 'u'), ("privileged", some 'p'), ("nolog", none), ("debug", none)]
  | .bash =>
    [("allexport", some 'a'), ("braceexpand", some 'B'), ("emacs", none), ("errexit", some 'e'),
      ("errtrace", some 'E'), ("functrace", some 'T'), ("hashall", some 'h'),
      ("histexpand", some 'H'), ("history", none), ("ignoreeof", none),
      ("interactive-comments", none), ("keyword", some 'k'), ("monitor", some 'm'),
      ("noclobber", some 'C'), ("noexec", some 'n'), ("noglob", some 'f'), ("nolog", none),
      ("notify", some 'b'), ("nounset", some 'u'), ("onecmd", some 't'), ("physical", some 'P'),
      ("pipefail", none), ("posix", none), ("privileged", some 'p'), ("verbose", some 'v'),
      ("vi", none), ("xtrace", some 'x')]

/-! ## Values -/

/-- Why something could not be written. -/
inductive WriteFault where
  /-- There is no stream that could be written. -/
  | noStream
  /-- Nobody reads the pipe. -/
  | noReader
  /-- There is no room. -/
  | noRoom
  /-- The file would get too big. -/
  | tooBig
  deriving DecidableEq, Repr

/-- What is said about a fault in writing. -/
def WriteFault.text : WriteFault → Raw
  | .noStream => "Bad file descriptor".toList
  | .noReader => "Broken pipe".toList
  | .noRoom => "No space left on device".toList
  | .tooBig => "File too large".toList

/-- The value of a variable. -/
inductive Value where
  /-- There is none. -/
  | unset
  /-- A text. -/
  | text (r : Raw)
  /-- Texts with numbers, in the order of the numbers. -/
  | list (elements : List (Nat × Raw))
  /-- Texts with names. -/
  | table (elements : List (Raw × Raw))
  deriving DecidableEq, Repr

namespace Value

/-- Puts a text among numbered ones. -/
def putNumbered (i : Nat) (r : Raw) : List (Nat × Raw) → List (Nat × Raw)
  | [] => [(i, r)]
  | (k, t) :: rest =>
    if i < k then (i, r) :: (k, t) :: rest
    else if i = k then (i, r) :: rest
    else (k, t) :: putNumbered i r rest

/-- A number that is mixed from the bytes of a name, of which those above 127 count as
    negative. -/
def mixed (key : Raw) : Nat :=
  key.foldl (fun n c =>
    let byte := if c.toNat < 0x80 then c.toNat else c.toNat + 0xFFFFFF00
    (n * 16777619 % 4294967296) ^^^ byte) 2166136261

/-- The rank of a name among others: a number under 1024. -/
def rank (key : Raw) : Nat :=
  mixed key % 1024

/-- Puts a text among named ones. They are in the order of the ranks of their names;
    of those with the same rank the last one comes first. -/
def putNamed (key r : Raw) (elements : List (Raw × Raw)) : List (Raw × Raw) :=
  if (elements.lookup key).isSome then
    elements.map fun (k, t) => if k = key then (key, r) else (k, t)
  else
    let n := rank key
    let before := elements.takeWhile fun (k, _) => rank k < n
    before ++ (key, r) :: elements.drop before.length

end Value

/-- **Variable**. -/
structure Variable where
  /-- Its value. -/
  value : Value
  /-- Whether programs that are started get it. -/
  isExported : Bool
  /-- Whether it cannot be changed. -/
  isReadOnly : Bool
  /-- Whether what is assigned is computed first. -/
  isNumber : Bool
  /-- Whether its text is the name of another variable, which is meant instead. -/
  isReference : Bool
  /-- How the letters of what is assigned are changed. -/
  recasing : Option Recasing
  deriving DecidableEq, Repr

namespace Variable

/-- A variable with a text as its value. -/
def ofText (r : Raw) : Variable where
  value := .text r
  isExported := false
  isReadOnly := false
  isNumber := false
  isReference := false
  recasing := none

/-- A variable without a value. -/
def blank : Variable where
  value := .unset
  isExported := false
  isReadOnly := false
  isNumber := false
  isReference := false
  recasing := none

/-- The text of a variable. -/
def text? (v : Variable) : Option Raw :=
  match v.value with
  | .unset => none
  | .text r => some r
  | .list elements => elements.lookup 0
  | .table elements => elements.lookup ['0']

end Variable

/-- What a name for a command was given to. -/
structure Definition where
  /-- The command. -/
  body : Command
  /-- The name of the script that defines it. -/
  source : Raw
  /-- The line that the definition begins in. -/
  line : Nat
  /-- Whether programs that are started get it. -/
  isExported : Bool
  /-- Whether it cannot be changed. -/
  isReadOnly : Bool

/-- **Call** of a function, or of a script that is read in. -/
structure Call where
  /-- The name of the function. -/
  name : Raw
  /-- The line of the command that calls it. -/
  line : Nat
  /-- The name of the script that its commands stand in. -/
  source : Raw
  /-- Whether it is a function. -/
  isFunction : Bool
  /-- The options and the settings that there are again when it ends. -/
  options : Option (List Char × List String)
  deriving DecidableEq, Repr

/-- **Job**: a command that the shell did not wait for. -/
structure Job where
  /-- Its number, or zero if it lost that. -/
  number : Nat
  /-- The numbers of its processes, the last stage last, and how they ended once
      that is known. -/
  processes : List (Nat × Option Ending)
  /-- The command as it is listed. -/
  text : Raw
  /-- Whether the shell has waited for it. -/
  isWaitedFor : Bool
  deriving DecidableEq, Repr

/-- **Companion**: a command that goes on beside the shell, which can write to it and read
    from it. -/
structure Companion where
  /-- The name of the variable that holds the numbers of its streams. -/
  name : Raw
  /-- The number of the process. -/
  process : Nat
  /-- The streams that lead from it and to it. -/
  streams : List Nat
  deriving DecidableEq, Repr

namespace Companion

/-- The name of the variable that holds the number of the process. -/
def processName (c : Companion) : Raw :=
  c.name ++ "_PID".toList

end Companion

/-- **Remembered program**. -/
structure Remembered where
  /-- Its name. -/
  name : Raw
  /-- The file that was found for it. -/
  file : Raw
  /-- How often it was used. -/
  uses : Nat
  /-- Whether it is to be looked for again, because the working directory changed. -/
  isStale : Bool
  deriving DecidableEq, Repr

/-- **Shell**. -/
structure Shell where
  /-- The machine that it runs on. -/
  machine : Machine
  /-- The dialect of its scripts. -/
  dialect : Dialect
  /-- Its number as a process. -/
  process : Nat
  /-- The number of the process that it is a part of. -/
  mainProcess : Nat
  /-- How many processes deep it is in that one. -/
  nesting : Nat
  /-- The number of the last command that it did not wait for. -/
  background : Option Nat
  /-- The commands that it did not wait for. -/
  jobs : List Job
  /-- The streams that lead to pipes which words stand for. -/
  conduits : List Nat
  /-- The commands that go on beside it. -/
  companions : List Companion
  /-- The path that the directory was reached by. -/
  directoryText : Raw
  /-- The directories that are to be gone back to, the next one first. -/
  directoryStack : List Raw
  /-- The name of the script. -/
  name : Raw
  /-- The name of the script that the running commands stand in. -/
  source : Raw
  /-- The arguments of the script. -/
  arguments : List Raw
  /-- The variables, in the order that they were made in. -/
  bindings : List (Raw × Variable)
  /-- The variables that functions which are running hide, by function. -/
  frames : List (List (Raw × Option Variable))
  /-- The commands that names were given to. -/
  functions : List (Raw × Definition)
  /-- The texts that words stand for where a command begins. -/
  aliases : List (Raw × Raw)
  /-- The programs that were found by their names, in the order that they are listed in. -/
  remembered : List Remembered
  /-- The search path that they were found with. -/
  rememberedIn : Raw
  /-- Whether programs are looked for in the standard search path. -/
  inStandardPath : Bool
  /-- The letters of the options that are on. -/
  options : List Char
  /-- The names of settings that are not as usual. -/
  settings : List String
  /-- What is done on signals. Nothing is done on one that is ignored. The number
      zero stands for the end of the shell. -/
  traps : List (Signal × Raw)
  /-- What was done on signals in the shell that this one is a part of, as long as it
      makes no provisions itself. -/
  formerTraps : List (Signal × Raw)
  /-- Whether something is being done on a signal. -/
  isTrapped : Bool
  /-- The text of the command that is being run. -/
  command : Raw
  /-- The line of the command that is being run. -/
  line : Nat
  /-- The line that the script was read up to. -/
  readLine : Nat
  /-- How deep texts nest that are run as commands. -/
  depth : Nat
  /-- Number of functions that are running, or of scripts that are read in. -/
  calls : Nat
  /-- The functions that are running, the last called first. -/
  running : List Call
  /-- Number of loops that are running. -/
  loops : Nat
  /-- The state that the next random number comes from, and the last such number. -/
  random : Nat × Nat
  /-- The second that counting seconds begins with. -/
  firstSecond : Int
  /-- The exit status of the last command. -/
  status : Nat
  /-- The exit status of the last command whose output became part of a word. -/
  wordStatus : Nat
  /-- The exit statuses of the stages of the last pipeline. -/
  stageStatuses : List Nat
  /-- The name of the builtin command that is running. -/
  builtin : Option Raw
  /-- How many characters of an argument with options were looked at. -/
  optionOffset : Nat
  /-- What is still to be written to the output, in parts, the last one first. -/
  unwritten : List Raw
  /-- How much that is. -/
  unwrittenSize : Nat
  /-- Why output could not be written. -/
  outputFault : Option WriteFault
  /-- Whether output is written before complaints are. -/
  writesInTurn : Bool
  /-- Whether the input was asked for where there is none. -/
  lacksInput : Bool

namespace Shell

/-- What the machine knows of a shell as a process. -/
def self (s : Shell) : Process :=
  s.machine.process s.process

/-- Whether a setting is on. -/
def isOn (s : Shell) (name : String) : Bool :=
  Setting.isOn s.settings name

/-- Whether an option is on that has a name, and perhaps a letter. -/
def isOptionOn (s : Shell) (name : String) (letter : Option Char) : Bool :=
  match letter with
  | some c => s.options.contains c
  | none => s.isOn name

/-- The names of the options that are on, with colons between them. -/
def optionsOn (s : Shell) : Raw :=
  let names := (optionNames .bash).filter fun (name, letter) => s.isOptionOn name letter
  [':'].intercalate (names.map (·.1.toList))

/-- The names of the settings that are on, with colons between them. -/
def settingsOn (s : Shell) : Raw :=
  [':'].intercalate ((Setting.all.filter fun (name, _) => s.isOn name).map (·.1.toList))

/-- The directory that relative paths start from. -/
def directory (s : Shell) : Location :=
  s.self.directory

/-- A path as it is shown: a tilde stands for the home directory. -/
def shownPath (s : Shell) (r : Raw) : Raw :=
  match (s.bindings.lookup "HOME".toList).bind (·.text?) with
  | some (c :: home) =>
    let rest := r.drop (home.length + 1)
    if (c :: home).isPrefixOf r && (rest.isEmpty || rest.head? = some '/') then '~' :: rest else r
  | _ => r

/-- The directories of the stack, of which the working directory is the first. -/
def directories (s : Shell) : List Raw :=
  s.directoryText :: s.directoryStack

/-- The number of one of the directories, which is counted from the start or from the end. -/
def directoryIndex? (s : Shell) (isFromEnd : Bool) (n : Nat) : Option Nat :=
  if s.directoryStack.length < n then none
  else some (if isFromEnd then s.directoryStack.length - n else n)

/-- The numbers of the channels that streams lead to. -/
def streams (s : Shell) : List (Nat × Nat) :=
  s.self.streams

end Shell

/-- Why a shell stops, or a part of what it is doing. -/
inductive Stop where
  /-- The shell exits with a status. -/
  | exit (status : Nat)
  /-- The command cannot be carried out. The shell exits with a status, unless
      the command is one that may fail. -/
  | fault (status : Nat)
  /-- The commands of the line are given up with a status. -/
  | discard (status : Nat)
  /-- The function or the script that was read in is left with a status. -/
  | leave (status : Nat)
  /-- That many loops are left; of the last of them just this round, if it
      `goesOn`. -/
  | leaveLoops (count : Nat) (goesOn : Bool)
  deriving DecidableEq, Repr

/-- **Procedure** of a shell. -/
abbrev Procedure := ExceptT Stop (StateT Shell Thread)

/-- The text of a location. -/
def locationText (location : Location) : Raw :=
  if location.isEmpty then ['/'] else location.flatMap fun name => '/' :: Raw.ofText name

/-- What is said about a fault. -/
def faultText : FileFault → Raw
  | .notFound | .badName => "No such file or directory".toList
  | .notDirectory => "Not a directory".toList
  | .isDirectory => "Is a directory".toList
  | .alreadyExists => "File exists".toList
  | .nameTooLong => "File name too long".toList
  | .tooManyLinks => "Too many levels of symbolic links".toList
  | .notText => "Invalid or incomplete multibyte or wide character".toList
  | .denied => "Permission denied".toList
  | .noDevice => "No such device or address".toList
  | .noStream => "Bad file descriptor".toList
  | .noRoom => "Cannot allocate memory".toList

namespace Procedure

/-! ## Processes -/

/-- Changes the machine. -/
def onMachine (f : Machine → Machine) : Procedure Unit :=
  modify fun s =>
    let machine := s.machine
    let s := { s with machine := .blank }
    { s with machine := f machine }

/-- Changes what the machine knows of the process. -/
def onSelf (f : Process → Process) : Procedure Unit :=
  modify fun s =>
    let machine := s.machine
    let s := { s with machine := .blank }
    { s with machine := machine.onProcess s.process f }

/-- Rests until there is what is needed, after something that took so much time. -/
def rest (cost : Nat) (need : Need) : Procedure Unit := fun s next =>
  let machine := s.machine
  let s := { s with machine := .blank }
  .rest machine cost need fun machine => next (.ok (), { s with machine })

/-- Lets others do something, after something that took so much time. -/
def breathe (cost : Nat) : Procedure Unit :=
  rest cost .nothing

/-- Splits the process in two. The answer says whether this is the second one, and
    the number of that. -/
def split : Procedure (Bool × Nat) := fun s next =>
  let machine := s.machine
  let s := { s with machine := .blank }
  .split machine fun isSecond second machine => next (.ok (isSecond, second), { s with machine })

/-- Ends the process at once. -/
def finish {α : Type} (ending : Ending) : Procedure α := fun s _ =>
  .over s.machine ending

/-- What a step of something comes to that is done step by step. -/
inductive Progress (σ α : Type) where
  /-- It is not done. -/
  | more (state : σ)
  /-- It is done. -/
  | done (a : α)

/-- Does something step by step, at most `n` of them. A process that does not get
    done has no room left. -/
def stepwiseUpTo {σ α : Type} (step : σ → Procedure (Progress σ α)) : (n : Nat) → σ → Procedure α
  | 0, _ => finish (.killed 11)
  | n + 1, state => do
    match ← step state with
    | .done a => return a
    | .more next => stepwiseUpTo step n next

/-- How many steps there may be. -/
def maxSteps : Nat := 1000000000

/-- Does something step by step. -/
def stepwise {σ α : Type} (start : σ) (step : σ → Procedure (Progress σ α)) : Procedure α :=
  stepwiseUpTo step maxSteps start

/-- Sends a signal to the process itself, and lets it take effect. -/
def raise (signal : Signal) : Procedure Unit := do
  let p := (← get).process
  onMachine (·.signal p signal)
  breathe 0

/-- Waits for the end of one of some processes. -/
def awaitAny (children : List Nat) (deadline : Option Nat) (minds : Bool) : Procedure Unit :=
  rest 0 (.child children deadline minds)

/-- Waits for the end of a process that the shell has started, and forgets it. -/
def await (child : Nat) : Procedure Ending := do
  awaitAny [child] none false
  let ending := ((← get).machine.process child).ending
  onMachine (·.forget child)
  return ending.getD (.exited 0)

/-! ## Streams -/

/-- The number of the channel that a stream leads to. -/
def channelOf? (stream : Nat) : Procedure (Option Nat) := do
  return (← get).streams.lookup stream

/-- The channel that a stream leads to. -/
def channelAt? (stream : Nat) : Procedure (Option Channel) := do
  let s ← get
  return (s.streams.lookup stream).map s.machine.channel

/-- How long it takes to write or read. -/
def transferCost : Nat := 5000

/-- Writes to a pipe, in at most `n` portions. Small ones are not broken up. -/
def pourUpTo (pipe : Nat) : (n : Nat) → Raw → Procedure (Option WriteFault)
  | 0, _ => return none
  | n + 1, r => do
    let m := (← get).machine
    if !m.hasReader pipe then
      raise Signal.pipe
      return some .noReader
    let room := m.room pipe
    if r.length ≤ room then
      onMachine fun m => m.setPipe pipe ((m.pipe pipe).push r)
      breathe transferCost
      return none
    else if room = 0 || r.length ≤ 4096 then
      rest 0 (.room pipe)
      pourUpTo pipe n r
    else
      onMachine fun m => m.setPipe pipe ((m.pipe pipe).push (r.take room))
      rest transferCost (.room pipe)
      pourUpTo pipe n (r.drop room)

/-- Writes to a place in a file, up to the size that files may have. -/
def inscribe (i : Nat) (place : FilePlace) (offset : Nat) (access : Access) (r : Raw) :
    Procedure (Option WriteFault) := do
  let s ← get
  match s.machine.fileAt? place with
  | none => return none
  | some f => do
    let offset := if access.appends then f.content.size else offset
    let fits := match s.self.sizeLimit with
      | some limit => if offset + r.length ≤ limit then r else r.take (limit - offset)
      | none => r
    if !fits.isEmpty then
      onMachine fun m =>
        let bytes := Raw.toBytes fits
        let content := Machine.overwrite f.content offset bytes
        (m.reviseAt place (m.rewritten f content)).setChannel i
          (.file place (offset + bytes.size) access)
    if fits.length < r.length then
      raise Signal.sizeLimit
      return some .tooBig
    breathe transferCost
    return none

/-- Writes to a channel. -/
def pour (i : Nat) (r : Raw) : Procedure (Option WriteFault) := do
  match (← get).machine.channel i with
  | .pipe number access =>
    if access.writes then pourUpTo number (r.length + 2) r else return some .noStream
  | .file place offset access =>
    if access.writes then inscribe i place offset access r else return some .noStream
  | .directory _ => return some .noStream
  | .device .full => return some .noRoom
  | .device _ => do
    breathe transferCost
    return none

/-- Writes to a stream at once. -/
def writeTo (stream : Nat) (r : Raw) : Procedure (Option WriteFault) := do
  if r.isEmpty then return none
  match ← channelOf? stream with
  | some i => pour i r
  | none => return some .noStream

/-- Writes the output that is still to be written. -/
def flush : Procedure Unit := do
  let s ← get
  if s.unwritten.isEmpty then return ()
  let r := s.unwritten.reverse.flatten
  modify fun s => { s with unwritten := [], unwrittenSize := 0 }
  match ← writeTo 1 r with
  | none => return ()
  | some fault => modify fun s => { s with outputFault := s.outputFault.orElse fun _ => some fault }

/-- How much output is kept before it is written. -/
def outputSize : Nat := 4096

/-- Writes output. It is kept until there is more of it, or it is asked for. -/
def write (r : Raw) : Procedure Unit := do
  if r.isEmpty then return ()
  modify fun s =>
    { s with unwritten := r :: s.unwritten, unwrittenSize := s.unwrittenSize + r.length }
  if outputSize ≤ (← get).unwrittenSize then flush

/-- Writes errors. -/
def complain (r : Raw) : Procedure Unit := do
  if (← get).writesInTurn then flush
  let _ ← writeTo 2 r

/-- Bytes in disorder, so many of them. -/
def noise (count seed : Nat) : Raw :=
  (List.range count).map fun i =>
    let n := (seed + i + 1) * 2654435761
    Raw.byteOf (n / 65536 % 256)

/-- Reads at most so much from a channel. There is nothing left to be read when
    nothing comes. -/
def pull (i limit : Nat) : Procedure (Except FileFault Raw) := do
  let s ← get
  match s.machine.channel i with
  | .pipe number access => do
    if !access.reads then return .error .noStream
    if (s.machine.pipe number).size = 0 then rest 0 (.input number none)
    let (r, pipe) := ((← get).machine.pipe number).pull limit
    onMachine (·.setPipe number pipe)
    breathe transferCost
    return .ok r
  | .file place offset access => do
    if !access.reads then return .error .noStream
    match s.machine.fileAt? place with
    | none => return .ok []
    | some f => do
      let bytes := f.content.extract offset (offset + limit)
      onMachine (·.setChannel i (.file place (offset + bytes.size) access))
      breathe transferCost
      return .ok (Raw.ofBytes bytes)
  | .directory _ => return .error .isDirectory
  | .device d => do
    breathe transferCost
    match d with
    | .zero | .full => return .ok (List.replicate limit '\x00')
    | .noise => return .ok (noise limit s.machine.now)
    | .null | .terminal | .stream _ => return .ok []

/-- How much is read at a time. -/
def portionSize : Nat := 65536

/-- Reads a channel to its end. -/
def drain (i : Nat) : Procedure (Except FileFault Raw) :=
  stepwise [] fun parts => do
    match ← pull i portionSize with
    | .error fault => return .done (if parts.isEmpty then .error fault else .ok parts.reverse.flatten)
    | .ok [] => return .done (.ok parts.reverse.flatten)
    | .ok r => return .more (r :: parts)

/-- Reads everything that the input holds. -/
def readInput : Procedure Raw := do
  match ← channelOf? 0 with
  | some i => return ((← drain i).toOption).getD []
  | none => return []

/-- Reads up to a character, or so many characters, from a channel. What follows it
    can still be read. -/
def pullUpTo (i : Nat) (stop : Char) (limit : Nat) : Procedure Raw := do
  let s ← get
  match s.machine.channel i with
  | .pipe number access => do
    if !access.reads then return []
    if (s.machine.pipe number).size = 0 then rest 0 (.input number none)
    let (r, pipe) := ((← get).machine.pipe number).pullUpTo stop limit
    onMachine (·.setPipe number pipe)
    breathe transferCost
    return r
  | .file place offset access => do
    if !access.reads then return []
    match s.machine.fileAt? place with
    | none => return []
    | some f => do
      let finish := Machine.placeOfByte f.content stop.toNat.toUInt8 limit offset
      let r := Raw.ofBytes (f.content.extract offset (min (finish + 1) (offset + limit)))
      onMachine (·.setChannel i (.file place (offset + r.length) access))
      breathe transferCost
      return r
  | .directory _ => return []
  | .device _ => return ((← pull i (min limit 1)).toOption).getD []

/-- Lets a stream lead to the channel with a number. -/
def joinStream (stream i : Nat) : Procedure Unit :=
  onSelf fun p => { p with streams := (stream, i) :: p.streams.filter (·.1 ≠ stream) }

/-- Lets a stream lead nowhere. -/
def closeStream (stream : Nat) : Procedure Unit :=
  onSelf fun p => { p with streams := p.streams.filter (·.1 ≠ stream) }

/-- Opens a channel. -/
def openChannel (c : Channel) : Procedure Nat := do
  let (i, machine) := (← get).machine.openChannel c
  onMachine fun _ => machine
  return i

/-- Opens a channel for a stream. -/
def setStream (stream : Nat) (c : Channel) : Procedure Unit := do
  joinStream stream (← openChannel c)

/-- Makes a pipe. The answer has the numbers of the channels for reading and for
    writing. -/
def makePipe : Procedure (Nat × Nat) := do
  let (n, machine) := (← get).machine.newPipe .empty
  onMachine fun _ => machine
  return (← openChannel (.pipe n .reading), ← openChannel (.pipe n .writing))

/-- Makes a pipe that holds a text, and gives the number of the channel for reading
    it. -/
def textChannel (r : Raw) : Procedure Nat := do
  let (n, machine) := (← get).machine.newPipe (Pipe.empty.push r)
  onMachine fun _ => machine
  openChannel (.pipe n .reading)

/-- Does something and lets some streams lead where they did before. -/
def keepingStreams {α : Type} (numbers : List Nat) (p : Procedure α) : Procedure α := do
  let kept := (← get).streams.filter fun (n, _) => numbers.contains n
  onSelf fun p => { p with kept := kept :: p.kept }
  let restore : Procedure Unit := do
    flush
    onSelf fun p =>
      let others := p.streams.filter fun (n, _) => !numbers.contains n
      { p with streams := kept ++ others, kept := p.kept.tail }
  let a ← tryCatch p fun stop => do
    restore
    throw stop
  restore
  return a

/-! ## Complaints -/

/-- An error line that begins with the name of the script and the line of the
    command that is being run. -/
def prefixed (r : Raw) : Procedure Raw := do
  let s ← get
  let builtin := match s.builtin with
    | some name => name ++ ": "
    | none => []
  match s.dialect with
  | .sh => return s.name ++ ": " ++ Raw.ofNat s.line ++ ": " ++ builtin ++ r ++ ['\n']
  | .bash => return s.source ++ ": line " ++ Raw.ofNat s.line ++ ": " ++ builtin ++ r ++ ['\n']

/-- Complains about the command that is being run. -/
def warn (r : Raw) : Procedure Unit := do
  complain (← prefixed r)

/-- Complains about the command that is being run, and gives it up. -/
def refuse {α : Type} (r : Raw) : Procedure α := do
  warn r
  throw (.fault 2)

/-- Does something; where it would give up the line, the command just fails. -/
def containing (p : Procedure Nat) : Procedure Nat :=
  tryCatch p fun stop => match stop with
    | .discard n => return n
    | stop => throw stop

/-- Whether the dialect is the richer one. -/
def isRich : Procedure Bool := do
  return (← get).dialect == .bash

/-- Whether an option is on. -/
def hasOption (letter : Char) : Procedure Bool := do
  return (← get).options.contains letter

/-! ## Variables -/

/-- What the richer dialect tells about itself under a name. -/
def selfKnowledge? (s : Shell) (name : Raw) : Option Value :=
  let listed (texts : List Raw) : Value := .list (texts.zipIdx.map fun (r, i) => (i, r))
  match String.ofList name with
  | "PIPESTATUS" => some (listed (s.stageStatuses.map Raw.ofNat))
  | "FUNCNAME" =>
    if s.running.any (·.isFunction) then
      some (listed (s.running.map (·.name) ++ ["main".toList]))
    else none
  | "BASH_SOURCE" => some (listed (s.running.map (·.source) ++ [s.name]))
  | "BASH_LINENO" => some (listed (s.running.map (fun c => Raw.ofNat c.line) ++ [['0']]))
  | "BASH_COMMAND" => some (.text s.command)
  | "SHELLOPTS" => some (.text s.optionsOn)
  | "BASHOPTS" => some (.text s.settingsOn)
  | "BASHPID" => some (.text (Raw.ofNat s.process))
  | "DIRSTACK" => some (listed (s.directoryText :: s.directoryStack))
  | "GROUPS" => some (listed [['0']])
  | "BASH_SUBSHELL" => some (.text (Raw.ofNat s.nesting))
  | "SECONDS" => some (.text (Raw.ofInt (s.machine.now / 1000000000 - s.firstSecond)))
  | "EPOCHSECONDS" => some (.text (Raw.ofInt (s.machine.time / 1000000000)))
  | "EPOCHREALTIME" =>
    let micros := (s.machine.time / 1000).toNat
    let places := (Raw.ofNat (1000000 + micros % 1000000)).drop 1
    some (.text (Raw.ofNat (micros / 1000000) ++ '.' :: places))
  | "RANDOM" => some (.text (Raw.ofNat s.random.2))
  | _ => none

/-- The name of the variable that is meant by a name, at most `n` references on. -/
def meantUpTo (bindings : List (Raw × Variable)) : (n : Nat) → Raw → Raw
  | 0, name => name
  | n + 1, name =>
    match bindings.lookup name with
    | some { isReference := true, value := .text r, .. } => meantUpTo bindings n r
    | _ => name

/-- The name of the variable that is meant by a name. Only the richer dialect knows
    references. -/
def meantBy (name : Raw) : Procedure Raw := do
  let s ← get
  match s.dialect with
  | .sh => return name
  | .bash => return meantUpTo s.bindings 8 name

/-- A variable. -/
def lookUp? (name : Raw) : Procedure (Option Variable) := do
  let name ← meantBy name
  let s ← get
  match s.bindings.lookup name, s.dialect with
  | some v, _ => return some v
  | none, .sh => return none
  | none, .bash => return (selfKnowledge? s name).map fun value => { Variable.blank with value }

/-- The text of a variable. -/
def valueOf? (name : Raw) : Procedure (Option Raw) := do
  return (← lookUp? name).bind (·.text?)

/-- Variables of which one was put in the place of that with its name. -/
def withVariable (name : Raw) (v : Variable) (bindings : List (Raw × Variable)) :
    List (Raw × Variable) :=
  if (bindings.lookup name).isSome then
    bindings.map fun (key, old) => if key = name then (key, v) else (key, old)
  else bindings ++ [(name, v)]

/-- Puts a variable in the place of the one with its name. -/
def putVariable (name : Raw) (v : Variable) : Procedure Unit :=
  modify fun s => { s with bindings := withVariable name v s.bindings }

/-- Refuses a change of a variable that cannot be changed. -/
def refuseReadOnly {α : Type} (name : Raw) : Procedure α := do
  if ← isRich then
    modify fun s => { s with builtin := none }
    warn (name ++ ": readonly variable")
    throw (.discard 1)
  else refuse (name ++ ": is read only")

/-- A character with its case changed. -/
def recased (recasing : Recasing) (c : Char) : Char :=
  match recasing with
  | .upper => Text.toCapital c
  | .lower => Text.toSmall c
  | .toggle => if Text.isCapital c then Text.toSmall c else Text.toCapital c

/-- A text with the letters changed. -/
def recase (recasing : Recasing) (r : Raw) : Raw :=
  Raw.narrow ((Raw.widen r).map (recased recasing))

/-- Gives a variable a value. Whether it is exported stays. -/
def setValue (name : Raw) (value : Value) : Procedure Unit := do
  let name ← meantBy name
  let old := ((← get).bindings.lookup name).getD .blank
  if old.isReadOnly then refuseReadOnly name
  let isExported := old.isExported || (← hasOption 'a')
  putVariable name { old with value, isExported }

/-- The state that follows another one in a sequence of random numbers. -/
def nextRandom (n : Nat) : Nat :=
  let n := if n = 0 then 123459876 else n
  16807 * n % 2147483647

/-- Draws a random number, which is not the same as the last one; at most `n` times. -/
def drawUpTo : (n : Nat) → Nat × Nat → Nat × Nat
  | 0, state => state
  | n + 1, (seed, last) =>
    let next := nextRandom seed
    let drawn := ((next >>> 16) ^^^ (next &&& 65535)) &&& 32767
    if drawn = last then drawUpTo n (next, last) else (next, drawn)

/-- Draws the next random number if a variable stands for one. -/
def drawFor (name : Raw) : Procedure Unit := do
  if name = "RANDOM" then
    modify fun s => if s.dialect = .bash then { s with random := drawUpTo 4 s.random } else s

/-- What assigning a text to a variable that is known anyhow does. The answer says whether
    it is one. -/
def adjust (name r : Raw) : Procedure Bool := do
  if !(← isRich) then return false
  match String.ofList name with
  | "RANDOM" => do
    modify fun s => { s with random := ((Raw.toNat? r).getD 0, 0) }
    return true
  | "SECONDS" => do
    let start : Int := ((Raw.toNat? r).getD 0 : Nat)
    modify fun s => { s with firstSecond := s.machine.now / 1000000000 - start }
    return true
  | _ => return false

/-- Gives a variable a text. In a list it becomes the first element. -/
def setVariable (name r : Raw) : Procedure Unit := do
  let name ← meantBy name
  if ← adjust name r then return ()
  if name = "OPTIND" then modify fun s => { s with optionOffset := 0 }
  let old := ((← get).bindings.lookup name).getD .blank
  let r := match old.recasing with
    | some recasing => recase recasing r
    | none => r
  match old.value with
  | .list elements => setValue name (.list ((0, r) :: elements.filter (·.1 ≠ 0)))
  | .table elements => setValue name (.table (Value.putNamed ['0'] r elements))
  | .unset | .text _ => setValue name (.text r)

/-- Takes a variable away. -/
def unsetVariable (name : Raw) : Procedure Unit := do
  let name ← meantBy name
  let old := ((← get).bindings.lookup name).getD .blank
  if old.isReadOnly then
    if ← isRich then
      warn (name ++ ": cannot unset: readonly variable")
    else refuse (name ++ ": is read only")
  else modify fun s => { s with bindings := s.bindings.filter (·.1 ≠ name) }

/-- The variables that programs get. -/
def exported : Procedure (List (Raw × Raw)) := do
  return (← get).bindings.filterMap fun (name, v) =>
    match v.isExported, v.value with
    | true, .text r => some (name, r)
    | _, _ => none

/-- Does something and restores the variables afterwards that were hidden
    meanwhile. -/
def inFrame {α : Type} (p : Procedure α) : Procedure α := do
  modify fun s => { s with frames := [] :: s.frames }
  let restore : Procedure Unit := modify fun s =>
    match s.frames with
    | [] => s
    | hidden :: frames =>
      let bindings := hidden.foldl (fun bindings (name, old) => match old with
        | some v => withVariable name v bindings
        | none => bindings.filter (·.1 ≠ name)) s.bindings
      { s with frames, bindings }
  let a ← tryCatch p fun stop => do
    restore
    throw stop
  restore
  return a

/-- Hides a variable until the end of the frame. -/
def hide (name : Raw) : Procedure Unit :=
  modify fun s =>
    match s.frames with
    | [] => s
    | here :: frames =>
      if (here.lookup name).isSome then s
      else { s with frames := ((name, s.bindings.lookup name) :: here) :: frames }

/-! ## Files -/

/-- The path that a raw text is read as. -/
def pathOf (r : Raw) : Path :=
  .ofString r.toText

/-- The node that stands for what a stream leads to. -/
def streamNode? (stream : Nat) : Procedure (Option FileTree) := do
  let m := (← get).machine
  return match ← channelAt? stream with
    | none => none
    | some (.pipe number _) => some (.pipe number)
    | some (.file place _ _) => (m.fileAt? place).map .file
    | some (.directory location) => m.tree.get? location
    | some (.device d) => some (.device d)

/-- The node that a path leads to. -/
def find (r : Raw) : Procedure (Except FileFault FileTree) := do
  let s ← get
  match s.machine.tree.find s.directory (pathOf r) with
  | .ok (.device (.stream n)) =>
    return match ← streamNode? n with
      | some node => .ok node
      | none => .error .notFound
  | answer => return answer

/-- The node that a path names. -/
def findName (r : Raw) : Procedure (Except FileFault FileTree) := do
  let s ← get
  return s.machine.tree.findName s.directory (pathOf r)

/-- The location that a path leads to. -/
def locate (r : Raw) : Procedure (Except FileFault Location) := do
  let s ← get
  return s.machine.tree.locate s.directory (pathOf r)

/-- The location of the node that a path names. -/
def locateName (r : Raw) : Procedure (Except FileFault Location) := do
  let s ← get
  return s.machine.tree.locateName s.directory (pathOf r)

/-- Changes the files. -/
def changeTree (f : FileTree → FileTree) : Procedure Unit :=
  onMachine fun m => { m with tree := f m.tree }

/-- Makes a change to the files that can fail. -/
def tryChange (f : FileTree → Location → Except FileFault Unit × FileTree) :
    Procedure (Except FileFault Unit) := do
  let s ← get
  let (answer, tree) := f s.machine.tree s.directory
  changeTree fun _ => tree
  return answer

/-- Does something for every operand. The status is the first that is not zero. -/
def forEach (operands : List Raw) (f : Raw → Procedure Nat) : Procedure Nat :=
  operands.foldlM (fun status r => do
    let next ← f r
    return if status = 0 then next else status) 0

end Procedure

end MapAudit.Script
