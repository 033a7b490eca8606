import MapAudit.Script.Execution.Source
import MapAudit.Script.Utility.Table

/-! # Starting programs

    A process that becomes a program keeps its streams, its working directory, the
    signals it ignores and the variables that are exported, and nothing else. A
    shell reads its options first, and then its script: a text among the arguments,
    a file, or the input.

    A utility has to have written all of its output in the end. Where that fails, it
    says so.

    The engine at the end ties the knot: it runs commands that are nested in
    others, up to a depth.
-/

namespace MapAudit.Script

namespace Procedure

/-! ## New processes -/

/-- The path that the working directory is known by: the one that the environment
    says, if that is right. -/
def directoryTextOf (s : Shell) : Raw :=
  match (s.bindings.lookup "PWD".toList).bind (·.text?) with
  | some r =>
    let isRight := match s.machine.tree.locate [] (pathOf r) with
      | .ok location => r.head? = some '/' && location == s.directory
      | .error _ => false
    if isRight then r else locationText s.directory
  | none => locationText s.directory

/-- What the names of variables begin with that hold definitions. -/
def functionStart : Raw :=
  "BASH_FUNC_".toList

/-- The definitions that programs get, as variables. -/
def exportedFunctions (s : Shell) : List (Raw × Variable) :=
  (s.functions.filter (·.2.isExported)).map fun (name, f) =>
    (functionStart ++ name ++ "%%".toList,
      { Variable.ofText (Command.exportedText f.body) with isExported := true })

/-- Takes in the definitions that the shell is given as variables. -/
def importFunctions : Procedure Unit := do
  (← get).bindings.forM fun (key, v) => do
    if functionStart.isPrefixOf key && key.reverse.take 2 = ['%', '%'] then
      let name := (key.drop functionStart.length).dropLast.dropLast
      modify fun s => { s with bindings := s.bindings.filter (·.1 ≠ key) }
      match readUnit (Cursor.atStart .bash (name ++ ' ' :: (v.text?).getD []) 1) with
      | .ok { commands := some [.define _ name body], .. } =>
        let f : Definition := { body, source := "environment", line := 0, isExported := true, isReadOnly := false }
        modify fun s => { s with functions := (name, f) :: s.functions }
      | _ => return ()

/-- Becomes a program with a name, with nothing but what a program is given. -/
def renew (name : Raw) : Procedure Unit := do
  flush
  modify fun s =>
    { s with
      dialect := .sh
      mainProcess := s.process
      nesting := 0
      background := none
      jobs := []
      conduits := []
      companions := []
      directoryStack := []
      name
      source := name
      arguments := []
      bindings := exportedFunctions s
        ++ s.bindings.filter fun (_, v) => v.isExported && v.value matches .text _
      frames := []
      functions := []
      aliases := []
      remembered := []
      rememberedIn := []
      inStandardPath := false
      options := []
      settings := []
      traps := []
      formerTraps := []
      isTrapped := false
      command := []
      line := 0
      readLine := 0
      depth := 0
      calls := 0
      running := []
      loops := 0
      random := (s.machine.now % 2147483647 + s.process, 0)
      firstSecond := s.machine.now / 1000000000
      status := 0
      wordStatus := 0
      stageStatuses := []
      builtin := none
      optionOffset := 0
      unwritten := []
      unwrittenSize := 0
      outputFault := none
      writesInTurn := true
      lacksInput := false }
  onSelf fun p => { p with kept := [], caught := [], streams := p.streams.filter (·.1 < transient 0) }

/-! ## Shells -/

/-- What a shell is told to run. -/
inductive Source where
  /-- A text. -/
  | text (r : Raw)
  /-- A file. -/
  | file (r : Raw)
  /-- The input. -/
  | input
  deriving DecidableEq, Repr

/-- Gives a shell the variables that it starts with. -/
def furnish (d : Dialect) : Procedure Unit := do
  let s ← get
  let directoryText := directoryTextOf s
  let give (name r : String) : Procedure Unit := do
    let old := (← get).bindings.lookup name.toList
    putVariable name.toList { old.getD .blank with value := .text r.toList }
  let giveExported (name : String) (r : Raw) : Procedure Unit :=
    putVariable name.toList { Variable.ofText r with isExported := true }
  let options := match d with
    | .sh => s.options
    | .bash => 'h' :: 'B' :: s.options
  set { s with dialect := d, directoryText, options }
  match d with
  | .sh => modify fun s => { s with bindings := s.bindings.filter (Reader.isName ·.1) }
  | .bash => importFunctions
  give "IFS" " \t\n"
  give "OPTIND" "1"
  giveExported "PWD" directoryText
  if (← valueOf? "PATH").isNone then
    give "PATH" "/usr/local/sbin:/usr/local/bin:/usr/sbin:/usr/bin:/sbin:/bin"
  match d with
  | .sh => do
    give "PS1" "# "
    give "PS2" "> "
    give "PS4" "+ "
    putVariable "PPID" (.ofText (Raw.ofNat s.self.parent))
  | .bash => do
    let level := ((← valueOf? "SHLVL").bind Raw.toNat?).getD 0
    giveExported "SHLVL" (Raw.ofNat (level + 1))
    give "PS4" "+ "
    give "OPTERR" "1"
    give "BASH" "/bin/bash"
    give "BASH_VERSION" "5.2.21(1)-release"
    let version : List Raw :=
      ["5", "2", "21", "1", "release", "x86_64-pc-linux-gnu"].map String.toList
    putVariable "BASH_VERSINFO"
      { Variable.blank with value := .list (version.zipIdx.map fun (r, i) => (i, r)), isReadOnly := true }
    give "HOSTTYPE" "x86_64"
    give "MACHTYPE" "x86_64-pc-linux-gnu"
    give "OSTYPE" "linux-gnu"
    let fixed (name : String) (r : Raw) : Procedure Unit :=
      putVariable name.toList { Variable.ofText r with isReadOnly := true, isNumber := true }
    if (← valueOf? ['_']).isNone then putVariable ['_'] (.ofText s.name)
    if (← valueOf? "OLDPWD").isNone then
      putVariable "OLDPWD" { Variable.blank with isExported := true }
    fixed "PPID" (Raw.ofNat s.self.parent)
    fixed "UID" ['0']
    fixed "EUID" ['0']

/-- How the richer shell is called. -/
def shellUsage (name : Raw) : Raw :=
  "Usage:\t" ++ name ++ " [GNU long option] [option] ...\n\t".toList ++ name
    ++ (" [GNU long option] [option] script-file ...\nGNU long options:\n\t--debug\n\t--debugger\n"
      ++ "\t--dump-po-strings\n\t--dump-strings\n\t--help\n\t--init-file\n\t--login\n\t--noediting\n"
      ++ "\t--noprofile\n\t--norc\n\t--posix\n\t--pretty-print\n\t--rcfile\n\t--restricted\n"
      ++ "\t--verbose\n\t--version\nShell options:\n"
      ++ "\t-ilrsD or -c command or -O shopt_option\t\t(invocation only)\n"
      ++ "\t-abefhkmnptuvxBCEHPT or -o option\n").toList

/-- Refuses an option of a shell. -/
def refuseShellOption {α : Type} (written : Raw) (c : Char) : Procedure α := do
  let s ← get
  match s.dialect with
  | .sh => refuse ("Illegal option -" ++ [c])
  | .bash => do
    complain (s.name ++ ": " ++ written ++ ": invalid option\n".toList ++ shellUsage s.name)
    throw (.exit 2)

/-- Reads the options in an argument of a shell. The answer has the arguments that
    are left, and whether a text is to be run. -/
def shellLetters (on : Bool) (written : Raw) : Raw → List Raw → Procedure (List Raw × Bool)
  | [], rest => return (rest, false)
  | c :: more, rest => do
    let s ← get
    match c, rest with
    | 'c', _ => do
      let (rest, _) ← shellLetters on written more rest
      return (rest, true)
    | 'o', [] => do
      if on && s.dialect = .sh then write "Current option settings\n"
      listOptions on fun _ _ => true
      shellLetters on written more []
    | 'o', name :: rest => do
      turnName on name
      shellLetters on written more rest
    | c, rest => do
      let isKnown := (optionLetters s.dialect).contains c || ['s', 'i'].contains c
        || (s.dialect = .bash && ['l', 'r', 'D'].contains c)
      if !isKnown then refuseShellOption written c
      if c = 's' then modify fun s => { s with options := 's' :: s.options }
      else if (optionLetters s.dialect).contains c then turnLetter on c
      shellLetters on written more rest

/-- Reads the options of a shell, at most `n` arguments with them. The answer has
    the operands, and whether a text is to be run. -/
def shellOptions : (n : Nat) → (wantsText : Bool) → List Raw → Procedure (List Raw × Bool)
  | 0, wantsText, operands => return (operands, wantsText)
  | _ + 1, wantsText, [] => return ([], wantsText)
  | n + 1, wantsText, r :: rest => do
    let d := (← get).dialect
    match r with
    | ['-', '-'] | ['-'] => return (rest, wantsText)
    | '-' :: '-' :: name =>
      match d with
      | .sh => refuseShellOption r '-'
      | .bash =>
        match String.ofList name with
        | "norc" | "noprofile" | "posix" | "login" | "noediting" | "restricted" =>
          shellOptions n wantsText rest
        | "verbose" => do
          turnLetter true 'v'
          shellOptions n wantsText rest
        | "help" | "version" => throw (.exit 0)
        | _ => refuseShellOption r '-'
    | '-' :: c :: letters => do
      let (rest, isText) ← shellLetters true r (c :: letters) rest
      shellOptions n (wantsText || isText) rest
    | '+' :: c :: letters => do
      let (rest, isText) ← shellLetters false r (c :: letters) rest
      shellOptions n (wantsText || isText) rest
    | r => return (r :: rest, wantsText)

/-- What a shell runs that is given arguments. -/
def sourceOf (arguments : List Raw) : Procedure Source := do
  let (operands, wantsText) ← shellOptions (arguments.length + 1) false arguments
  let s ← get
  let keep (name : Raw) (arguments : List Raw) : Procedure Unit :=
    modify fun s => { s with name, source := name, arguments }
  match wantsText, operands with
  | true, [] => do
    match s.dialect with
    | .sh => refuse "-c requires an argument"
    | .bash => do
      complain (s.name ++ ": -c: option requires an argument\n".toList)
      throw (.exit 2)
  | true, text :: rest => do
    if s.dialect = .bash then modify fun s => { s with options := 'c' :: s.options }
    match rest with
    | [] => return .text text
    | name :: arguments => do
      keep name arguments
      return .text text
  | false, operands => do
    match s.options.contains 's', operands with
    | false, file :: rest => do
      modify fun s => { s with arguments := rest }
      return .file file
    | _, arguments => do
      modify fun s =>
        { s with arguments, options := 's' :: s.options.filter (· ≠ 's') }
      return .input

/-- Runs a script in a file. -/
def runFile (e : Engine) (file : Raw) : Procedure Nat := do
  let s ← get
  let enter : Procedure Unit := modify fun s => { s with name := file, source := file }
  match ← readFile file, s.dialect with
  | .ok text, .sh => do
    enter
    e.text .usual [] 1 text
  | .ok text, .bash => do
    enter
    if looksLikeScript .bash text then e.text .usual [] 1 text
    else do
      complain (file ++ ": " ++ file ++ ": cannot execute binary file\n".toList)
      return 126
  | .error .isDirectory, .sh => return 0
  | .error .isDirectory, .bash => do
    complain (file ++ ": " ++ file ++ ": Is a directory\n".toList)
    return 126
  | .error fault, .sh => refuse (openingText .sh .read file fault)
  | .error fault, .bash => do
    complain (s.name ++ ": " ++ file ++ ": " ++ faultText fault ++ ['\n'])
    return if fault = .notFound || fault = .badName then 127 else 126

/-- Runs a shell with arguments. -/
def runShell (e : Engine) (d : Dialect) (arguments : List Raw) : Procedure Nat := do
  furnish d
  match ← sourceOf arguments with
  | .text text => do
    modify fun s => { s with line := 1 }
    match d with
    | .sh => e.text .final [] 1 text
    | .bash =>
      tryCatch (e.text .final "-c: " 1 text) fun stop => match stop with
        | .fault 1 => throw (.fault 127)
        | stop => throw stop
  | .file file => runFile e file
  | .input => do e.text .usual [] 1 (← readInput)

/-! ## Utilities -/

/-- What a utility says when its output could not be written, and its status then. -/
def outputComplaint (name : Raw) (fault : WriteFault) : Raw × Nat :=
  match String.ofList name with
  | "grep" | "egrep" | "fgrep" => ("write error: " ++ fault.text, 2)
  | "sort" => ("write failed: 'standard output': " ++ fault.text, 2)
  | "sed" => ("couldn't flush stdout: " ++ fault.text, 4)
  | _ => ("write error: " ++ fault.text, 1)

/-- What a utility names the input that there is none of when it is about to end, if it says
    that at all. -/
def missingInput? (name : Raw) : Option Raw :=
  match String.ofList name with
  | "cat" => some "closing standard input"
  | "head" | "tail" | "wc" | "cut" | "nl" | "fold" | "tac" | "expand" | "unexpand" => some ['-']
  | "od" | "tee" | "md5sum" | "sha1sum" | "sha224sum" | "sha256sum" | "sha384sum" | "sha512sum"
  | "b2sum" | "cksum" | "sum" => some "standard input"
  | _ => none

/-- Complains if the input was asked for and there is none. The answer is the status. -/
def closeInput (name : Raw) (status : Nat) : Procedure Nat := do
  let s ← get
  match if s.lacksInput then missingInput? name else none with
  | none => return status
  | some r => do
    complain (s.name ++ ": " ++ r ++ ": " ++ faultText .noStream ++ ['\n'])
    return 1

/-- Runs a utility to its end. -/
def runUtility (name : Raw) (p : Procedure Nat) : Procedure Nat := do
  modify fun s => { s with writesInTurn := name ≠ "sed".toList }
  let status ← tryCatch p fun stop => return stop.status
  let status ← closeInput name status
  flush
  match (← get).outputFault with
  | none => return status
  | some fault => do
    let (r, failure) := outputComplaint name fault
    complain ((← get).name ++ ": " ++ r ++ ['\n'])
    return failure

/-- **Launch** of an image. -/
def launch (e : Engine) (image : Image) : Procedure Nat := do
  renew image.name
  match image.engagement with
  | .shell d => toTheEnd e (runShell e d image.arguments)
  | .utility name =>
    match Utility.named? e name with
    | some p => toTheEnd e (runUtility name (p image.arguments))
    | none => toTheEnd e (return 127)

end Procedure

/-- The engine for commands that nest once more than those of another one. -/
def Engine.layer (e : Engine) : Engine where
  run := Procedure.runAll e
  glyphs := Procedure.wordGlyphs e
  text := Procedure.runText e
  launch := Procedure.launch e

/-- **Engine** for commands that nest up to a depth. -/
def engine (depth : Nat) : Engine :=
  Nat.repeat Engine.layer depth .exhausted

end MapAudit.Script
