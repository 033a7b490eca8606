import MapAudit.Script.Engine
import MapAudit.Script.Utility.Lines
import MapAudit.Script.Utility.Names
import MapAudit.Script.Utility.Values

/-! # Utilities that run others

    A utility of this kind becomes another program, or it runs one as a process of
    its own. The program is looked for along the search path. A script without a
    first line that names what runs it is run by the plain shell.
-/

namespace MapAudit.Script

namespace Utility

open Procedure

/-! ## Programs by name -/

/-- The directories that programs are looked for in. -/
def programDirectories : Procedure (List Raw) := do
  match ← valueOf? "PATH" with
  | some r => return r.splitOn ':'
  | none => return ["/bin".toList, "/usr/bin".toList]

/-- The image of the first program of some files. One that may not be executed is
    passed over, as long as there is another one. -/
def firstProgram (s : Shell) (name : Raw) (arguments : List Raw) (denied : Option LaunchFault) :
    List Raw → Except LaunchFault Image
  | [] => throw (denied.getD (.unreachable .notFound))
  | file :: rest =>
    match imageOf s.machine.tree s.directory name file arguments with
    | .ok image => return image
    | .error (.formless _) =>
      return { engagement := .shell .sh, name := "/bin/sh", arguments := file :: arguments }
    | .error (.unreachable .notFound) | .error (.unreachable .notDirectory) =>
      firstProgram s name arguments denied rest
    | .error .isDirectory => firstProgram s name arguments (some .denied) rest
    | .error .denied => firstProgram s name arguments (some .denied) rest
    | .error fault => throw fault

/-- The image of the program with a name. -/
def programImage (name : Raw) (arguments : List Raw) : Procedure (Except LaunchFault Image) := do
  let s ← get
  if name.isEmpty then return .error (.unreachable .notFound)
  let directories ← programDirectories
  let files := if name.contains '/' then [name] else directories.map fun above =>
    if above.isEmpty then name else within above name
  return firstProgram s name arguments none files

/-- The status and the words for a program that cannot be run. -/
def programFault : LaunchFault → Nat × Raw
  | .unreachable .notFound | .unreachable .badName => (127, faultText .notFound)
  | .uninterpreted _ .notFound | .uninterpreted _ .badName => (127, faultText .notFound)
  | .unreachable fault | .uninterpreted _ fault => (126, faultText fault)
  | .isDirectory | .denied | .forbidden _ => (126, "Permission denied")
  | .formless _ => (126, "Exec format error")

/-- Becomes the program that some words call. What is said if that is not possible
    begins with `complaint`. -/
def becomeCalled (e : Engine) (complaint : Raw → Raw) : List Raw → Procedure Nat
  | [] => return 0
  | name :: arguments => do
    match ← programImage name arguments with
    | .ok image => e.launch image
    | .error fault => do
      let (status, r) := programFault fault
      tell (complaint name ++ ": ".toList ++ r)
      return status

/-! ## Environments -/

/-- The text of an argument that stands for several, while it is taken apart. -/
structure Splitting where
  /-- The words so far, last one first. -/
  words : List Raw
  /-- The word that is being read, last character first. -/
  word : Option Raw
  /-- The quote that is open. -/
  quote : Option Char

namespace Splitting

/-- Puts characters behind the word. -/
def add (s : Splitting) (r : Raw) : Splitting :=
  { s with word := some (r.reverse ++ s.word.getD []) }

/-- Ends the word. -/
def finish (s : Splitting) : Splitting :=
  match s.word with
  | some r => { s with words := r.reverse :: s.words, word := none }
  | none => s

/-- Takes a text apart, at most `n` characters, where `value` says what is in a
    variable. -/
def read (value : Raw → Raw) : (n : Nat) → Splitting → Raw → Except Raw Splitting
  | 0, s, _ => .ok s
  | _ + 1, s, [] =>
    if s.quote.isSome then throw "no terminating quote in -S string".toList else return s.finish
  | n + 1, s, c :: rest =>
    let goOn (s : Splitting) (rest : Raw) := read value n s rest
    match s.quote, c with
    | some '\x27', '\x27' => goOn { s with quote := none } rest
    | some '\x27', '\\' =>
      match rest with
      | '\\' :: rest => goOn (s.add ['\\']) rest
      | '\x27' :: rest => goOn (s.add ['\x27']) rest
      | rest => goOn (s.add ['\\']) rest
    | some '\x27', c => goOn (s.add [c]) rest
    | some _, '"' => goOn { s with quote := none } rest
    | quote, '\\' =>
      match rest with
      | [] => throw "invalid backslash at end of string in -S".toList
      | 'c' :: _ =>
        if quote.isSome then throw "'\\c' must not appear in double-quoted -S string".toList
        else return s.finish
      | '_' :: rest => if quote.isSome then goOn (s.add [' ']) rest else goOn s.finish rest
      | 'f' :: rest => goOn (s.add ['\x0c']) rest
      | 'n' :: rest => goOn (s.add ['\n']) rest
      | 'r' :: rest => goOn (s.add ['\r']) rest
      | 't' :: rest => goOn (s.add ['\t']) rest
      | 'v' :: rest => goOn (s.add ['\x0b']) rest
      | d :: rest =>
        if "\"'$\\#".toList.contains d then goOn (s.add [d]) rest
        else throw ("invalid sequence '\\".toList ++ d :: "' in -S".toList)
    | _, '$' =>
      match rest with
      | '\x7b' :: more =>
        let name := more.takeWhile fun c => c.isAlphanum || c = '_'
        match more.drop name.length with
        | '\x7d' :: rest => goOn (s.add (value name)) rest
        | _ => throw (onlyBraces (c :: rest))
      | _ => throw (onlyBraces (c :: rest))
    | none, '"' | none, '\x27' => goOn { s.add [] with quote := some c } rest
    | none, '#' => if s.word.isNone then return s else goOn (s.add [c]) rest
    | none, c =>
      if c = ' ' || ('\t' ≤ c && c ≤ '\x0d') then goOn s.finish rest else goOn (s.add [c]) rest
    | some _, c => goOn (s.add [c]) rest
where
  /-- What is said about a variable that is written in another way. -/
  onlyBraces (r : Raw) : Raw :=
    "only $\x7bVARNAME\x7d expansion is supported, error at: ".toList ++ r

end Splitting

/-- The options of `env`. -/
def envOptions : OptionTable where
  letters := "C:iS:u:v0"
  names := [("ignore-environment", 'i'), ("null", '0'), ("unset=", 'u'), ("chdir=", 'C'),
    ("default-signal?", '\x03'), ("ignore-signal?", '\x03'), ("block-signal?", '\x03'),
    ("list-signal-handling", '\x04'), ("debug", 'v'), ("split-string=", 'S')]
  endsEarly := true
  failure := 125

/-- The words that an argument stands for. -/
def splitWords (r : Raw) : Procedure (List Raw) := do
  let s ← get
  let value (name : Raw) : Raw := ((s.bindings.lookup name).bind (·.text?)).getD []
  match Splitting.read value (r.length + 1) { words := [], word := none, quote := none } r with
  | .ok split => return split.words.reverse
  | .error complaint => refuse 125 complaint

/-- The arguments of `env` with the words of those that stand for several, at most
    `n` of them. -/
def envArguments : (n : Nat) → List Raw → Procedure (List Raw)
  | 0, arguments => return arguments
  | n + 1, arguments => do
    match arguments with
    | ('-' :: '-' :: name) :: rest =>
      let written := name.takeWhile (· ≠ '=')
      if written.length < 2 || !written.isPrefixOf "split-string".toList then
        return ('-' :: '-' :: name) :: (← envArguments n rest)
      match name.drop written.length, rest with
      | '=' :: value, rest => do envArguments n ((← splitWords value) ++ rest)
      | _, value :: rest => do envArguments n ((← splitWords value) ++ rest)
      | _, [] => return arguments
    | ('-' :: c :: more) :: rest =>
      let letters := (c :: more).takeWhile fun c => !(['S', 'u', 'C'].contains c)
      let before := if letters.isEmpty then [] else ['-' :: letters]
      match (c :: more).drop letters.length, rest with
      | ['S'], value :: rest => do return before ++ (← envArguments n ((← splitWords value) ++ rest))
      | 'S' :: value, rest =>
        if value.isEmpty then return arguments
        return before ++ (← envArguments n ((← splitWords value) ++ rest))
      | [_], value :: rest => return ('-' :: c :: more) :: value :: (← envArguments n rest)
      | _, rest => return ('-' :: c :: more) :: (← envArguments n rest)
    | arguments => return arguments

/-- Writes the environment, or becomes a program with another one. -/
def env (e : Engine) (arguments : List Raw) : Procedure Nat := do
  let hint := "use -[v]S to pass options in shebang lines".toList
  let arguments ← envArguments (4 * arguments.length + 8) arguments
  match envOptions.read arguments with
  | .error (.badLetter ' ') => do
    tell (ArgumentFault.badLetter ' ').message
    tell hint
    complain (helpHint "env")
    quit 125
  | _ => pure ()
  let a ← readArguments envOptions arguments
  let (isEmptied, operands) := match a.operands with
    | ['-'] :: rest => (true, rest)
    | operands => (a.has 'i', operands)
  if isEmptied then modify fun s => { s with bindings := s.bindings.filter (!·.2.isExported) }
  (a.values 'u').forM fun name => do
    if name.isEmpty || name.contains '=' then
      refuse 125 ("cannot unset ".toList ++ Quote.curly name ++ ": Invalid argument".toList)
    modify fun s => { s with bindings := s.bindings.filter (·.1 ≠ name) }
  let settings := operands.takeWhile (·.contains '=')
  settings.forM fun r =>
    let name := r.takeWhile (· ≠ '=')
    putVariable name { Variable.ofText (r.drop (name.length + 1)) with isExported := true }
  let called := operands.drop settings.length
  if a.has '0' && !called.isEmpty then
    refuseUse 125 "cannot specify --null (-0) with command"
  match a.value? 'C' with
  | none => pure ()
  | some r => do
    if called.isEmpty then refuseUse 125 "must specify command with --chdir (-C)"
    let fault ← match ← find r, ← locate r with
      | .ok (.directory _ _), .ok location => do
        onSelf fun p => { p with directory := location }
        pure none
      | .error fault, _ | _, .error fault => pure (some fault)
      | .ok _, .ok _ => pure (some .notDirectory)
    match fault with
    | some fault =>
      refuse 125 ("cannot change directory to ".toList ++ Quote.always r ++ ": ".toList ++ faultText fault)
    | none => pure ()
  match called with
  | [] => do
    let all ← exported
    all.forM fun (name, r) =>
      write (name ++ '=' :: r ++ [if a.has '0' then '\x00' else '\n'])
    return 0
  | name :: rest => do
    if a.has 'v' then
      complain ("executing: ".toList ++ name ++ ['\n'])
      (name :: rest).zipIdx.forM fun (r, i) =>
        complain ("   arg[".toList ++ Raw.ofNat i ++ "]= ".toList ++ Quote.curly r ++ ['\n'])
    match ← programImage name rest with
    | .ok image => e.launch image
    | .error fault => do
      let (status, r) := programFault fault
      tell (Quote.curly name ++ ": ".toList ++ r)
      if status = 127 && name.contains ' ' then tell hint
      return status

/-- Writes values of the environment. -/
def printenv (arguments : List Raw) : Procedure Nat := do
  let a ← readArguments { letters := "0", names := [("null", '0')], failure := 2 } arguments
  let stop := [if a.has '0' then '\x00' else '\n']
  let all ← exported
  if a.operands.isEmpty then
    all.forM fun (name, r) => write (name ++ '=' :: r ++ stop)
    return 0
  let found ← a.operands.mapM fun name => do
    match all.lookup name with
    | some r => do
      write (r ++ stop)
      return true
    | none => return false
  return if found.all fun b => b then 0 else 1

/-! ## Circumstances -/

/-- How a program that could not be run is complained about. -/
def failedToRun (name : Raw) : Raw :=
  "failed to run command ".toList ++ Quote.curly name

/-- Becomes a program with another priority. -/
def nice (e : Engine) (arguments : List Raw) : Procedure Nat := do
  let a ← readArguments {
    letters := "n:", names := [("adjustment=", 'n')], endsEarly := true, failure := 125 } arguments
  match a.value? 'n' with
  | some r =>
    if (TermReader.whole? (if r.head? = some '+' then r.drop 1 else r)).isNone then
      refuse 125 ("invalid adjustment ".toList ++ Quote.curly r)
  | none => pure ()
  if a.operands.isEmpty then
    if a.has 'n' then refuseUse 125 "a command must be given with an adjustment"
    write "0\n"
    return 0
  becomeCalled e Quote.curly a.operands

/-- Becomes a program that goes on when the user leaves. -/
def nohup (e : Engine) (arguments : List Raw) : Procedure Nat := do
  let a ← readArguments { letters := "", names := [], endsEarly := true, failure := 125 } arguments
  if a.operands.isEmpty then refuseUse 125 "missing operand"
  onSelf fun p => { p with ignored := 1 :: p.ignored }
  becomeCalled e (fun name => "failed to run command ".toList ++ Quote.always name) a.operands

/-- Becomes a program in a session of its own. -/
def setsid (e : Engine) (arguments : List Raw) : Procedure Nat := do
  let a ← readArguments {
    letters := "cfw", names := [("ctty", 'c'), ("fork", 'f'), ("wait", 'w')], endsEarly := true }
    arguments
  if a.operands.isEmpty then refuseUse 1 "no command specified"
  let self := (← get).process
  onSelf fun p => { p with group := self }
  becomeCalled e (fun name => "failed to execute ".toList ++ name) a.operands

/-- Becomes a program with other buffers. -/
def stdbuf (e : Engine) (arguments : List Raw) : Procedure Nat := do
  let a ← readArguments {
    letters := "i:o:e:", names := [("error=", 'e'), ("input=", 'i'), ("output=", 'o')]
    endsEarly := true, failure := 125 } arguments
  if a.operands.isEmpty then refuseUse 125 "missing operand"
  a.given.forM fun (c, r) =>
    if c = 'i' && r = ['L'] then
      refuseUse 125 ("line buffering stdin is meaningless" : Raw)
    else if r ≠ ['L'] && (amount? r).isNone then
      refuse 125 ("invalid mode ".toList ++ Quote.curly r)
    else return ()
  if a.given.isEmpty then refuseUse 125 "you must specify a buffering mode option"
  becomeCalled e failedToRun a.operands

/-! ### Limits of time -/

/-- How a program is stopped that takes too long. -/
structure TimeLimit where
  /-- The number of its process. -/
  child : Nat
  /-- The signal that it is sent. -/
  signal : Signal
  /-- How long it may take after that, until it is killed. -/
  killAfter : Option Duration
  /-- Whether it is alone meant, and not the processes that it has started. -/
  isForeground : Bool
  /-- Whether it is told that a signal is sent. -/
  isLoud : Bool
  /-- Whether the status says how the program ended, even if it took too long. -/
  keepsStatus : Bool

/-- The options of `timeout`. -/
def timeoutOptions : OptionTable where
  letters := "k:s:v"
  names := [("foreground", 'f'), ("kill-after=", 'k'), ("preserve-status", 'p'), ("signal=", 's'),
    ("verbose", 'v')]
  endsEarly := true
  failure := 125

/-- Sends a signal to the program, and to the processes that it has started. -/
def TimeLimit.send (l : TimeLimit) (name : Raw) (signal : Signal) : Procedure Unit := do
  if l.isLoud then
    tell ("sending signal ".toList ++ (signal.name?).getD (Raw.ofNat signal) ++ " to command ".toList
      ++ Quote.curly name)
  onMachine (·.signal l.child signal)
  if !l.isForeground then
    onSelf fun p => { p with ignored := signal :: p.ignored }
    let self := (← get).self
    onMachine (·.signalGroup self.group signal)
    breathe 0

/-- Waits for the end of the program, and stops it when it is time to. The answer has
    how it ended, and whether it was stopped. -/
def TimeLimit.watch (l : TimeLimit) (name : Raw) (deadline : Option Nat) :
    Procedure (Ending × Bool) :=
  stepwise (deadline, l.signal, false) fun (deadline, signal, isStopped) => do
    awaitAny [l.child] deadline true
    let s ← get
    if !s.machine.isAlive l.child then return .done (← await l.child, isStopped)
    let now := s.machine.now
    let news := s.self.pending.filter s.self.caught.contains
    match news with
    | forwarded :: _ => do
      onSelf fun p => { p with pending := p.pending.filter (!news.contains ·) }
      l.send name forwarded
      return .more (l.killAfter.map (now + ·), Signal.kill, isStopped)
    | [] => do
      l.send name signal
      return .more (if signal = Signal.kill then none else l.killAfter.map (now + ·), Signal.kill, true)

/-- Runs a program that is stopped if it takes too long. -/
def timeout (e : Engine) (arguments : List Raw) : Procedure Nat := do
  let a ← readArguments timeoutOptions arguments
  let duration (r : Raw) : Procedure (Option Duration) := do
    match interval? r with
    | some d => return d
    | none => refuseUse 125 ("invalid time interval " ++ Quote.curly r)
  let killAfter ← match a.value? 'k' with
    | some r => duration r
    | none => pure none
  let signal ← match a.value? 's' with
    | none => pure 15
    | some r =>
      match Signal.ofRaw? (if "SIG".toList.isPrefixOf (r.map Char.toUpper) then r.drop 3 else r) with
      | some signal => pure signal
      | none => refuseUse 125 (Quote.curly r ++ ": invalid signal".toList)
  match a.operands with
  | [] | [_] => do
    complain (helpHint "timeout")
    quit 125
  | limit :: called => do
    let limit ← duration limit
    let self := (← get).process
    if !a.has 'f' then onSelf fun p => { p with group := self }
    onSelf fun p => { p with caught := [1, 2, 3, 15, signal].filter (!p.ignored.contains ·) }
    let child ← start e (return ()) (becomeCalled e failedToRun called)
    let l : TimeLimit := {
      child, signal
      killAfter := killAfter.filter (0 < ·)
      isForeground := a.has 'f'
      isLoud := a.has 'v'
      keepsStatus := a.has 'p' }
    let now := (← get).machine.now
    let deadline := (limit.filter (0 < ·)).map (now + ·)
    let (ending, isStopped) ← l.watch (called.headD []) deadline
    match ending with
    | .exited status => return if isStopped && !l.keepsStatus then 124 else status
    | .killed s =>
      if !isStopped then finish (.killed s)
      return if l.keepsStatus || s = Signal.kill then 128 + s else 124

/-- Writes where programs are found. -/
def which (arguments : List Raw) : Procedure Nat := do
  let a ← readArguments { letters := "as", names := [] } arguments
  if a.operands.isEmpty then return 1
  let directories ← programDirectories
  let found ← a.operands.mapM fun name => do
    let places := if name.contains '/' then [name] else directories.map fun above =>
      within (if above.isEmpty then ['.'] else above) name
    let files ← places.filterM fun place => do
      match ← find place with
      | .ok (.file f) => return f.isExecutable
      | _ => return false
    let shown := if a.has 'a' then files else files.take 1
    if !a.has 's' then shown.forM fun place => write (place ++ ['\n'])
    return !files.isEmpty
  return if found.all fun b => b then 0 else 1

/-! ## Arguments from the input -/

/-- An argument from the input. -/
structure Item where
  /-- The argument. -/
  text : Raw
  /-- Whether a line ends behind it. -/
  endsLine : Bool

/-- How items are read, while a text is gone through. -/
structure ItemReading where
  /-- The items so far, last one first. -/
  items : List Item
  /-- The item that is being read, last character first. -/
  item : Option Raw
  /-- The quote that is open. -/
  quote : Option Char
  /-- Whether a blank came last. -/
  isAfterBlank : Bool

namespace ItemReading

/-- Ends the item. -/
def finish (s : ItemReading) (endsLine : Bool) : ItemReading :=
  match s.item with
  | some r => { s with items := { text := r.reverse, endsLine } :: s.items, item := none }
  | none => s

/-- Puts a character behind the item. -/
def add (s : ItemReading) (c : Char) : ItemReading :=
  { s with item := some (c :: s.item.getD []), isAfterBlank := false }

/-- Reads the items of a line. A line is one item where they are taken by
    `byLines`. What is wrong ends the reading. -/
def read (byLines : Bool) : Raw → ItemReading → ItemReading × Option Raw
  | [], s => (s, none)
  | '\\' :: c :: rest, s =>
    match s.quote with
    | some _ => read byLines (c :: rest) (s.add '\\')
    | none => read byLines rest (s.add c)
  | c :: rest, s =>
    match s.quote with
    | some q =>
      if c = q then read byLines rest { s with quote := none, isAfterBlank := false }
      else if c = '\n' then (s, some (unmatched q))
      else read byLines rest (s.add c)
    | none =>
      if c = '\x27' || c = '"' then
        read byLines rest { s with quote := some c, item := some (s.item.getD []) }
      else if c = '\n' then
        read byLines rest { s.finish (byLines || !s.isAfterBlank) with isAfterBlank := false }
      else if c = ' ' || c = '\t' then
        if byLines && s.item.isSome then read byLines rest (s.add c)
        else read byLines rest { s.finish (endsHere rest) with isAfterBlank := true }
      else read byLines rest (s.add c)
where
  /-- What is said about a quote that is not closed. -/
  unmatched (q : Char) : Raw :=
    "unmatched ".toList ++ (if q = '"' then "double" else "single").toList
      ++ " quote; by default quotes are special to xargs unless you use the -0 option".toList
  /-- Whether a blank at the end of the text is what comes last. -/
  endsHere (rest : Raw) : Bool :=
    rest.all fun c => c = ' ' || c = '\t'

/-- Takes the items out that are read. -/
def taken (s : ItemReading) : List Item × ItemReading :=
  (s.items.reverse, { s with items := [] })

/-- Ends the reading. -/
def close (s : ItemReading) : ItemReading × Option Raw :=
  match s.quote with
  | some q => (s, some (read.unmatched q))
  | none => (s.finish true, none)

end ItemReading

/-- The options of `xargs`. -/
def xargsOptions : OptionTable where
  letters := "0a:E:e::i::I:l::L:n:prs:txP:d:o"
  names := [("null", '0'), ("arg-file=", 'a'), ("delimiter=", 'd'), ("eof?", 'e'), ("replace?", 'i'),
    ("max-lines?", 'l'), ("max-args=", 'n'), ("open-tty", 'o'), ("interactive", 'p'),
    ("no-run-if-empty", 'r'), ("max-chars=", 's'), ("verbose", 't'), ("show-limits", '\x03'),
    ("exit", 'x'), ("max-procs=", 'P'), ("process-slot-var=", '\x04')]
  endsEarly := true

/-- A number that an option of `xargs` has to have. -/
def xargsNumber (letter : Char) (least : Nat) (r : Raw) : Procedure Nat := do
  match Raw.toNat? r with
  | none => refuseUse 1 ("invalid number \"".toList ++ r ++ "\" for -".toList ++ letter ::
      " option".toList)
  | some n => do
    if n < least then
      refuseUse 1 ("value ".toList ++ Raw.ofNat n ++ " for -".toList ++ letter ::
        " option should be >= ".toList ++ Raw.ofNat least)
    return n

/-- The character that a delimiter stands for. -/
def delimiterOf (r : Raw) : Procedure Char := do
  match r with
  | [c] => return c
  | ['\\', 'n'] => return '\n'
  | ['\\', 't'] => return '\t'
  | ['\\', '0'] => return '\x00'
  | ['\\', 'r'] => return '\r'
  | ['\\', '\\'] => return '\\'
  | r => refuse 1 ("Invalid input delimiter specification ".toList ++ r
      ++ (": the delimiter must be either a single character or an escape sequence "
        ++ "starting with \\.").toList)

/-- **Grouping** of items: how many of them go together. -/
structure Grouping where
  /-- How many items, or how many lines of them, if that is limited. -/
  count : Option Nat
  /-- Whether lines count. -/
  byLines : Bool
  /-- How much there may be of them, with the words that come before them. -/
  size : Nat

/-- Items that go together. -/
structure ItemGroup where
  /-- The items, the last one first. -/
  items : List Raw
  /-- How much there is of them. -/
  size : Nat
  /-- How many items, or lines, are in it. -/
  taken : Nat

namespace Grouping

/-- No items yet, but words of some size. -/
def start (size : Nat) : ItemGroup where
  items := []
  size
  taken := 0

/-- Groups items. The answer has the groups that are complete, and the one that is
    not. -/
def groups (g : Grouping) (startSize : Nat) : List Item → ItemGroup → List (List Raw) × ItemGroup
  | [], group => ([], group)
  | i :: rest, group =>
    let size := i.text.length + 1
    let isFull := !group.items.isEmpty && g.size < group.size + size
    let before := if isFull then [group.items.reverse] else []
    let group := if isFull then start startSize else group
    let taken := if !g.byLines || i.endsLine then group.taken + 1 else group.taken
    let group : ItemGroup := { items := i.text :: group.items, size := group.size + size, taken }
    if g.count.any (· ≤ taken) then
      let (others, left) := groups g startSize rest (start startSize)
      (before ++ group.items.reverse :: others, left)
    else
      let (others, left) := groups g startSize rest group
      (before ++ others, left)

end Grouping

/-- A text with every place replaced that has a mark, at most `n` steps. -/
def withReplaced (mark r : Raw) : (n : Nat) → Raw → Raw
  | 0, text => text
  | _ + 1, [] => []
  | n + 1, c :: rest =>
    if mark.isPrefixOf (c :: rest) then r ++ withReplaced mark r n ((c :: rest).drop mark.length)
    else c :: withReplaced mark r n rest

/-- How `xargs` runs programs. -/
structure ItemRun where
  /-- The words that are called. -/
  called : List Raw
  /-- The mark in them that an item is put in place of. -/
  mark : Option Raw
  /-- Whether calls are shown. -/
  isLoud : Bool
  /-- Whether the input is what items come from. -/
  takesInput : Bool
  /-- How many programs may run at the same time. -/
  atOnce : Option Nat

/-- What has become of the programs so far. -/
structure ItemRunState where
  /-- The numbers of those that run. -/
  running : List Nat
  /-- The status. -/
  status : Nat
  /-- Whether any was run. -/
  hasRun : Bool

/-- Waits for one of the programs that run. -/
def ItemRun.settle (run : ItemRun) (s : ItemRunState) : Procedure ItemRunState := do
  awaitAny s.running none false
  let m := (← get).machine
  match s.running.find? (!m.isAlive ·) with
  | none => return s
  | some child => do
    let running := s.running.filter (· ≠ child)
    let name := run.called.headD []
    match ← await child with
    | .exited 0 => return { s with running }
    | .exited 255 => do
      tell (name ++ ": exited with status 255; aborting".toList)
      quit 124
    | .exited 126 => return { s with running, status := 126 }
    | .exited 127 => return { s with running, status := 127 }
    | .exited _ => return { s with running, status := 123 }
    | .killed signal => do
      tell (name ++ ": terminated by signal ".toList ++ Raw.ofNat signal)
      quit 125

/-- Waits until fewer than `n` programs run. -/
def ItemRun.settleTo (run : ItemRun) (n : Nat) (s : ItemRunState) : Procedure ItemRunState :=
  stepwise s fun s => do
    if s.running.length < n then return .done s
    return .more (← run.settle s)

/-- Runs a program with some items. -/
def ItemRun.call (e : Engine) (run : ItemRun) (s : ItemRunState) (items : List Raw) :
    Procedure ItemRunState := do
  let words := match run.mark, items with
    | some mark, r :: _ => run.called.map fun (word : Raw) => withReplaced mark r (word.length + 1) word
    | _, items => run.called ++ items
  if run.isLoud then complain ([' '].intercalate (words.map Quote.asNeeded) ++ ['\n'])
  match ← programImage (words.headD []) (words.drop 1) with
  | .error fault => do
    let (status, r) := programFault fault
    tell (words.headD [] ++ ": ".toList ++ r)
    quit status
  | .ok image => do
    let s ← match run.atOnce with
      | some n => run.settleTo n s
      | none => pure s
    let ready : Procedure Unit := do
      if run.takesInput then setStream 0 (.device .null)
    let child ← start e ready (e.launch image)
    let s := { s with running := s.running ++ [child], hasRun := true }
    match run.atOnce with
    | some 1 => run.settleTo 1 s
    | _ => return s

/-- Runs programs with the items that a channel gives. -/
def ItemRun.all (e : Engine) (run : ItemRun) (g : Grouping) (delimiter : Option Char)
    (ending : Option Raw) (runsAnyway : Bool) (i : Nat) : Procedure Nat := do
  let startSize := run.called.foldl (fun n r => n + r.length + 1) 0
  let feed (s : ItemRunState) (group : ItemGroup) (items : List Item) :
      Procedure (ItemRunState × ItemGroup × Bool) := do
    let kept := match ending with
      | some r => items.takeWhile (·.text ≠ r)
      | none => items
    let (groups, group) := g.groups startSize kept group
    let s ← groups.foldlM (run.call e) s
    return (s, group, kept.length = items.length)
  let blank : ItemReading := { items := [], item := none, quote := none, isAfterBlank := false }
  let start : ItemRunState := { running := [], status := 0, hasRun := false }
  let (s, group, reading, fault, goesOn) ← eachLine i (delimiter.getD '\n')
    (start, Grouping.start startSize, blank, (none : Option Raw), true)
    fun (s, group, reading, _, _) l => do
      match delimiter with
      | some c => do
        let (s, group, goesOn) ← feed s group [{ text := (withoutEnd c l).1, endsLine := true }]
        return ((s, group, reading, none, goesOn), goesOn)
      | none => do
        let (reading, fault) := reading.read run.mark.isSome l
        let (items, reading) := reading.taken
        let (s, group, goesOn) ← feed s group items
        return ((s, group, reading, fault, goesOn), goesOn && fault.isNone)
  let (reading, fault) := match fault with
    | some why => (reading, some why)
    | none => if goesOn then reading.close else (blank, none)
  match fault with
  | some complaint => do
    let _ ← run.settleTo 1 s
    tell complaint
    return 1
  | none => do
    let (s, group, _) ← if goesOn then feed s group reading.taken.1 else pure (s, group, false)
    let s ← if !group.items.isEmpty then run.call e s group.items.reverse
      else if !s.hasRun && runsAnyway then run.call e s []
      else pure s
    return (← run.settleTo 1 s).status

/-- Runs a program with arguments from the input, as often as that is needed. -/
def xargs (e : Engine) (arguments : List Raw) : Procedure Nat := do
  let a ← readArguments xargsOptions arguments
  let count ← match a.value? 'n' with
    | some r => some <$> xargsNumber 'n' 1 r
    | none => pure none
  let lineCount ← match a.value? 'L', a.value? 'l' with
    | some r, _ => some <$> xargsNumber 'L' 1 r
    | none, some r => some <$> xargsNumber 'l' 1 (if r.isEmpty then ['1'] else r)
    | none, none => pure none
  let atOnce ← match a.value? 'P' with
    | some r => xargsNumber 'P' 0 r
    | none => pure 1
  let size ← match a.value? 's' with
    | some r => xargsNumber 's' 1 r
    | none => pure 131072
  let mark := match a.value? 'I', a.value? 'i' with
    | some r, _ => some r
    | none, some r => some (if r.isEmpty then "\x7b\x7d".toList else r)
    | none, none => none
  let isLastMark := a.lastOf? "nIi" ≠ some 'n' || count = some 1
  let exclusive (ignored : String) : Procedure Unit :=
    tell ("warning: options --max-args and --replace/-I/-i are mutually exclusive, ignoring previous "
      ++ ignored ++ " value").toList
  if mark.isSome && count.isSome then
    if !isLastMark then exclusive "--replace/-I/-i"
    else if a.lastOf? "nIi" ≠ some 'n' then exclusive "--max-args"
  let mark := if isLastMark then mark else none
  let delimiter ← match a.value? 'd' with
    | some r => some <$> delimiterOf r
    | none => pure (if a.has '0' then some '\x00' else none)
  let called := if a.operands.isEmpty then ["echo".toList] else a.operands
  let run : ItemRun := {
    called, mark
    isLoud := a.has 't'
    takesInput := !a.has 'a'
    atOnce := if atOnce = 0 then none else some atOnce }
  let g : Grouping := match mark, count, lineCount with
    | some _, _, _ => { count := some 1, byLines := false, size }
    | none, some n, _ => { count := some n, byLines := false, size }
    | none, none, lines => { count := lines, byLines := lines.isSome, size }
  let runsAnyway := mark.isNone && !a.has 'r'
  let file := (a.value? 'a').getD ['-']
  match ← withOperand file (run.all e g delimiter (a.value? 'E') runsAnyway) with
  | .ok status => return status
  | .error fault =>
    if a.has 'a' then
      refuse 1 ("Cannot open input file ".toList ++ Quote.curly file ++ ": ".toList ++ faultText fault)
    else return 0

end Utility

end MapAudit.Script
