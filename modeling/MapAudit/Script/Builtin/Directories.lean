import MapAudit.Script.Builtin.Options

/-! # The working directory

    A shell knows its working directory by the path that led there. What `..`
    means is decided on that path, so that it leads back through the symbolic
    links that were gone through.
-/

namespace MapAudit.Script

namespace Procedure

/-- The segments of a path after those of another one, without idle ones. Each
    `..` takes the segment before it away. -/
def tidySegments (before : List Raw) (r : Raw) : List Raw :=
  (r.splitOn '/').foldl (fun done segment =>
    if segment.isEmpty || segment = ['.'] then done
    else if segment = ['.', '.'] then done.dropLast
    else done ++ [segment]) before

/-- The path of a directory that is reached from another one. Two slashes at the
    start are kept. -/
def tidyPath (base r : Raw) : Raw :=
  let top : Raw := match r with
    | '/' :: '/' :: '/' :: _ => ['/']
    | '/' :: '/' :: _ => ['/', '/']
    | '/' :: _ => ['/']
    | _ => if "//".toList.isPrefixOf base then ['/', '/'] else ['/']
  let before := if r.head? = some '/' then [] else tidySegments [] base
  top ++ ['/'].intercalate (tidySegments before r)

/-- Gives a variable a value that programs get. -/
def setExported (name r : Raw) : Procedure Unit := do
  setVariable name r
  let v := ((← get).bindings.lookup name).getD (.ofText r)
  putVariable name { v with isExported := true }

/-- Goes to a directory. `shown` is the path that it is known by from then on. -/
def goTo (r shown : Raw) : Procedure (Except FileFault Unit) := do
  match ← locate r with
  | .error fault => return .error fault
  | .ok location => do
    let s ← get
    match s.machine.tree.get? location with
    | some (.directory a _) => do
      if !a.isPassable then return .error .denied
      let before := s.directoryText
      modify fun s => { s with directoryText := shown }
      onSelf fun p => { p with directory := location }
      setExported "OLDPWD" before
      setExported "PWD" shown
      return .ok ()
    | some _ => return .error .notDirectory
    | none => return .error .notFound

/-- Goes to a directory by its path, or by where it is if `physical`. -/
def enter (physical : Bool) (r : Raw) : Procedure (Except FileFault Unit) := do
  let s ← get
  let byPlace : Procedure (Except FileFault Unit) := do
    match ← locate r with
    | .error fault => return .error fault
    | .ok location => goTo r (locationText location)
  if physical then byPlace
  else
    let path := tidyPath s.directoryText r
    if s.dialect = .bash && !((← find r) matches .ok (.directory _ _)) then
      match ← find r with
      | .ok _ => return .error .notDirectory
      | .error fault => return .error fault
    else goTo path path

/-- Whether a path is meant without the directories that others are looked for
    in. -/
def isFixedPath (r : Raw) : Bool :=
  match r with
  | '/' :: _ | ['.'] | ['.', '.'] | '.' :: '/' :: _ | '.' :: '.' :: '/' :: _ => true
  | _ => false

/-- The directory that a name is found as, and whether it is to be told. -/
def searched (r : Raw) : Procedure (Raw × Bool) := do
  if isFixedPath r then return (r, false)
  match ← valueOf? "CDPATH" with
  | none => return (r, false)
  | some paths =>
    let found ← (paths.splitOn ':').findSomeM? fun above => do
      let path := if above.isEmpty then r else above ++ '/' :: r
      match ← find path with
      | .ok (.directory _ _) => return some (path, !above.isEmpty)
      | _ => return none
    return found.getD (r, false)

/-- Goes to a directory. -/
def cd (arguments : List Raw) : Procedure Nat := do
  let o ← readOptions "LPe@" "" arguments
  let physical := (o.given.reverse.head?.map (·.1)) = some 'P'
  let rich ← isRich
  if rich && 1 < o.operands.length then
    warn "too many arguments"
    return 1
  let home ← valueOf? "HOME"
  let last ← valueOf? "OLDPWD"
  match o.operands.head?, home, last with
  | none, none, _ =>
    if rich then
      warn "HOME not set"
      return 1
    else return 0
  | some ['-'], _, none =>
    if rich then
      warn "OLDPWD not set"
      return 1
    else return 0
  | operand, home, last => do
    let (r, tells) := match operand with
      | none => (home.getD [], false)
      | some ['-'] => (last.getD [], true)
      | some r => (r, false)
    if r.isEmpty then return 0
    let (path, found) ← searched r
    match ← enter physical path with
    | .ok () =>
      if tells || found then write ((← get).directoryText ++ ['\n'])
      if !rich then
        modify fun s => { s with remembered := s.remembered.map ({ · with isStale := true }) }
      return 0
    | .error fault =>
      if rich then
        warn (r ++ ": " ++ faultText fault)
        return 1
      else refuse ("can't cd to " ++ r)

/-- Writes the working directory. -/
def pwd (arguments : List Raw) : Procedure Nat := do
  let o ← readOptions "LP" "" arguments
  let s ← get
  let physical := (o.given.reverse.head?.map (·.1)) = some 'P'
  write ((if physical then locationText s.directory else s.directoryText) ++ ['\n'])
  return 0

/-! ## The stack of directories

    The richer dialect keeps directories to go back to. They are numbered, the
    working directory being the first, and a number may be counted from the end.
-/

/-- Writes the directories, at least two columns for each number if they are `numbered`.
    With `whole` the home directory is spelled out. -/
def writeDirectories (whole numbered inLines : Bool) : Procedure Unit := do
  let s ← get
  let items := s.directories.zipIdx.map fun (r, i) =>
    let shown := if whole then r else s.shownPath r
    if numbered then (if i < 10 then [' '] else []) ++ Raw.ofNat i ++ ' ' :: ' ' :: shown else shown
  write ([if numbered || inLines then '\n' else ' '].intercalate items ++ ['\n'])

/-- Goes to a directory of the stack and writes the stack. -/
def goBackTo (r : Raw) : Procedure Nat := do
  match ← enter false r with
  | .ok () => do
    writeDirectories false false false
    return 0
  | .error fault => do
    warn (r ++ ": " ++ faultText fault)
    return 1

/-- What an argument says that picks a directory by its number: whether it is counted from
    the end, and the number if it is one. -/
def pickIn? : Raw → Option (Bool × Option Nat)
  | '+' :: digits => some (false, Raw.toNat? digits)
  | '-' :: digits => some (true, Raw.toNat? digits)
  | _ => none

/-- Refuses the number of a directory that is not there. -/
def refusePick (written : Raw) : Procedure Nat := do
  if (← get).directoryStack.isEmpty then warn "directory stack empty"
  else warn (written ++ ": directory stack index out of range")
  return 1

/-- Refuses an argument and tells how the command is called. -/
def refuseArgument (written : Raw) (why : Raw) : Procedure Nat := do
  warn (written ++ why)
  tellUsage
  return 2

/-- Keeps a directory for going back to, once the shell has gone to another one; or keeps
    that other one, if the shell `stays`. -/
def pushNew (stays : Bool) (r : Raw) : Procedure Nat := do
  let before := (← get).directoryText
  let status ← if stays then pure 0 else cd [r]
  if status ≠ 0 then return status
  let kept := if stays then r else before
  modify fun s => { s with directoryStack := kept :: s.directoryStack }
  writeDirectories false false false
  return 0

/-- Turns the stack so that a directory of it becomes the working directory, or the first
    one, if the shell `stays`. -/
def turnStack (stays : Bool) (i : Nat) : Procedure Nat := do
  let s ← get
  let turned := s.directories.drop i ++ s.directories.take i
  modify fun s => { s with directoryStack := turned.tail }
  if stays then return 0 else goBackTo (turned.headD [])

/-- Goes to a directory and keeps the one before, or changes places with one of those
    kept. -/
def pushd (arguments : List Raw) : Procedure Nat := do
  match arguments with
  | [] => do
    let s ← get
    match s.directoryStack with
    | [] => do
      warn "no other directory"
      return 1
    | top :: rest => do
      modify fun s => { s with directoryStack := s.directoryText :: rest }
      goBackTo top
  | arguments => pushWith false none arguments
where
  /-- Goes on where the shell `stays` or not, and where a directory was picked or not. -/
  pushWith (stays : Bool) (picked : Option Nat) : List Raw → Procedure Nat
    | ['-', 'n'] :: rest => pushWith true picked rest
    | ['-', '-'] :: rest => finishWith stays picked rest
    | r :: rest => do
      match if r = ['-'] then none else pickIn? r with
      | none => finishWith stays picked (r :: rest)
      | some (_, none) => refuseArgument r ": invalid number"
      | some (isFromEnd, some n) =>
        match (← get).directoryIndex? isFromEnd n with
        | none => refusePick r
        | some i => pushWith stays (some i) rest
    | [] => finishWith stays picked []
  /-- Does what the arguments came to. -/
  finishWith (stays : Bool) (picked : Option Nat) (rest : List Raw) : Procedure Nat :=
    match picked, rest with
    | some i, _ => turnStack stays i
    | none, r :: _ => pushNew stays r
    | none, [] => return 0

/-- Forgets a directory that was kept; if it is the next one, the shell goes back to it,
    unless it `stays`. -/
def popd (arguments : List Raw) : Procedure Nat :=
  popWith false none arguments
where
  /-- Goes on where the shell `stays` or not, and where a directory was picked or not. -/
  popWith (stays : Bool) (picked : Option (Raw × Bool × Nat)) : List Raw → Procedure Nat
    | ['-', 'n'] :: rest => popWith true picked rest
    | ['-', '-'] :: _ | [] => finishWith stays picked
    | r :: rest =>
      match pickIn? r with
      | some (_, none) => refuseArgument r ": invalid number"
      | some (isFromEnd, some n) => popWith stays (some (r, isFromEnd, n)) rest
      | none => if r.isEmpty then finishWith stays picked else refuseArgument r ": invalid argument"
  /-- Does what the arguments came to. -/
  finishWith (stays : Bool) (picked : Option (Raw × Bool × Nat)) : Procedure Nat := do
    let s ← get
    let (written, isFromEnd, n) := picked.getD ([], false, 0)
    match s.directoryStack, s.directoryIndex? isFromEnd n with
    | [], _ | _, none => refusePick written
    | top :: rest, some 0 => do
      let status ← if stays then pure 0 else cd [top]
      if status ≠ 0 then return status
      modify fun s => { s with directoryStack := rest }
      writeDirectories false false false
      return 0
    | stack, some i => do
      modify fun s => { s with directoryStack := stack.eraseIdx (i - 1) }
      writeDirectories false false false
      return 0

/-- Writes the stack of directories or one of them, or forgets those that were kept. -/
def dirs (arguments : List Raw) : Procedure Nat :=
  dirsWith [] none arguments
where
  /-- Goes on with some letters given, and with a directory picked or not. -/
  dirsWith (given : List Char) (picked : Option (Raw × Option Nat)) : List Raw → Procedure Nat
    | ['-', '-'] :: _ | [] => finishWith given picked
    | r :: rest => do
      match r with
      | ['-', c] =>
        if ['l', 'c', 'v', 'p'].contains c then return ← dirsWith (c :: given) picked rest
      | _ => pure ()
      match pickIn? r with
      | some (isFromEnd, some n) =>
        let i := (← get).directoryIndex? isFromEnd n
        dirsWith given (some (r.drop 1, i)) rest
      | some (_, none) => refuseArgument r ": invalid number"
      | none => refuseArgument r ": invalid option"
  /-- Does what the arguments came to. -/
  finishWith (given : List Char) (picked : Option (Raw × Option Nat)) : Procedure Nat := do
    let whole := given.contains 'l'
    let numbered := given.contains 'v'
    if given.contains 'c' then
      modify fun s => { s with directoryStack := [] }
      return 0
    match picked with
    | none => do
      writeDirectories whole numbered (given.contains 'p')
      return 0
    | some (written, none) => refusePick written
    | some (_, some i) => do
      let s ← get
      let r := s.directories.getD i []
      let shown := if whole then r else s.shownPath r
      let number := if numbered then (if i < 10 then [' '] else []) ++ Raw.ofNat i ++ [' ', ' '] else []
      write (number ++ shown ++ ['\n'])
      return 0

end Procedure

end MapAudit.Script
