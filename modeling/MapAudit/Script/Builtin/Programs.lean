import MapAudit.Script.Builtin.Options

/-! # Programs by name

    A program is called by a name that is looked for in the directories of the search
    path. A shell remembers where it found a program, and does not look again as long
    as the search path stays the same, even where the program is no longer there.
-/

namespace MapAudit.Script

namespace Procedure

/-! ## Names of commands -/

/-- The names of the special builtin commands. -/
def specialNames : List String :=
  [".", ":", "break", "continue", "eval", "exec", "exit", "export", "local", "readonly", "return",
    "set", "shift", "times", "trap", "unset"]

/-- Whether a name is that of a special builtin command, whose failure ends a
    script in the plain dialect. -/
def isSpecialName (name : Raw) : Bool :=
  specialNames.contains (String.ofList name)

/-- The names of the other builtin commands. -/
def ordinaryNames (d : Dialect) : List String :=
  ["[", "alias", "bg", "cd", "command", "echo", "false", "fg", "getopts", "hash", "jobs", "kill",
    "local", "printf", "pwd", "read", "test", "true", "type", "ulimit", "umask", "unalias", "wait"]
    ++ match d with
      | .sh => ["chdir"]
      | .bash => ["builtin", "caller", "declare", "dirs", "disown", "fc", "history", "let", "logout",
        "mapfile", "popd", "pushd", "readarray", "shopt", "source", "suspend", "typeset"]

/-- Whether a name is that of a builtin command. -/
def isBuiltinName (d : Dialect) (name : Raw) : Bool :=
  isSpecialName name || (ordinaryNames d).contains (String.ofList name)

/-! ## Programs by name -/

/-- What a name leads to along the search path. -/
inductive ProgramPlace where
  /-- Places of programs, the first one that there is before the others. -/
  | at (places : List Raw)
  /-- Nothing that could be run: there are only directories. -/
  | denied
  /-- Nothing. -/
  | missing
  deriving DecidableEq, Repr

/-- The search path that leads to the usual programs. -/
def standardPath : Dialect → Raw
  | .sh => "/usr/local/sbin:/usr/local/bin:/usr/sbin:/usr/bin:/sbin:/bin".toList
  | .bash => "/bin:/usr/bin".toList

/-- The directories that programs are looked for in. -/
def searchPath : Procedure (List Raw) := do
  let s ← get
  if s.inStandardPath then return (standardPath s.dialect).splitOn ':'
  return ((← valueOf? "PATH").getD []).splitOn ':'

/-- Does something for which programs are looked for in the standard search path, if that
    is wanted. -/
def inStandardPathIf (isWanted : Bool) (p : Procedure Nat) : Procedure Nat := do
  let before := (← get).inStandardPath
  modify fun s => { s with inStandardPath := isWanted || before }
  let restore : Procedure Unit := modify fun s => { s with inStandardPath := before }
  let status ← tryCatch p fun stop => do
    restore
    throw stop
  restore
  return status

/-- Whether a name is a path itself: it has a slash, or there is no search path, in the
    richer dialect. -/
def isPath (name : Raw) : Procedure Bool := do
  return name.contains '/' || (← isRich) && (← searchPath).all List.isEmpty

/-- A path that begins at the top, as it is shown. -/
def absoluteText (r : Raw) : Procedure Raw := do
  if r.head? = some '/' then return r
  let above := (← get).directoryText
  let below := if "./".toList.isPrefixOf r then r.drop 2 else r
  return (if above = ['/'] then [] else above) ++ '/' :: below

/-- The paths that a name may stand for along the search path. -/
def candidates (name : Raw) : Procedure (List Raw) := do
  return (← searchPath).map fun above => if above.isEmpty then name else above ++ '/' :: name

/-- The files that a name stands for along the search path. A name with a slash is
    a path itself. -/
def placesOf (name : Raw) : Procedure ProgramPlace := do
  if name.contains '/' then return .at [name]
  let places ← candidates name
  let files ← places.filterM fun place => do
    return (← find place) matches .ok (.file _)
  if !files.isEmpty then return .at files
  let others ← places.filterM fun place => do
    return (← find place) matches .ok _
  return if others.isEmpty then .missing else .denied

/-- Whether a file may be executed. -/
def isProgram (r : Raw) : Procedure Bool := do
  match ← find r with
  | .ok (.file f) => return f.attributes.isPassable
  | _ => return false

/-- The program that a name stands for, as `type` and others tell it. -/
def programOf? (name : Raw) : Procedure (Option Raw) := do
  if name.contains '/' then
    if ← isRich then return if ← isProgram name then some name else none
    else return if (← find name) matches .ok _ then some name else none
  match ← placesOf name with
  | .at files =>
    files.findM? isProgram
  | .denied | .missing => return none

/-! ## What is remembered -/

/-- The rank of a name among those of remembered programs, by which they are listed. -/
def programRank (d : Dialect) (name : Raw) : Nat :=
  match d with
  | .sh => (name.foldl (fun n c => n + c.toNat) ((name.headD '\x00').toNat * 16)) % 32768 % 31
  | .bash => Value.mixed name % 256

/-- The programs that are remembered. None is after the search path changed. -/
def rememberedPrograms : Procedure (List Remembered) := do
  let s ← get
  return if (← valueOf? "PATH").getD [] = s.rememberedIn then s.remembered else []

/-- Keeps programs in mind, and no others. -/
def keepPrograms (programs : List Remembered) : Procedure Unit := do
  let path := (← valueOf? "PATH").getD []
  modify fun s => { s with remembered := programs, rememberedIn := path }

/-- Forgets a program. The answer says whether it was known. -/
def forget (name : Raw) : Procedure Bool := do
  let programs ← rememberedPrograms
  keepPrograms (programs.filter (·.name ≠ name))
  return programs.any (·.name = name)

/-- Remembers where a program is. Of those with the same rank, the plain dialect lists
    the one first that it knew first, and the richer one the one that it knew last. -/
def remember (name file : Raw) (uses : Nat) : Procedure Unit := do
  let d := (← get).dialect
  let others := (← rememberedPrograms).filter (·.name ≠ name)
  let n := programRank d name
  let isBefore (p : Remembered) : Bool := match d with
    | .sh => programRank d p.name ≤ n
    | .bash => programRank d p.name < n
  let before := others.takeWhile isBefore
  keepPrograms (before ++ { name, file, uses, isStale := false } :: others.drop before.length)

/-- The program that is remembered by a name, unless another search path is to be used. -/
def remembered? (name : Raw) : Procedure (Option Remembered) := do
  if (← get).inStandardPath then return none
  return (← rememberedPrograms).find? (·.name = name)

/-- Counts one more use of a remembered program. -/
def countUse (name : Raw) : Procedure Unit := do
  keepPrograms ((← rememberedPrograms).map fun p =>
    if p.name = name then { p with uses := p.uses + 1 } else p)

/-- The file of a remembered program that need not be looked for again. In the richer
    dialect this is one more use of it. -/
def rememberedFile? (name : Raw) : Procedure (Option Raw) := do
  match ← remembered? name with
  | some p => do
    countUse name
    return if p.isStale then none else some p.file
  | none => return none

/-- Whether programs are to be remembered. -/
def remembers : Procedure Bool := do
  return !(← isRich) || (← hasOption 'h')

/-- The program that a name stands for, where it was found before or where it is found. -/
def knownProgram? (name : Raw) : Procedure (Option Raw) := do
  match ← rememberedFile? name with
  | some file => return some file
  | none => programOf? name

/-- Finds a program that is about to be used, and remembers where it is. -/
def keepAtHand (name : Raw) : Procedure Unit := do
  let s ← get
  if (← isPath name) || !(← remembers) || s.dialect = .sh && s.inStandardPath then return ()
  let known := (← remembered? name).filter fun p => !p.isStale
  let isThere ← match known with
    | some p => do pure (!s.isOn "checkhash" || (← isProgram p.file))
    | none => pure false
  if isThere then countUse name
  else if let some file ← programOf? name then remember name file 1

/-- Lists the programs that are remembered, as a table or as commands that make a shell
    remember them. -/
def listPrograms (asCommands : Bool) : Procedure Unit := do
  let programs ← rememberedPrograms
  match (← get).dialect with
  | .sh => programs.forM fun p => write (p.file ++ (if p.isStale then ['*', '\n'] else ['\n']))
  | .bash =>
    if programs.isEmpty then write "hash: hash table empty\n"
    else if asCommands then
      programs.forM fun p =>
        write ("builtin hash -p ".toList ++ p.file ++ ' ' :: p.name ++ ['\n'])
    else do
      write "hits\tcommand\n"
      programs.forM fun p => do
        let uses := Raw.ofNat p.uses
        write (List.replicate (4 - uses.length) ' ' ++ uses ++ '\t' :: p.file ++ ['\n'])

/-- Complains about the name of an unknown program. -/
def missProgram (name : Raw) : Procedure Nat := do
  warn (name ++ ": not found")
  return 1

/-- Tells where remembered programs are. -/
def tellPrograms (asCommands : Bool) (names : List Raw) : Procedure Nat :=
  forEach names fun name => do
    match ← rememberedFile? name with
    | none => missProgram name
    | some file => do
      if asCommands then write ("builtin hash -p ".toList ++ file ++ ' ' :: name ++ ['\n'])
      else write ((if names.length = 1 then [] else name ++ ['\t']) ++ file ++ ['\n'])
      return 0

/-- Looks for programs, so that they are known, or forgets them. -/
def hash (arguments : List Raw) : Procedure Nat := do
  let rich ← isRich
  if !(← remembers) then
    warn "hashing disabled"
    return 1
  let o ← readOptions (if rich then "lrdt" else "r") (if rich then "p" else "") arguments
  if o.operands.isEmpty && (o.has 'd' || o.has 't') then
    warn ((if o.has 't' then "-t" else "-d") ++ ": option requires an argument")
    return 1
  if o.has 't' then return ← tellPrograms (o.has 'l') o.operands
  if o.operands.isEmpty && !o.has 'r' then
    listPrograms (o.has 'l')
    return 0
  if o.has 'r' then keepPrograms []
  forEach o.operands fun name => do
    if o.has 'd' then
      if ← forget name then return 0
      missProgram name
    else if name.contains '/' && rich then return 0
    else match o.value? 'p' with
      | some file =>
        if (← find file) matches .ok (.directory _ _) then
          warn (file ++ ": Is a directory")
          return 1
        remember name file 0
        return 0
      | none => do
        let s ← get
        if isBuiltinName s.dialect name || rich && (s.functions.lookup name).isSome then return 0
        let _ ← forget name
        match ← programOf? name with
        | some file => do
          remember name file 0
          return 0
        | none => missProgram name

end Procedure

end MapAudit.Script
