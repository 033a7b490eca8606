import MapAudit.Script.Builtin.Conditions
import MapAudit.Script.Builtin.Control
import MapAudit.Script.Builtin.Directories
import MapAudit.Script.Builtin.Programs

/-! # The builtin commands

    Builtin commands are carried out by the shell itself. Special ones are those
    whose failure ends a script. A name may also be one of a function, or lead to a
    program; commands such as `type` tell which.
-/

namespace MapAudit.Script

namespace Procedure

/-! ## Printing -/

/-- The manner of printing in a dialect. -/
def manner : Procedure Manner := do
  return match (← get).dialect with
    | .sh => .sh
    | .bash => .bash

/-- Writes its arguments. -/
def echo (arguments : List Raw) : Procedure Nat := do
  write (echoed (← manner) arguments)
  return 0

/-- Writes its arguments in a format. What is complained about comes before what
    is written. -/
def printf (arguments : List Raw) : Procedure Nat := do
  let rich ← isRich
  let o ← readOptions "" (if rich then "v" else "") arguments
  match o.operands with
  | [] =>
    if rich then
      tellUsage
      return 2
    else refuse "usage: printf format [arg ...]"
  | format :: rest => do
    let now := Moment.ofNanoseconds (← get).machine.time
    let (printed, status) := formatted (← manner) now format rest
    printed.forM fun p => match p with
      | .complaint r => warn r
      | .text _ => return ()
    let r := printed.flatMap fun p => match p with
      | .text r => r
      | .complaint _ => []
    match o.value? 'v' with
    | some name => do
      if !isSlotName name then refuseName name
      assignAt (← slotOf name) false r
      return status
    | none => do
      write r
      return status

/-! ## What names stand for -/

/-- How the file of a remembered program is told. -/
def shownPlace (file : Raw) : Raw :=
  if file.head? = some '/' then file else "./" ++ file

/-- Tells what a name stands for, in words or in short. -/
def describe (inWords : Bool) (name : Raw) : Procedure Nat := do
  let s ← get
  let say (long : Raw) : Procedure Nat := do
    write ((if inWords then name ++ ' ' :: long else name) ++ ['\n'])
    return 0
  if (Token.reservedWords s.dialect).contains (String.ofList name) then say "is a shell keyword"
  else if let some f := s.functions.lookup name then do
    match s.dialect with
    | .sh => say "is a shell function"
    | .bash => do
      let status ← say "is a function"
      if inWords then write (Command.definitionText name f.body ++ ['\n'])
      return status
  else if isBuiltinName s.dialect name then
    say (if s.dialect = .sh && isSpecialName name then "is a special shell builtin"
      else "is a shell builtin")
  else match (if s.dialect = .sh then s.aliases.lookup name else none) with
    | some text => do
      write (if inWords then name ++ " is an alias for " ++ text ++ ['\n']
        else "alias " ++ name ++ '=' :: Quote.alternating text ++ ['\n'])
      return 0
    | none =>
      let isKnown := (← remembered? name).isSome
      match ← knownProgram? name with
      | some path => do
        let whole ← absoluteText path
        let place := match isKnown, s.dialect with
          | false, .sh => path
          | false, .bash => if name.contains '/' then path else whole
          | true, .sh => "a tracked alias for " ++ path
          | true, .bash => "hashed (" ++ shownPlace path ++ [')']
        write ((if inWords then name ++ " is " ++ place else path) ++ ['\n'])
        if s.dialect = .sh && !s.inStandardPath && !isKnown && !name.contains '/' then
          remember name path 0
        return 0
      | none =>
        match s.dialect with
        | .sh => do
          if inWords then write (name ++ ": not found\n")
          return 127
        | .bash => do
          if inWords then warn (name ++ ": not found")
          return 1

/-- What a name is, in one word. -/
def kindWord? (name : Raw) : Procedure (Option Raw) := do
  let s ← get
  if (Token.reservedWords s.dialect).contains (String.ofList name) then return some "keyword"
  else if (s.functions.lookup name).isSome then return some "function"
  else if isBuiltinName s.dialect name then return some "builtin"
  else return (← knownProgram? name).map fun _ => "file"

/-- Tells all that a name stands for. -/
def describeAll (name : Raw) : Procedure Nat := do
  let s ← get
  let isKnown := (Token.reservedWords s.dialect).contains (String.ofList name)
    || (s.functions.lookup name).isSome || isBuiltinName s.dialect name
  if (s.functions.lookup name).isSome then
    let _ ← describe true name
    if isBuiltinName s.dialect name then write (name ++ " is a shell builtin\n".toList)
  else if isKnown then
    let _ ← describe true name
  let files ← match ← placesOf name with
    | .at files => files.filterM isProgram
    | .denied | .missing => pure []
  files.forM fun file => write (name ++ " is " ++ file ++ ['\n'])
  if isKnown || !files.isEmpty then return 0
  warn (name ++ ": not found")
  return 1

/-- Tells what names stand for. -/
def type (arguments : List Raw) : Procedure Nat := do
  let o ← if ← isRich then readOptions "afptP" "" arguments
    else pure { given := [], operands := arguments }
  o.operands.foldlM (fun status name => do
    let next ← if o.has 't' then
        match ← kindWord? name with
        | some kind => do
          write (kind ++ ['\n'])
          pure 0
        | none => pure 1
      else if o.has 'p' || o.has 'P' then
        let hidden := !o.has 'P' && isBuiltinName (← get).dialect name
        match ← knownProgram? name with
        | some path => do
          if !hidden then write (path ++ ['\n'])
          pure 0
        | none => pure (if hidden then 0 else 1)
      else if o.has 'a' then describeAll name
      else describe true name
    return if next = 0 then status else next) 0

/-- **Builtin commands** that need nothing but the shell. -/
def builtin? (name : Raw) : Procedure (Option (List Raw → Procedure Nat)) := do
  let m ← manner
  let common : Option (List Raw → Procedure Nat) := match String.ofList name with
    | ":" | "true" => some fun _ => return 0
    | "false" => some fun _ => return 1
    | "[" => some (testBracket m)
    | "test" => some (testWords m)
    | "alias" => some aliases
    | "bg" | "fg" => some resume
    | "break" => some (leaveLoops false)
    | "continue" => some (leaveLoops true)
    | "cd" => some cd
    | "echo" => some echo
    | "exit" => some exit
    | "export" => some «export»
    | "getopts" => some getopts
    | "hash" => some hash
    | "jobs" => some jobs
    | "kill" => some kill
    | "local" => some localize
    | "printf" => some printf
    | "pwd" => some pwd
    | "read" => some fun arguments => containing (read arguments)
    | "readonly" => some readonly
    | "return" => some «return»
    | "set" => some configure
    | "shift" => some shift
    | "times" => some fun _ => times
    | "trap" => some trap
    | "type" => some type
    | "ulimit" => some ulimit
    | "umask" => some umask
    | "unalias" => some unaliases
    | "unset" => some unset
    | "wait" => some wait
    | _ => none
  match common with
  | some p => return some p
  | none =>
    match m, String.ofList name with
    | .sh, "chdir" => return some cd
    | .bash, "caller" => return some caller
    | .bash, "declare" | .bash, "typeset" => return some declare
    | .bash, "disown" => return some disown
    | .bash, "history" | .bash, "fc" => return some fun _ => return 0
    | .bash, "logout" => return some fun _ => logout
    | .bash, "suspend" => return some suspend
    | .bash, "dirs" => return some dirs
    | .bash, "let" => return some «let»
    | .bash, "popd" => return some popd
    | .bash, "pushd" => return some pushd
    | .bash, "shopt" => return some shopt
    | _, _ => return none

end Procedure

end MapAudit.Script
