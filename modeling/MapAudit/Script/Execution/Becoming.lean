import MapAudit.Script.Builtin.Table
import MapAudit.Script.Engine

/-! # Becoming a program

    A process becomes a program that is called by name. The name is a path, or it
    is looked for along the search path. A file without any form that could be
    executed is taken for a script of the shell itself, unless it is no text.
    What cannot be executed is complained about in the words of the dialect.
-/

namespace MapAudit.Script

namespace Procedure

/-! ## What a shell takes for a script -/

/-- Whether the start of a file looks like that of a script. -/
def looksLikeScript (d : Dialect) (content : Raw) : Bool :=
  let line := (content.take 128).takeWhile (· ≠ '\n')
  match d with
  | .sh => line.all fun c =>
    ('\t' ≤ c && c ≤ '\x0f') || c = '\x1b' || (' ' ≤ c && c ≠ '\x7f')
  | .bash => !line.contains '\x00' && !Image.mark.isPrefixOf line

/-- The image of a script that is run by a new shell. -/
def scriptImage (d : Dialect) (file : Raw) (arguments : List Raw) : Image where
  engagement := .shell d
  name := match d with
    | .sh => "sh"
    | .bash => "bash"
  arguments := file :: arguments

/-- The image of a file that is called from a shell and told a name. -/
def shellImage (title file : Raw) (arguments : List Raw) : Procedure (Except LaunchFault Image) := do
  let s ← get
  match imageOf s.machine.tree s.directory title file arguments with
  | .error (.formless content) =>
    if looksLikeScript s.dialect content then return .ok (scriptImage s.dialect file arguments)
    else return .error (.formless content)
  | answer => return answer

/-! ## What is said -/

/-- The status and the words, in the plain dialect, for a file that cannot be
    executed. -/
def plainRefusal : LaunchFault → Nat × Raw
  | .unreachable .tooManyLinks | .uninterpreted _ .tooManyLinks =>
    (127, faultText .tooManyLinks)
  | .unreachable .nameTooLong | .uninterpreted _ .nameTooLong => (127, faultText .nameTooLong)
  | .unreachable _ | .uninterpreted _ _ => (127, "not found")
  | .isDirectory | .denied | .forbidden _ => (126, "Permission denied")
  | .formless _ => (126, "Exec format error")

/-- The status and the words, in the richer dialect, for a file that cannot be
    executed. -/
def richRefusal : LaunchFault → Nat × Raw
  | .unreachable .notFound | .unreachable .badName => (127, faultText .notFound)
  | .unreachable fault => (126, faultText fault)
  | .uninterpreted _ .notFound | .uninterpreted _ .badName =>
    (127, "cannot execute: required file not found")
  | .uninterpreted interpreter fault => (126, interpreter ++ ": bad interpreter: " ++ faultText fault)
  | .forbidden interpreter => (126, interpreter ++ ": bad interpreter: Permission denied")
  | .isDirectory => (126, faultText .isDirectory)
  | .denied => (126, "Permission denied")
  | .formless _ => (126, "cannot execute binary file: Exec format error")

/-- Complains about a file that cannot be executed. -/
def refuseProgram (shown : Raw) (fault : LaunchFault) : Procedure Nat := do
  let s ← get
  match s.dialect with
  | .sh => do
    let (status, r) := plainRefusal fault
    warn (shown ++ ": " ++ r)
    return status
  | .bash => do
    let (status, r) := richRefusal fault
    modify fun s => { s with builtin := none }
    match fault with
    | .forbidden _ => complain (s.source ++ ": " ++ shown ++ ": " ++ r ++ ['\n'])
    | _ => warn (shown ++ ": " ++ r)
    return status

/-! ## What a program is given -/

/-- The variables that the plain dialect has from the start. -/
def fixedNames : List String :=
  ["IFS", "MAIL", "MAILPATH", "PATH", "PS1", "PS2", "PS4", "OPTIND", "LINENO", "TERM", "HISTSIZE"]

/-- The number of the place among 39 that the plain dialect keeps a variable in. -/
def plainPlace (name : Raw) : Nat :=
  name.foldl (fun n c => n + c.toNat) (16 * (name.headD '\x00').toNat) % 39

/-- Variables in the order that the plain dialect hands them on in: by their places, and in
    one place those that it has from the start before the others. -/
def plainOrder (bindings : List (Raw × Variable)) : List (Raw × Variable) :=
  let key (b : Raw × Variable) : Nat :=
    2 * plainPlace b.1 + (if fixedNames.contains (String.ofList b.1) then 0 else 1)
  bindings.mergeSort fun a b => key a ≤ key b

/-- How many places there are for the variables of a frame, where so many are to be kept:
    `places` or more, of which at most `n` times the fourfold is taken. -/
def framePlaces (count : Nat) : (n : Nat) → (places : Nat) → Nat
  | 0, places => places
  | n + 1, places => if count ≤ 2 * places then places else framePlaces count n (4 * places)

/-- Variables in the order that the richer dialect hands them on in: first those of the
    frames, the last frame first, and then the others. -/
def richOrder (s : Shell) : List (Raw × Variable) :=
  let byPlace (places : Nat) (names : List Raw) : List Raw :=
    names.mergeSort fun a b => Value.mixed a % places ≤ Value.mixed b % places
  let framed := s.frames.flatMap fun frame =>
    byPlace (framePlaces frame.length frame.length 4) (frame.map (·.1))
  let others := byPlace 1024 ((s.bindings.map (·.1)).filter fun name => !framed.contains name).reverse
  (framed ++ others).filterMap fun name => (s.bindings.lookup name).map fun v => (name, v)

/-- Becomes a program that was found in a file. In the richer dialect it is told that file,
    unless it replaces the shell. -/
def embark (e : Engine) (byExec : Bool) (file : Raw) (image : Image) : Procedure Nat := do
  match (← get).dialect with
  | .sh => modify fun s => { s with bindings := plainOrder s.bindings }
  | .bash => do
    modify fun s =>
      let bindings := richOrder s
      let title := { Variable.ofText file with isExported := true }
      { s with
        bindings := if byExec then bindings
          else bindings.filter (·.1 ≠ ['_']) ++ [(['_'], title)] }
  e.launch image

/-! ## Becoming -/

/-- Complains about a name that no program has. -/
def refuseUnknown (name : Raw) (byExec : Bool) : Procedure Nat := do
  if ← isRich then warn (name ++ (if byExec then ": not found" else ": command not found"))
  else warn (name ++ ": not found")
  return 127

/-- The first image of some files that a name may mean. -/
def firstImage (title : Raw) (arguments : List Raw) :
    List Raw → Procedure (Except LaunchFault (Raw × Image))
  | [] => return .error (.unreachable .notFound)
  | file :: rest => do
    match ← shellImage title file arguments with
    | .ok image => return .ok (file, image)
    | .error fault =>
      match (← get).dialect, fault with
      | .sh, .unreachable _ | .sh, .uninterpreted _ _ => firstImage title arguments rest
      | _, fault => return .error fault

/-- **Becoming** the program with a name, which is told a name and given arguments. -/
def become (e : Engine) (byExec : Bool) (title name : Raw) (arguments : List Raw) : Procedure Nat := do
  let rich ← isRich
  if name.isEmpty then
    if rich then refuseUnknown name byExec
    else refuseProgram name .denied
  else if ← isPath name then
    match ← shellImage title name arguments with
    | .ok image => embark e byExec name image
    | .error fault => do
      let shown ← if rich && byExec then absoluteText name else pure name
      let status ← refuseProgram shown fault
      if rich && byExec then refuseExec shown fault
      return status
  else if let some file ← rememberedFile? name then
    if rich then
      match ← shellImage title file arguments with
      | .ok image => embark e byExec file image
      | .error fault => refuseProgram file fault
    else do
      let files := (← candidates name).dropWhile (· ≠ file)
      match ← firstImage title arguments files with
      | .ok (found, image) => embark e byExec found image
      | .error fault => refuseProgram name fault
  else
    match ← placesOf name with
    | .missing => refuseUnknown name byExec
    | .denied =>
      if rich then
        if byExec then
          warn (name ++ ": cannot execute: Is a directory")
          return 126
        else refuseUnknown name false
      else do
        warn (name ++ ": Permission denied")
        return if byExec then 126 else 127
    | .at files => do
      let programs ← files.filterM isProgram
      match rich, programs with
      | false, [] => do
        warn (name ++ ": Permission denied")
        return if byExec then 126 else 127
      | true, [] => do
        let file := files.headD []
        let status ← refuseProgram file .denied
        if byExec then refuseExec file .denied
        return status
      | _, file :: _ =>
        match ← firstImage title arguments programs with
        | .ok (found, image) => embark e byExec found image
        | .error fault => refuseProgram (if rich then file else name) fault
where
  /-- Complains once more in the name of the command that replaces the shell. -/
  refuseExec (shown : Raw) (fault : LaunchFault) : Procedure Unit := do
    modify fun s => { s with builtin := some "exec".toList }
    match fault with
    | .unreachable .notFound | .unreachable .badName | .uninterpreted _ .notFound => return ()
    | .denied => warn (shown ++ ": cannot execute: Permission denied")
    | .isDirectory => warn (shown ++ ": cannot execute: Is a directory")
    | .unreachable fault => warn (shown ++ ": cannot execute: " ++ faultText fault)
    | _ => return ()

end Procedure

end MapAudit.Script
