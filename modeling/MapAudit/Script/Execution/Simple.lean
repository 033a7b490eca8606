import MapAudit.Script.Execution.Becoming
import MapAudit.Script.Execution.Preparation

/-! # Simple commands

    A simple command makes assignments, or it calls a function, a builtin command
    or a program by name. Assignments before a name hold for that call only, and
    so do redirections, unless the command is `exec`.

    In the plain dialect the failure of a special builtin command ends the script;
    where `command` stands before its name, it is a command like others.
-/

namespace MapAudit.Script

namespace Procedure

/-! ## Calls -/

/-- How deep functions may nest in the plain dialect. -/
def maxCalls : Nat := 1000

/-- **Call** of a function. -/
def callFunction (e : Engine) (stance : Stance) (name : Raw) (f : Definition)
    (arguments : List Raw) : Procedure Nat := do
  let before ← get
  if before.dialect = .sh && maxCalls ≤ before.running.length then
    refuse ("Maximum function recursion depth (" ++ Raw.ofNat maxCalls ++ ") reached".toList)
  let here : Call := { name, line := before.line, source := f.source, isFunction := true, options := none }
  let isHidden (signal : Signal) : Bool :=
    signal = Signal.failure && !before.options.contains 'E'
      || (signal = Signal.step || signal = Signal.departure) && !before.options.contains 'T'
  let hidden := before.traps.filter fun trap => isHidden trap.1
  modify fun s =>
    { s with
      arguments, loops := 0, calls := s.calls + 1, running := here :: s.running
      source := f.source
      traps := s.traps.filter fun trap => !isHidden trap.1 }
  let restore : Procedure Unit := modify fun s =>
    let (options, settings) := (s.running.head?.bind (·.options)).getD (s.options, s.settings)
    let isOption (name : String) : Bool := ((optionNames s.dialect).lookup name).isSome
    { s with
      options
      settings := settings.filter isOption ++ s.settings.filter fun name => !isOption name
      arguments := before.arguments, loops := before.loops, calls := before.calls
      running := before.running, source := before.source
      line := if before.dialect = .bash then before.line else s.line
      traps := s.traps ++ hidden.filter fun trap => (s.traps.lookup trap.1).isNone }
  let body : Procedure Nat := do
    if before.dialect = .bash then announce e f.line before.command
    let status ← inFrame do
      let status ← tryCatch (e.run stance.followed [f.body]) fun stop => match stop with
        | .leave n => return n
        | stop => throw stop
      onOccasion e Signal.departure
      return status
    return status
  let status ← tryCatch body fun stop => do
    restore
    throw stop
  restore
  return status

/-- Writes what is left of the output of a builtin command. Where that fails, it is
    complained about, and the command fails. -/
def closeOutput (name : Raw) (status : Nat) : Procedure Nat := do
  flush
  match (← get).outputFault with
  | none => return status
  | some fault => do
    modify fun s => { s with outputFault := none }
    if ← isRich then
      warn ("write error: " ++ fault.text)
      return 1
    else
      warn (name ++ ": I/O error")
      return status ||| 1

/-- Does something in the name of a builtin command. -/
def asBuiltin (name : Raw) (p : Procedure Nat) : Procedure Nat := do
  let before := (← get).builtin
  let restore : Procedure Unit := modify fun s => { s with builtin := before }
  modify fun s => { s with builtin := some name }
  let status ← tryCatch p fun stop => do
    let _ ← closeOutput name 0
    restore
    throw stop
  let status ← closeOutput name status
  restore
  return status

/-- Does something one level deeper. -/
def deeper (p : Procedure Nat) : Procedure Nat := do
  modify fun s => { s with depth := s.depth + 1 }
  let restore : Procedure Unit := modify fun s => { s with depth := s.depth - 1 }
  let status ← tryCatch p fun stop => do
    restore
    throw stop
  restore
  return status

/-- Runs arguments as a text of commands. -/
def eval (e : Engine) (stance : Stance) (arguments : List Raw) : Procedure Nat := do
  let s ← get
  let text := [' '].intercalate arguments
  match s.dialect with
  | .sh => e.text stance.followed [] 1 text
  | .bash => deeper do
    modify fun s => { s with builtin := none }
    e.text stance.followed "eval: " s.line text

/-- The file that is meant by the name of a script to be read in. -/
def scriptFile? (name : Raw) : Procedure (Option Raw) := do
  if name.contains '/' then return some name
  match ← placesOf name with
  | .at (file :: _) => return some file
  | _ => return if ← isRich then some name else none

/-- Reads a script in and runs its commands. -/
def readIn (e : Engine) (stance : Stance) (arguments : List Raw) : Procedure Nat := do
  let rich ← isRich
  match arguments with
  | [] => do
    if !rich then return 0
    warn "filename argument required"
    tellUsage
    return 2
  | name :: rest =>
    match ← scriptFile? name with
    | none => refuse (name ++ ": not found")
    | some file =>
      match ← readFile file with
      | .error fault => do
        if !rich then
          if fault = .isDirectory then return 0
          refuse (openingText .sh .read file fault)
        if fault = .isDirectory then warn (file ++ ": is a directory")
        else
          modify fun s => { s with builtin := none }
          warn (file ++ ": " ++ faultText fault)
        return 1
      | .ok text => do
        let before ← get
        let here : Call := {
          name := "source", line := before.line, source := file, isFunction := false, options := none }
        modify fun s =>
          { s with
            calls := s.calls + 1
            running := if rich then here :: s.running else s.running
            builtin := if rich then none else some file
            source := file
            arguments := if rich && !rest.isEmpty then rest else s.arguments }
        let restore : Procedure Unit := modify fun s =>
          { s with
            calls := before.calls, source := before.source, running := before.running
            arguments := if rich && !rest.isEmpty then before.arguments else s.arguments }
        let body : Procedure Nat := do
          let status ← tryCatch (e.text stance.followed [] 1 text) fun stop => match stop with
            | .leave n => return n
            | stop => throw stop
          onOccasion e Signal.departure
          return status
        let status ← tryCatch body fun stop => do
          restore
          throw stop
        restore
        return status

/-- Counts one shell less of those in the richer dialect that run inside each other. -/
def lowerLevel : Procedure Unit := do
  if ← isRich then
    match (← valueOf? "SHLVL").bind Raw.toNat? with
    | some n => setVariable "SHLVL" (Raw.ofNat (n - 1))
    | none => return ()

/-- Becomes a program, and ends as it does. In the richer dialect it may be told another
    name than its own, and it may get no variables. -/
def exec (e : Engine) (arguments : List Raw) : Procedure Nat := do
  let o ← if ← isRich then readOptions "cl" "a" arguments
    else pure { given := [], operands := arguments }
  match o.operands with
  | [] => return 0
  | name :: rest => do
    let title := (if o.has 'l' then ['-'] else []) ++ (o.value? 'a').getD name
    if o.has 'c' then
      modify fun s =>
        { s with bindings := s.bindings.map fun (key, v) => (key, { v with isExported := false }) }
    lowerLevel
    let status ← become e true title name rest
    modify fun s => { s with traps := s.traps.filter (·.1 ≠ 0) }
    throw (.exit status)

/-- Tells what a name stands for. -/
def commandBuiltin (arguments : List Raw) : Procedure Nat := do
  let o ← readOptions "pvV" "" arguments
  match o.operands with
  | [] => return 0
  | names =>
    let inWords := o.has 'V'
    inStandardPathIf (o.has 'p') <| match (← get).dialect with
      | .sh => describe inWords (names.headD [])
      | .bash =>
        names.foldlM (fun status name => do
          let next ← describe inWords name
          return if next = 0 then 0 else status) 1

/-- Refuses the name of a builtin command where there is none. -/
def builtinBuiltin (arguments : List Raw) : Procedure Nat := do
  match (← readOptions "" "" arguments).operands with
  | [] => return 0
  | name :: _ => do
    warn (name ++ ": not a shell builtin")
    return 1

/-- The builtin commands that run commands themselves. -/
def runningBuiltin? (e : Engine) (stance : Stance) (d : Dialect) (name : Raw) :
    Option (List Raw → Procedure Nat) :=
  match d, String.ofList name with
  | _, "eval" => some (eval e stance)
  | _, "." | .bash, "source" => some (readIn e stance)
  | _, "exec" => some (exec e)
  | _, "command" => some commandBuiltin
  | .bash, "builtin" => some builtinBuiltin
  | .bash, "mapfile" | .bash, "readarray" => some (mapfile fun r => do
    let _ ← e.text stance.followed [] 1 r)
  | _, _ => none

/-- Whether the shell has made provisions that it needs itself for. -/
def hasTraps : Procedure Bool := do
  return (← get).traps.any fun (_, action) => !action.isEmpty

/-- **Call** of what a name stands for. -/
def call (e : Engine) (stance : Stance) (ignoresFunctions : Bool) (name : Raw)
    (arguments : List Raw) : Procedure Nat := do
  let s ← get
  let isSpecial := s.dialect = .sh && !ignoresFunctions && isSpecialName name
  match if ignoresFunctions || isSpecial then none else s.functions.lookup name with
  | some f => callFunction e stance name f arguments
  | none =>
    match runningBuiltin? e stance s.dialect name with
    | some p => tryCatch (asBuiltin name (p arguments)) fun stop => match stop with
      | .fault n =>
        let isTame := ["builtin", "command", "exec"].contains (String.ofList name)
        if isSpecial || s.dialect = .bash && !isTame then throw (.fault n)
        else return n
      | stop => throw stop
    | none =>
      match ← builtin? name with
      | some p =>
        let inner := asBuiltin name (p arguments)
        let inner := if s.dialect = .sh && ignoresFunctions then inFrame inner else inner
        tryCatch inner fun stop => match stop with
          | .fault n => if isSpecial then throw (.fault n) else return n
          | stop => throw stop
      | none => do
        let hasTraps ← hasTraps
        if stance.isFinal && !hasTraps then do
          if s.nesting = 0 then lowerLevel
          become e false name name arguments
        else do
          keepAtHand name
          waiting e (become e false name name arguments)

/-! ## Commands with words -/

/-- **Meaning** of the fields of a command. -/
structure Meaning where
  /-- The name of what is called, and its arguments. -/
  fields : List Raw
  /-- Whether functions are ignored. -/
  ignoresFunctions : Bool
  /-- Whether a program is looked for in the standard search path. -/
  inStandardPath : Bool

/-- The meaning of fields, at most `n` of which are `command`, where that does nothing but
    change how a name is looked up. -/
def meaningOf (d : Dialect) : (n : Nat) → List Raw → Meaning
  | 0, fields => { fields, ignoresFunctions := false, inStandardPath := false }
  | n + 1, fields =>
    let plain : Meaning := { fields, ignoresFunctions := false, inStandardPath := false }
    match fields with
    | name :: rest =>
      if name = "command".toList || (name = "builtin".toList && d = .bash) then
        let (isStandard, rest) := match rest with
          | ['-', 'p'] :: ['-', '-'] :: rest | ['-', 'p'] :: rest => (true, rest)
          | ['-', '-'] :: rest => (false, rest)
          | rest => (false, rest)
        match rest with
        | next :: more =>
          let isOther := name = "builtin".toList && !isBuiltinName d next
          if next.head? = some '-' || isOther then plain
          else
            let inner := meaningOf d n (next :: more)
            { inner with
              ignoresFunctions := true, inStandardPath := inner.inStandardPath || isStandard }
        | [] => plain
      else plain
    | [] => plain

/-- Shows a line about an assignment in the richer dialect, if the shell is to trace
    commands. -/
def traceIfRich (e : Engine) (channel : Option Nat) (r : Raw) : Procedure Unit := do
  if ← isRich then traceTo e channel r

/-- Makes assignments that stay. -/
def assignAll (e : Engine) (traceChannel : Option Nat) (assignments : List Assignment) :
    Procedure (List Raw) :=
  assignments.mapM (makeAssignment e (traceIfRich e traceChannel))

/-- Makes assignments that hold in the present frame. Programs get the variables. -/
def assignInFrame (e : Engine) (traceChannel : Option Nat) (assignments : List Assignment) :
    Procedure (List Raw) :=
  assignments.mapM fun a => do
    let name := assignedName a
    let make : Procedure Raw := do
      hide name
      let shown ← makeAssignment e (traceIfRich e traceChannel) a
      changeVariable name fun v => { v with isExported := true }
      return shown
    if ← isRich then
      tryCatch make fun stop => match stop with
        | .discard _ => return []
        | stop => throw stop
    else make

/-- Does something after assignments that hold for it alone. What is found in a search
    path of its own is not remembered. -/
def keepingPrograms (assignments : List Assignment) (p : Procedure Nat) : Procedure Nat := do
  let before ← get
  let restore : Procedure Unit :=
    if assignments.any fun a => assignedName a = "PATH" then
      modify fun s => { s with remembered := before.remembered, rememberedIn := before.rememberedIn }
    else return ()
  let status ← tryCatch p fun stop => do
    restore
    throw stop
  restore
  return status

/-- Whether an assignment is one of several elements. -/
def isList : Assignment → Bool
  | .several _ _ _ _ => true
  | .one _ _ _ _ => false

/-- Shows the elements that variables are about to be declared with. -/
def traceElements (e : Engine) (channel : Option Nat) : Assignment → Procedure Unit
  | .one _ _ _ _ => return ()
  | .several name adds elements _ => do
    if !(← hasOption 'x') then return ()
    let texts ← elements.mapM fun (index, w) => do
      if index.isEmpty then
        return (← expandBraced e w).map Quote.single
      else
        let key ← expandText e index
        return [['['] ++ Quote.single key ++ "]=".toList ++ Quote.single (← expandValue e w)]
    let shown := [' '].intercalate texts.flatten
    traceTo e channel (name ++ (if adds then "+=(" else "=(").toList ++ shown ++ [')'])

/-- Shows the values that a command which declares variables is about to give them. -/
def traceValues (e : Engine) (channel : Option Nat) (name : Raw) (arguments : List Raw) : Procedure Unit := do
  if name ≠ "export".toList && name ≠ "readonly".toList then return ()
  arguments.forM fun r => do
    let key := r.takeWhile (· ≠ '=')
    if Reader.isName key && key.length < r.length then
      traceTo e channel (key ++ '=' :: Quote.traced (r.drop (key.length + 1)))

/-- Runs a command whose words became fields. -/
def runFields (e : Engine) (stance : Stance) (traceChannel : Option Nat)
    (assignments : List Assignment) (fields : List Raw) : Procedure Nat := do
  let d := (← get).dialect
  let meaning := meaningOf d fields.length fields
  let ignoresFunctions := meaning.ignoresFunctions
  inStandardPathIf meaning.inStandardPath <| match meaning.fields with
  | [] => do
    let shown ← assignAll e traceChannel assignments
    if d = .sh && !shown.isEmpty then traceTo e traceChannel (traceLine d shown [])
    return (← get).wordStatus
  | name :: arguments => do
    if d = .bash && isDeclaring d meaning.fields && assignments.any isList then
      assignments.forM (traceElements e traceChannel)
      traceTo e traceChannel (traceLine d [] fields)
      if name = "readonly".toList then
        let _ ← assignAll e none assignments
        call e stance ignoresFunctions name arguments
      else
        let status ← call e stance ignoresFunctions name arguments
        let _ ← assignAll e none assignments
        return status
    else if assignments.isEmpty then
      traceTo e traceChannel (traceLine d [] fields)
      if d = .bash then traceValues e traceChannel name arguments
      call e stance ignoresFunctions name arguments
    else if d = .sh && !ignoresFunctions && isSpecialName name then
      let shown ← assignAll e traceChannel assignments
      traceTo e traceChannel (traceLine d shown fields)
      call e stance ignoresFunctions name arguments
    else keepingPrograms assignments <| inFrame do
      let shown ← assignInFrame e traceChannel assignments
      traceTo e traceChannel (traceLine d shown fields)
      call e stance ignoresFunctions name arguments

/-- **Running** a simple command. -/
def runSimple (e : Engine) (stance : Stance) (line : Nat) (assignments : List Assignment)
    (words : List Word) (redirections : List Redirection) : Procedure Nat := do
  modify fun s => { s with line, wordStatus := 0 }
  let traceChannel ← channelOf? 2
  let fields ← expandArguments e [] words
  let d := (← get).dialect
  let meaning := meaningOf d fields.length fields
  let isSpecial := d = .sh && !meaning.ignoresFunctions && meaning.fields.head?.any isSpecialName
  let whole : Procedure Nat := do
    if ← prepareStreams e redirections then
      runFields e stance traceChannel assignments fields
    else if isSpecial then throw (.fault (← redirectionStatus))
    else redirectionStatus
  let status ← if meaning.fields.head? = some "exec".toList then whole
    else keepingStreams (redirections.flatMap Redirection.streams) whole
  if d = .bash then putVariable ['_'] (.ofText (fields.getLastD []))
  return status

end Procedure

end MapAudit.Script
