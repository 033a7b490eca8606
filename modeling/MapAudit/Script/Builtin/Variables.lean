import MapAudit.Script.Builtin.Reading
import MapAudit.Script.Declaration

/-! # Builtin commands on variables

    These make variables known to programs, unchangeable or local, take them away
    and list them. `set` gives the shell its options and arguments.
-/

namespace MapAudit.Script

namespace Procedure

/-! ## Giving values -/

/-- An argument that assigns: the name, whether the value is added to what is
    there, and the value. -/
def assignmentIn (rich : Bool) (r : Raw) : Raw × Bool × Option Raw :=
  let name := r.takeWhile (· != '=')
  match r.drop name.length with
  | [] => (name, false, none)
  | _ :: value =>
    if rich && name.getLast? = some '+' then (name.dropLast, true, some value)
    else (name, false, some value)

/-- Changes a variable, which need not be there. -/
def changeVariable (name : Raw) (f : Variable → Variable) : Procedure Unit := do
  let name ← meantBy name
  putVariable name (f ((← lookUp? name).getD .blank))

/-! ## Lists of variables -/

/-- The variables in the order of their names. -/
def sortedVariables : Procedure (List (Raw × Variable)) := do
  return (← get).bindings.mergeSort fun a b => Raw.isAtMost a.1 b.1

/-- Writes the variables of some kind. -/
def listVariables (command : Raw) (isMeant : Variable → Bool) : Procedure Nat := do
  let rich ← isRich
  (← sortedVariables).forM fun (name, v) => do
    if isMeant v then
      if rich then write (v.declaration name ++ ['\n'])
      else
        let value : Raw := match v.text? with
          | some r => '=' :: Quote.alternating r
          | none => []
        write (command ++ ' ' :: name ++ value ++ ['\n'])
  return 0

/-- Writes the definitions of functions, in the order of their names. -/
def listFunctions : Procedure Unit := do
  let functions := (← get).functions.mergeSort fun a b => Raw.isAtMost a.1 b.1
  functions.forM fun (name, f) => write (Command.definitionText name f.body ++ ['\n'])

/-- Writes all variables with their values. -/
def listValues : Procedure Nat := do
  let rich ← isRich
  (← sortedVariables).forM fun (name, v) => do
    match v.text? with
    | none => return ()
    | some r =>
      let shown := if rich then Quote.assigned r else Quote.alternating r
      write (name ++ '=' :: shown ++ ['\n'])
  if rich then listFunctions
  return 0

/-! ## Declaring -/

/-- Declares variables: each gets its value, if one is given, and is changed. -/
def declareAll (operands : List Raw) (change : Variable → Variable) : Procedure Nat := do
  let rich ← isRich
  forEach operands fun r => do
    let (name, adds, value) := assignmentIn rich r
    if !Reader.isName name then
      if rich then
        warn ("\x60" ++ r ++ "': not a valid identifier")
        return 1
      else refuse (name ++ ": bad variable name")
    containing do
      match value with
      | some value => assignAt { name, key := none } adds value
      | none => pure ()
      changeVariable name change
      return 0

/-- The command that a function is declared as with its letters. -/
def functionLine (name : Raw) (f : Definition) : Raw :=
  "declare -f".toList ++ (if f.isReadOnly then ['r'] else []) ++ (if f.isExported then ['x'] else [])
    ++ ' ' :: name ++ ['\n']

/-- Changes functions with some names, or lists those that are of a kind. -/
def changeFunctions (names : List Raw) (isOfKind : Definition → Bool)
    (change : Definition → Definition) : Procedure Nat := do
  if names.isEmpty then
    let functions := (← get).functions.mergeSort fun a b => Raw.isAtMost a.1 b.1
    (functions.filter (isOfKind ·.2)).forM fun (name, f) =>
      write (Command.definitionText name f.body ++ '\n' :: functionLine name f)
    return 0
  forEach names fun name => do
    if ((← get).functions.lookup name).isNone then
      warn (name ++ ": not a function")
      return 1
    modify fun s =>
      { s with functions := s.functions.map fun (key, f) =>
          (key, if key = name then change f else f) }
    return 0

/-- Lets programs get functions, or lists those that they get. -/
def exportFunctions (names : List Raw) (on : Bool) : Procedure Nat :=
  changeFunctions names (·.isExported) ({ · with isExported := on })

/-- Lets functions not be changed any more, or lists those. -/
def keepFunctions (names : List Raw) : Procedure Nat :=
  changeFunctions names (·.isReadOnly) ({ · with isReadOnly := true })

/-- Lets programs get variables. -/
def «export» (arguments : List Raw) : Procedure Nat := do
  let rich ← isRich
  let o ← readOptions (if rich then "fnp" else "p") "" arguments
  if o.has 'f' then exportFunctions o.operands (!o.has 'n')
  else if o.operands.isEmpty || (o.has 'p' && !rich) then
    listVariables "export" (·.isExported)
  else declareAll o.operands fun v => { v with isExported := !o.has 'n' }

/-- Lets variables not be changed any more. -/
def readonly (arguments : List Raw) : Procedure Nat := do
  let rich ← isRich
  let o ← readOptions (if rich then "aAfp" else "p") "" arguments
  if o.has 'f' then keepFunctions o.operands
  else if o.operands.isEmpty || (o.has 'p' && !rich) then
    listVariables "readonly" (·.isReadOnly)
  else declareAll o.operands fun v => { v with isReadOnly := true }

/-- Lets the options be as they are now when the function ends. -/
def keepOptions : Procedure Unit :=
  modify fun s =>
    match s.running with
    | here :: above =>
      let options := here.options.getD (s.options, s.settings)
      { s with running := { here with options := some options } :: above }
    | [] => s

/-- Makes variables local to a function, in the plain dialect. -/
def plainLocal (arguments : List Raw) : Procedure Nat := do
  if (← get).frames.isEmpty then refuse "not in a function"
  if arguments = [['-']] then keepOptions
  else arguments.forM fun r => do
    let (name, _, value) := assignmentIn false r
    if !Reader.isName name then refuse (name ++ ": bad variable name")
    hide name
    match value with
    | some value => setVariable name value
    | none => return ()
  return 0

/-- What declared variables become. -/
def declared (o : Options) (v : Variable) : Variable :=
  let value := match v.value with
    | .unset => if o.has 'A' then .table [] else if o.has 'a' then .list [] else .unset
    | .text r =>
      if o.has 'A' then .table [(['0'], r)] else if o.has 'a' then .list [(0, r)] else .text r
    | value => value
  { v with
    value
    isExported := v.isExported || o.has 'x'
    isReadOnly := v.isReadOnly || o.has 'r'
    isNumber := v.isNumber || o.has 'i'
    recasing := if o.has 'l' then some .lower else if o.has 'u' then some .upper else v.recasing }

/-- Lets a name stand for another variable. -/
def refer (isLocal : Bool) (name : Raw) (target : Option Raw) : Procedure Nat := do
  if isLocal then hide name
  let old := ((← get).bindings.lookup name).getD .blank
  let value : Value := match target with
    | some r => .text r
    | none => old.value
  putVariable name { old with isReference := true, value }
  return 0

/-- Declares a variable. -/
def declareOne (o : Options) (isLocal : Bool) (r : Raw) : Procedure Nat := do
  let (written, adds, value) := assignmentIn true r
  let (name, index) := match Slot.split? written with
    | some (name, index) => (name, some index)
    | none => (written, none)
  if !Reader.isName name then
    warn ("\x60" ++ r ++ "': not a valid identifier")
    return 1
  if o.has 'n' then return ← refer isLocal name value
  match ← lookUp? name with
  | some { isReadOnly := true, .. } =>
    if isLocal || value.isSome then
      warn (name ++ ": readonly variable")
      return 1
  | _ => pure ()
  if isLocal then
    let isHidden := match (← get).frames with
      | here :: _ => (here.lookup name).isSome
      | [] => false
    hide name
    if !isHidden then
      let wasExported := ((← get).bindings.lookup name).any (·.isExported)
      modify fun s => { s with bindings := s.bindings.filter (·.1 ≠ name) }
      if wasExported then putVariable name { Variable.blank with isExported := true }
  containing do
    changeVariable name fun v => { declared o v with isReadOnly := v.isReadOnly }
    match value, index with
    | some value, none => assignAt { name, key := none } adds value
    | some value, some index => do assignAt (← slotAt name index) adds value
    | none, _ => pure ()
    changeVariable name (declared o)
    return 0

/-- Writes the declarations of some variables. -/
def tellDeclarations (names : List Raw) : Procedure Nat :=
  forEach names fun name => do
    match (← get).bindings.lookup name, ← lookUp? name with
    | some v, _ | none, some v => do
      write (v.declaration name ++ ['\n'])
      return 0
    | none, none => do
      warn (name ++ ": not found")
      return 1

/-- Declares variables. In a function they are local to it, unless they are meant
    to be global. -/
def declare (arguments : List Raw) : Procedure Nat := do
  let o ← readOptions "aAfFgiIlnprtux" "" arguments
  if o.has 'f' || o.has 'F' then
    let functions := (← get).functions
    if o.operands.isEmpty then
      if o.has 'F' then
        let sorted := functions.mergeSort fun a b => Raw.isAtMost a.1 b.1
        (sorted.filter fun (_, f) => !o.has 'x' || f.isExported).forM fun (name, f) =>
          write (functionLine name f)
      else listFunctions
    if o.has 'x' && !o.operands.isEmpty then return ← exportFunctions o.operands true
    if o.has 'r' && !o.operands.isEmpty then return ← keepFunctions o.operands
    o.operands.forM fun name => do
      match functions.lookup name with
      | some f => do
        write ((if o.has 'F' then name else Command.definitionText name f.body) ++ ['\n'])
        if o.has 'p' && (f.isExported || f.isReadOnly) then write (functionLine name f)
      | none => return ()
    return if o.operands.all fun name => (functions.lookup name).isSome then 0 else 1
  if o.has 'p' && !o.operands.isEmpty then tellDeclarations o.operands
  else if o.operands.isEmpty then
    if o.given.isEmpty then listValues
    else
      let isMeant (v : Variable) : Bool :=
        (!o.has 'x' || v.isExported) && (!o.has 'r' || v.isReadOnly) && (!o.has 'i' || v.isNumber)
          && (!o.has 'n' || v.isReference) && (!o.has 'a' || v.value matches .list _)
          && (!o.has 'A' || v.value matches .table _)
      listVariables [] isMeant
  else
    let isLocal := !(← get).running.isEmpty && !o.has 'g'
    forEach o.operands (declareOne o isLocal)

/-- Makes variables local to a function. -/
def localize (arguments : List Raw) : Procedure Nat := do
  if ← isRich then
    if (← get).running.isEmpty then
      warn "can only be used in a function"
      return 1
    if arguments = [['-']] then
      keepOptions
      return 0
    declare arguments
  else plainLocal arguments

/-- Takes variables or functions away. -/
def unset (arguments : List Raw) : Procedure Nat := do
  let rich ← isRich
  let o ← readOptions (if rich then "fvn" else "fv") "" arguments
  forEach o.operands fun r => do
    if o.has 'f' then
      if ((← get).functions.lookup r).any (·.isReadOnly) then
        warn (r ++ ": cannot unset: readonly function")
        return 1
      modify fun s => { s with functions := s.functions.filter (·.1 ≠ r) }
      return 0
    else if let (true, some (name, index)) := (rich, Slot.split? r) then
      if index = ['@'] || index = ['*'] then
        match ← lookUp? name with
        | some { value := .list _, .. } => unsetVariable name
        | _ => unsetAt (← slotAt name index)
      else unsetAt (← slotAt name index)
      return 0
    else if o.has 'n' then
      modify fun s => { s with bindings := s.bindings.filter (·.1 ≠ r) }
      return 0
    else if !Reader.isName r then
      if rich then return 0 else refuse (r ++ ": bad variable name")
    else
      match ← lookUp? r with
      | none => do
        if rich && !o.has 'v' then
          modify fun s => { s with functions := s.functions.filter (·.1 ≠ r) }
        return 0
      | some v => do
        unsetVariable r
        return if v.isReadOnly then 1 else 0

/-! ## Options and arguments of the shell -/

/-- The letters of options. -/
def optionLetters (d : Dialect) : List Char :=
  (optionNames d).filterMap (·.2)

/-- Turns an option on or off by its letter. -/
def turnLetter (on : Bool) (c : Char) : Procedure Unit := do
  if !(optionLetters (← get).dialect).contains c then refuseOption c
  modify fun s =>
    let others := s.options.filter (· ≠ c)
    { s with options := if on then c :: others else others }

/-- Turns an option on or off by its name. -/
def turnName (on : Bool) (name : Raw) : Procedure Unit := do
  let text := String.ofList name
  match (optionNames (← get).dialect).lookup text with
  | some (some c) => turnLetter on c
  | some none => modify fun s => { s with settings := Setting.turned s.settings text on }
  | none =>
    if ← isRich then
      warn (name ++ ": invalid option name")
      throw (.fault 2)
    else refuse ("Illegal option -o " ++ name)

/-- Writes some options of those that are meant, as a table or as commands that set
    them. -/
def listOptions (asTable : Bool) (isMeant : String → (on : Bool) → Bool) : Procedure Unit := do
  let s ← get
  (optionNames s.dialect).forM fun (name, letter) => do
    let on := s.isOptionOn name letter
    if !isMeant name on then return ()
    let padded (n : Nat) : Raw := name.toList ++ List.replicate (n - name.length) ' '
    if !asTable then write ((if on then "set -o " else "set +o ").toList ++ name.toList ++ ['\n'])
    else
      let shown := match s.dialect with
        | .sh => padded 16
        | .bash => padded 15 ++ ['\t']
      write (shown ++ (if on then "on\n" else "off\n").toList)

/-- Reads the options in an argument of `set`. The answer has what is left of the
    arguments. -/
def setLetters (on : Bool) : Raw → List Raw → Procedure (List Raw)
  | [], rest => return rest
  | 'o' :: more, rest => do
    match rest with
    | [] => do
      if on && !(← isRich) then write "Current option settings\n"
      listOptions on fun _ _ => true
      setLetters on more []
    | name :: rest => do
      turnName on name
      setLetters on more rest
  | c :: more, rest => do
    turnLetter on c
    setLetters on more rest

/-- Reads options and then arguments for the shell, at most `n` of them. The answer
    has the arguments, where there are any. -/
def setUpTo : (n : Nat) → List Raw → Procedure (Option (List Raw))
  | 0, _ => return none
  | _ + 1, [] => return none
  | _ + 1, ['-', '-'] :: rest => return some rest
  | _ + 1, ['-'] :: rest => do
    modify fun s => { s with options := s.options.filter fun c => c ≠ 'x' && c ≠ 'v' }
    return if rest.isEmpty then none else some rest
  | n + 1, ('-' :: letters) :: rest => do
    setUpTo n (← setLetters true letters rest)
  | n + 1, ('+' :: letters) :: rest => do
    setUpTo n (← setLetters false letters rest)
  | _ + 1, rest => return some rest

/-- Gives the shell options and arguments. -/
def configure (arguments : List Raw) : Procedure Nat := do
  if arguments.isEmpty then listValues
  else
    match ← setUpTo (arguments.length + 1) arguments with
    | some arguments => modify fun s => { s with arguments }
    | none => pure ()
    return 0

/-- The whole number that an argument has to be, in the plain dialect. -/
def demandNumber (r : Raw) : Procedure Nat := do
  match Raw.toNat? r with
  | some n => if n < 2147483648 then return n else refuse ("Illegal number: " ++ r)
  | none => refuse ("Illegal number: " ++ r)

/-- The whole number that an argument is. -/
def wholeNumber? (r : Raw) : Option Int :=
  match r with
  | '-' :: digits => (Raw.toNat? digits).map fun n => -(n : Int)
  | '+' :: digits => (Raw.toNat? digits).map fun n => (n : Int)
  | digits => (Raw.toNat? digits).map fun n => (n : Int)

/-- Drops arguments of the shell. -/
def shift (arguments : List Raw) : Procedure Nat := do
  let rich ← isRich
  let size := (← get).arguments.length
  match arguments.head? with
  | none => drop rich size 1
  | some r =>
    if rich then
      match wholeNumber? r with
      | none => do
        warn (r ++ ": numeric argument required")
        return 1
      | some n =>
        if n < 0 then
          warn (r ++ ": shift count out of range")
          return 1
        else drop rich size n.toNat
    else drop rich size (← demandNumber r)
where
  /-- Drops so many arguments. -/
  drop (rich : Bool) (size n : Nat) : Procedure Nat := do
    if size < n then
      if rich then return 1 else refuse "can't shift that many"
    modify fun s => { s with arguments := s.arguments.drop n }
    return 0

/-- Computes expressions. It succeeds if the last one is true. -/
def «let» (arguments : List Raw) : Procedure Nat := do
  if arguments.isEmpty then
    warn "expression expected"
    return 1
  let last ← arguments.foldlM (fun _ r => computeText r) 0
  return if last = 0 then 1 else 0

end Procedure

end MapAudit.Script
