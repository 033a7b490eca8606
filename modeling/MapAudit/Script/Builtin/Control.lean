import MapAudit.Script.Builtin.Signals

/-! # Builtin commands on the course of a script

    These leave loops, functions and the shell itself. Some more tell or set what
    makes no difference to scripts.
-/

namespace MapAudit.Script

namespace Procedure

/-- A status that an argument says, or that of the last command. There is no
    answer for an argument that is no number, in the richer dialect. -/
def statusOf (arguments : List Raw) : Procedure (Option Nat) := do
  match arguments.head? with
  | none => return some (← get).status
  | some r =>
    if ← isRich then
      match wholeNumber? r with
      | some n => return some (n % 256).toNat
      | none => do
        warn (r ++ ": numeric argument required")
        return none
    else return some (← demandNumber r)

/-- Exits the shell. -/
def exit (arguments : List Raw) : Procedure Nat := do
  match ← statusOf arguments with
  | none => throw (.exit 2)
  | some n =>
    if (← isRich) && 1 < arguments.length then
      warn "too many arguments"
      throw (.exit 1)
    else throw (.exit n)

/-- Leaves a function or a script that was read in. -/
def «return» (arguments : List Raw) : Procedure Nat := do
  if (← isRich) && (← get).calls = 0 then
    warn "can only \x60return' from a function or sourced script"
    return 2
  match ← statusOf arguments with
  | none => throw (.leave 2)
  | some n => throw (.leave n)

/-- Leaves loops, or rounds of loops. -/
def leaveLoops (goesOn : Bool) (arguments : List Raw) : Procedure Nat := do
  let rich ← isRich
  let loops := (← get).loops
  let count ← match arguments.head? with
    | none => pure 1
    | some r =>
      if rich then
        match wholeNumber? r with
        | none => do
          warn (r ++ ": numeric argument required")
          throw (.exit 128)
        | some n =>
          if n ≤ 0 then
            warn (r ++ ": loop count out of range")
            if loops = 0 then return 1 else throw (.leaveLoops loops false)
          else pure n.toNat
      else
        let n ← demandNumber r
        if n = 0 then refuse ("Illegal number: " ++ r) else pure n
  if loops = 0 then
    if rich then warn "only meaningful in a \x60for', \x60while', or \x60until' loop"
    return 0
  throw (.leaveLoops (min count loops) goesOn)

/-- Writes how much time was used. -/
def times : Procedure Nat := do
  let none := match (← get).dialect with
    | .sh => "0m0.000000s 0m0.000000s\n"
    | .bash => "0m0.000s 0m0.000s\n"
  write (none ++ none).toList
  return 0

/-- Tells where the function that is running was called, or the one so many calls
    above. -/
def caller (arguments : List Raw) : Procedure Nat := do
  let s ← get
  match arguments.head? with
  | none =>
    let (line, source) := match s.running with
      | [] => (['0'], "NULL".toList)
      | here :: rest => (Raw.ofNat here.line, (rest.head?.map (·.source)).getD s.name)
    write (line ++ ' ' :: source ++ ['\n'])
    return 0
  | some r =>
    match Raw.toNat? r with
    | none => do
      warn (r ++ ": invalid number")
      tellUsage
      return 1
    | some n =>
      match s.running.drop n with
      | [] => return 1
      | here :: rest => do
        let above := rest.head?
        write (Raw.ofNat here.line ++ ' ' :: (above.map (·.name)).getD "main".toList ++
          ' ' :: (above.map (·.source)).getD s.name ++ ['\n'])
        return 0

/-! ## Permissions -/

/-- Permissions as letters for the owner, the group and the others. -/
def permissionText (mask : Nat) : Raw :=
  let bits (shift : Nat) : Raw :=
    let kept := 7 - (mask >>> shift) % 8
    (if kept / 4 % 2 = 1 then ['r'] else []) ++ (if kept / 2 % 2 = 1 then ['w'] else [])
      ++ (if kept % 2 = 1 then ['x'] else [])
  "u=" ++ bits 6 ++ ",g=" ++ bits 3 ++ ",o=" ++ bits 0

/-- What letters say about permissions, as three bits. -/
def permissionBits? (letters : Raw) : Option Nat :=
  letters.foldlM (fun n c => match c with
    | 'r' => some (n ||| 4)
    | 'w' => some (n ||| 2)
    | 'x' => some (n ||| 1)
    | _ => none) 0

/-- The permissions after a change that is written in letters. -/
def changedPermissions? (permissions : Nat) (r : Raw) : Option Nat :=
  (r.splitOn ',').foldlM (fun permissions clause => do
    let who := clause.takeWhile fun c => ['u', 'g', 'o', 'a'].contains c
    let whole := who.isEmpty || who.contains 'a'
    let spread (bits : Nat) : Nat :=
      (if whole || who.contains 'u' then bits <<< 6 else 0)
        ||| (if whole || who.contains 'g' then bits <<< 3 else 0)
        ||| (if whole || who.contains 'o' then bits else 0)
    match clause.drop who.length with
    | operator :: letters =>
      let bits ← permissionBits? letters
      match operator with
      | '+' => some (permissions ||| spread bits)
      | '-' => some (permissions ^^^ (permissions &&& spread bits))
      | '=' => some ((permissions ^^^ (permissions &&& spread 7)) ||| spread bits)
      | _ => none
    | [] => none) permissions

/-- Tells or sets the permissions that new files do not get. -/
def umask (arguments : List Raw) : Procedure Nat := do
  let rich ← isRich
  let o ← readOptions (if rich then "Sp" else "S") "" arguments
  let mask := (← get).self.mask
  match o.operands with
  | [] => do
    let digits := Nat.toDigits 8 mask
    let shown := if o.has 'S' then permissionText mask
      else List.replicate (4 - digits.length) '0' ++ digits
    write (shown ++ ['\n'])
    return 0
  | r :: _ =>
    if r.head?.any Char.isDigit then
      if r.all Raw.isOctal && Raw.octalValue r < 512 then
        onSelf fun p => { p with mask := Raw.octalValue r }
        return 0
      else if rich then
        warn (r ++ ": octal number out of range")
        return 1
      else refuse ("Illegal number: " ++ r)
    else match changedPermissions? (511 ^^^ mask) r with
      | some permissions => do
        onSelf fun p => { p with mask := 511 ^^^ permissions }
        return 0
      | none =>
        if rich then
          let operator := (r.dropWhile fun c => ['u', 'g', 'o', 'a'].contains c).take 1
          warn ("\x60" ++ operator ++ "': invalid symbolic mode operator")
          return 1
        else refuse ("Illegal mode: " ++ r)

/-- Tells or sets limits. There is one for the size of files only. -/
def ulimit (arguments : List Raw) : Procedure Nat := do
  let rich ← isRich
  let o ← readOptions (if rich then "SHabcdefiklmnpqrstuvxPRT" else "HSatfdscmlpnvwr") "" arguments
  let unit := if rich then 1024 else 512
  let isAboutSize := o.given.all fun (c, _) => c = 'f' || c = 'H' || c = 'S'
  match o.operands with
  | [] => do
    let shown := match isAboutSize, (← get).self.sizeLimit with
      | true, some limit => Raw.ofNat (limit / unit)
      | _, _ => "unlimited".toList
    write (shown ++ ['\n'])
    return 0
  | r :: _ => do
    if !isAboutSize then return 0
    if r = "unlimited" then
      onSelf fun p => { p with sizeLimit := none }
      return 0
    match Raw.toNat? r with
    | some n => do
      onSelf fun p => { p with sizeLimit := some (n * unit) }
      return 0
    | none => do
      if rich then
        warn (r ++ ": invalid number")
        return 1
      else refuse "bad number"

/-! ## Names for texts -/

/-- Gives words texts that they stand for, or tells them. -/
def aliases (arguments : List Raw) : Procedure Nat := do
  let rich ← isRich
  let s ← get
  let shown (name r : Raw) : Raw :=
    (if rich then "alias ".toList else []) ++ name ++ '=' ::
      (if rich then Quote.single r else Quote.alternating r) ++ ['\n']
  if arguments.isEmpty then
    let sorted := s.aliases.mergeSort fun a b => Raw.isAtMost a.1 b.1
    write (sorted.flatMap fun (name, r) => shown name r)
    return 0
  forEach arguments fun r => do
    let name := r.takeWhile (· != '=')
    if name = r then
      match (← get).aliases.lookup name with
      | some text => do
        write (shown name text)
        return 0
      | none => do
        if rich then warn (name ++ ": not found")
        else complain ("alias: " ++ name ++ " not found\n")
        return 1
    else
      modify fun s =>
        { s with aliases := (name, r.drop (name.length + 1)) :: s.aliases.filter (·.1 ≠ name) }
      return 0

/-- Takes the texts of words away. -/
def unaliases (arguments : List Raw) : Procedure Nat := do
  let rich ← isRich
  let o ← readOptions "a" "" arguments
  if o.has 'a' then
    modify fun s => { s with aliases := [] }
    return 0
  if rich && o.operands.isEmpty then
    tellUsage
    return 2
  forEach o.operands fun name => do
    if ((← get).aliases.lookup name).isSome then
      modify fun s => { s with aliases := s.aliases.filter (·.1 ≠ name) }
      return 0
    else
      if rich then warn (name ++ ": not found")
      else complain ("unalias: " ++ name ++ " not found\n")
      return 1

/-- A line about a setting: what it is, or how it is made so. -/
def settingLine (asCommand : Bool) (name : Raw) (on : Bool) : Raw :=
  if asCommand then (if on then "shopt -s " else "shopt -u ").toList ++ name ++ ['\n']
  else name ++ List.replicate (15 - name.length) ' ' ++ '\t' ::
    (if on then "on\n" else "off\n").toList

/-- Turns options on or off, or asks for them, by their names. -/
def optionsByName (o : Options) : Procedure Nat := do
  let names := optionNames .bash
  if o.operands.isEmpty then
    let isSelected (on : Bool) : Bool := if on then !o.has 'u' else !o.has 's'
    listOptions (!o.has 'p') fun _ on => isSelected on
    return 0
  forEach o.operands fun r => do
    let name := String.ofList r
    match names.lookup name with
    | none => do
      warn (r ++ ": invalid option name")
      return 1
    | some letter =>
      if o.has 's' || o.has 'u' then
        turnName (o.has 's') r
        return 0
      let on := (← get).isOptionOn name letter
      if !o.has 'q' then listOptions (!o.has 'p') fun other _ => other = name
      return if on then 0 else 1

/-- Turns settings on or off, or asks for them. -/
def shopt (arguments : List Raw) : Procedure Nat := do
  let o ← readOptions "pqsuo" "" arguments
  if o.has 's' && o.has 'u' then
    warn "cannot set and unset shell options simultaneously"
    return 1
  if o.has 'o' then return ← optionsByName o
  if o.operands.isEmpty then
    let s ← get
    Setting.all.forM fun (name, _) => do
      let on := s.isOn name
      if if on then !o.has 'u' else !o.has 's' then
        if !o.has 'q' then write (settingLine (o.has 'p') name.toList on)
    return 0
  forEach o.operands fun r => do
    let name := String.ofList r
    if (Setting.all.lookup name).isNone then
      warn (r ++ ": invalid shell option name")
      return 1
    if o.has 's' || o.has 'u' then
      modify fun s => { s with settings := Setting.turned s.settings name (o.has 's') }
      return 0
    let on := (← get).isOn name
    if !o.has 'q' then write (settingLine (o.has 'p') r on)
    return if on then 0 else 1

end Procedure

end MapAudit.Script
