import MapAudit.Script.Brace
import MapAudit.Script.Builtin.Table
import MapAudit.Script.Reader.Commands

/-! # Preparing a command

    Before a command is run, its words become fields, the words of its
    redirections become names of files, and its assignments are made. What is
    prepared is shown if the shell is to trace commands.
-/

namespace MapAudit.Script

namespace Procedure

/-! ## Arguments -/

/-- Whether some fields begin a command that declares variables. The values that
    are assigned in its arguments do not fall apart. -/
def isDeclaring (d : Dialect) (fields : List Raw) : Bool :=
  match fields.dropWhile (· = "command".toList) with
  | name :: _ =>
    let names := ["export", "readonly", "local"] ++ match d with
      | .sh => []
      | .bash => ["declare", "typeset"]
    names.contains (String.ofList name)
  | [] => false

/-- The fields of a word, in which braces are expanded first unless that is turned off. -/
def expandBraced (e : Engine) (w : Word) : Procedure (List Raw) := do
  if ← hasOption 'B' then return (← (Word.braceExpanded w).mapM (expandWord e)).flatten
  expandWord e w

/-- The fields of the words of a command, after those that are `done`. -/
def expandArguments (e : Engine) : (done : List Raw) → List Word → Procedure (List Raw)
  | done, [] => return done
  | done, w :: rest => do
    let d := (← get).dialect
    let declared := if isDeclaring d done then Reader.assignment? d w else none
    let here ← match declared with
      | some (.one name [] adds value) => do
        let r ← expandValue e value
        pure [name ++ (if adds then ['+', '='] else ['=']) ++ r]
      | _ =>
        if d = .bash then expandBraced e w
        else expandWord e w
    expandArguments e (done ++ here) rest

/-! ## Redirections -/

/-- The one field that the target of a redirection stands for. -/
def expandTarget (e : Engine) (w : Word) (written : Raw) : Procedure (Option Raw) := do
  match (← get).dialect with
  | .sh => return some (← expandText e w)
  | .bash =>
    match ← expandBraced e w with
    | [r] => return some r
    | _ => do
      warn (written ++ ": ambiguous redirect")
      return none

/-- The number of a stream that a text is. -/
def streamNumber? (d : Dialect) (r : Raw) : Option Nat :=
  if r.length ≤ (if d = .sh then 1 else 6) then Raw.toNat? r else none

/-- What it comes to that a stream leads where another one does, which is written in some
    way and turned out to be a text. There is no answer where that is refused. -/
def copying (stream : Nat) (forReading : Bool) (written r : Raw) :
    Procedure (Option (List StreamChange)) := do
  if r = ['-'] then return some [.close stream]
  let d := (← get).dialect
  match streamNumber? d r, d with
  | some n, .sh => return some [.copy stream n r]
  | some n, .bash =>
    let name := if written.all Char.isDigit then r
      else if stream = (if forReading then 0 else 1) then written
      else Raw.ofNat stream
    return some [.copy stream n name]
  | none, .sh => do
    modify fun s => { s with line := s.readLine }
    refuse "Syntax error: Bad fd number"
  | none, .bash =>
    match r.getLast?, streamNumber? d r.dropLast with
    | some '-', some n => return some [.copy stream n (Raw.ofNat n), .close n]
    | none, _ => do
      warn (written ++ ": Bad file descriptor")
      return none
    | _, _ =>
      if stream = 1 && !forReading then
        return some [.toFile 1 .write r, .copy 2 1 ['1']]
      else do
        warn (written ++ ": ambiguous redirect")
        return none

/-- What a redirection comes to. There is no answer for one that is refused. -/
def expandPlainRedirection (e : Engine) (r : Redirection) :
    Procedure (Option (List StreamChange)) := do
  match r with
  | .toFile stream mode target written =>
    return (← expandTarget e target written).map fun file => [.toFile stream mode file]
  | .bothToFile mode target written =>
    return (← expandTarget e target written).map fun file =>
      [.toFile 1 mode file, .copy 2 1 ['1']]
  | .fromText stream content _ _ =>
    let glyphs ← e.glyphs content
    return some [.fromText stream (Glyph.text glyphs)]
  | .copy stream forReading target written => do
    match ← expandTarget e target written with
    | some r => copying stream forReading written r
    | none => return none
  | .held _ _ => return none

/-- What a redirection comes to, perhaps one of a stream whose number a variable holds.
    There is no answer for one that is refused. -/
def expandRedirection (e : Engine) (r : Redirection) : Procedure (Option (List StreamChange)) := do
  match r with
  | .held name inner => do
    match ← expandPlainRedirection e inner with
    | some [.close _] =>
      match (← textAt? (← slotOf name)).bind Raw.toNat? with
      | some n => return some [.close n]
      | none => do
        warn (name ++ ": ambiguous redirect")
        return none
    | some (change :: others) => return some (.held name change :: others)
    | found => return found
  | r => expandPlainRedirection e r

/-- What redirections come to. There is no answer if one is refused. -/
def expandRedirections (e : Engine) : List Redirection → Procedure (Option (List StreamChange))
  | [] => return some []
  | r :: rest => do
    match ← expandRedirection e r with
    | none => return none
    | some here => return (← expandRedirections e rest).map (here ++ ·)

/-- Redirects streams. The answer says whether that was possible. -/
def prepareStreams (e : Engine) (redirections : List Redirection) : Procedure Bool := do
  match ← expandRedirections e redirections with
  | none => return false
  | some changes => redirectAll changes

/-- The status of a command whose streams could not be redirected. -/
def redirectionStatus : Procedure Nat := do
  return if ← isRich then 1 else 2

/-! ## Assignments -/

/-- The elements of an array as they are written in a command, numbered from a
    number on. -/
def numberedElements (e : Engine) : (next : Nat) → List (Word × Word) →
    Procedure (List (Nat × Raw))
  | _, [] => return []
  | next, ([], w) :: rest => do
    let fields := ← expandBraced e w
    let here := fields.zipIdx.map fun (r, i) => (next + i, r)
    return here ++ (← numberedElements e (next + fields.length) rest)
  | _, (index, w) :: rest => do
    let i := (← numberOf e index).toNat
    let r ← expandValue e w
    return (i, r) :: (← numberedElements e (i + 1) rest)

/-- The elements of a table as they are written in a command: with names, or names and
    texts in turn. -/
def namedElements (e : Engine) : List (Word × Word) → Procedure (List (Raw × Raw))
  | [] => return []
  | ([], w) :: ([], v) :: rest => do
    let key ← expandText e w
    let r ← expandValue e v
    return (key, r) :: (← namedElements e rest)
  | (index, w) :: rest => do
    let key ← expandText e (if index.isEmpty then w else index)
    let r ← if index.isEmpty then pure [] else expandValue e w
    return (key, r) :: (← namedElements e rest)

/-- Makes an assignment, of which something is told before. The answer is that. -/
def makeAssignment (e : Engine) (tell : Raw → Procedure Unit) (a : Assignment) :
    Procedure Raw := do
  match a with
  | .one name [] adds w => do
    let r ← expandValue e w
    let value := if ← isRich then (if r.isEmpty then [] else Quote.traced r) else r
    let shown := name ++ (if adds then ['+', '='] else ['=']) ++ value
    tell shown
    assignAt { name, key := none } adds r
    return shown
  | .one name index adds w => do
    let r ← expandValue e w
    let slot ← slotAt name (← expandText e index)
    let shown := slot.text ++ (if adds then ['+', '='] else ['=']) ++ Quote.traced r
    tell shown
    assignAt slot adds r
    return shown
  | .several name adds elements written => do
    let shown := name ++ (if adds then "+=(" else "=(").toList ++ written ++ [')']
    tell shown
    match ← lookUp? name with
    | some { value := .table old, .. } => do
      let new ← namedElements e elements
      let start := if adds then old else []
      setValue name (.table (new.foldl (fun all (key, r) => Value.putNamed key r all) start))
    | v => do
      let old : List (Nat × Raw) := if adds then
          match v with
          | some { value := .list old, .. } => old
          | some { value := .text r, .. } => [(0, r)]
          | _ => []
        else []
      let next := old.foldl (fun n (i, _) => max n (i + 1)) 0
      let new ← numberedElements e next elements
      setValue name (.list (new.foldl (fun all (i, r) => Value.putNumbered i r all) old))
    return shown

/-- The name that an assignment gives a value to. -/
def assignedName : Assignment → Raw
  | .one name _ _ _ => name
  | .several name _ _ _ => name

/-! ## Tracing -/

/-- What traced commands begin with. In the richer dialect the first character
    stands there once for every level of nesting. -/
def traceStart (e : Engine) : Procedure Raw := do
  let s ← get
  let start ← match ← valueOf? "PS4" with
    | some r => pure r
    | none => pure (if s.dialect = .bash then [] else ['+', ' '])
  let repeated := match s.dialect, start with
    | .bash, c :: rest => List.replicate (s.depth + 1) c ++ rest
    | _, start => start
  if !repeated.any fun c => c = '$' || c = '\x60' then return repeated
  modify fun s => { s with options := s.options.filter (· ≠ 'x') }
  let shown := Glyph.text (← e.glyphs (quotedWord s.dialect repeated))
  modify fun now =>
    { now with options := s.options, status := s.status, wordStatus := s.wordStatus }
  return shown

/-- Shows a line about a command on a channel if the shell is to trace commands. -/
def traceTo (e : Engine) (channel : Option Nat) (r : Raw) : Procedure Unit := do
  if ← hasOption 'x' then
    match channel with
    | some i => do
      let start ← traceStart e
      let _ ← pour i (start ++ r ++ ['\n'])
    | none => return ()

/-- Shows a line about a command if the shell is to trace commands. -/
def trace (e : Engine) (r : Raw) : Procedure Unit := do
  traceTo e (← channelOf? 2) r

/-- The line about a command with assignments before it. -/
def traceLine (d : Dialect) (assignments words : List Raw) : Raw :=
  match d with
  | .sh => [' '].intercalate (assignments ++ words)
  | .bash => [' '].intercalate (words.map Quote.traced)

end Procedure

end MapAudit.Script
