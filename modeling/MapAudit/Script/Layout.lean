import MapAudit.Script.Command

/-! # Layout of commands

    A command can be shown as a text again, laid out in a way of its own. What is
    nested in a command stands further to the right, unless it goes on in the line;
    in a function every command of a list has a line for itself. The lines that a
    redirection takes its text from come where the line ends, or before what joins the
    command with the next one.
-/

namespace MapAudit.Script

/-- **Layout**: a text of commands as far as it was laid out. -/
structure Layout where
  /-- The parts of the text, the last one first. -/
  parts : List Raw
  /-- How far to the right a line begins. -/
  margin : Nat
  /-- How much further to the right nested lines begin. -/
  step : Nat
  /-- How many commands that begin next go on in the line. -/
  inLine : Nat
  /-- How many functions the command stands in. -/
  functions : Nat
  /-- How many joined commands it is a part of. -/
  joins : Nat
  /-- The lines that are to come where the line ends. -/
  below : List Raw
  /-- Whether such lines came last. -/
  isAfterLines : Bool

namespace Layout

/-- An empty text. -/
def blank : Layout where
  parts := []
  margin := 0
  step := 4
  inLine := 0
  functions := 0
  joins := 0
  below := []
  isAfterLines := false

/-- The text. -/
def text (l : Layout) : Raw :=
  l.parts.reverse.flatten

end Layout

/-- **Laying out** commands. -/
abbrev Laying := StateM Layout

namespace Laying

/-- Adds a text. -/
def put (r : Raw) : Laying Unit :=
  if r.isEmpty then return ()
  else modify fun l => { l with parts := r :: l.parts }

/-- Goes to where a line begins. -/
def indent : Laying Unit := do
  put (List.replicate (← get).margin ' ')

/-- Begins a line with a text. -/
def line (r : Raw) : Laying Unit := do
  put ['\n']
  indent
  put r

/-- Moves the lines that follow to the right. -/
def widen : Laying Unit :=
  modify fun l => { l with margin := l.margin + l.step }

/-- Moves the lines that follow back to the left. -/
def narrow : Laying Unit :=
  modify fun l => { l with margin := l.margin - l.step }

/-- Lets the next command go on in the line. -/
def goOn : Laying Unit :=
  modify fun l => { l with inLine := l.inLine + 1 }

/-- Begins a command. -/
def start : Laying Unit := do
  let l ← get
  if l.inLine = 0 then indent else set { l with inLine := l.inLine - 1 }

/-- Ends a command with a semicolon, unless it is ended already. -/
def semicolon : Laying Unit := do
  match (← get).parts.head?.bind List.getLast? with
  | some '&' | some '\n' => return ()
  | _ => put [';']

/-- Adds lines that a redirection takes its text from. -/
def putLines (lines : List Raw) : Laying Unit := do
  put ['\n']
  lines.forM fun r => put (r ++ ['\n'])
  modify fun l => { l with isAfterLines := true }

/-- Adds the lines that are to come where the line ends, after a mark. -/
def putBelow (mark : Raw) : Laying Unit := do
  let isShown := !mark.isEmpty && mark ≠ [';']
  if isShown then put mark
  let lines := (← get).below
  if !lines.isEmpty then
    modify fun l => { l with below := [] }
    putLines lines
    if isShown then put [' ']

/-- Adds the lines that are to come where the line ends, if there are any. -/
def endLine : Laying Unit := do
  if !(← get).below.isEmpty then putBelow []

end Laying

/-! ## Redirections -/

/-- The number of a stream where it is not the usual one. -/
def streamText (usual stream : Nat) : Raw :=
  if stream = usual then [] else Raw.ofNat stream

/-- How a redirection is written, after what it says of a stream. -/
def Redirection.written (nameOf : (usual stream : Nat) → Raw) : Redirection → Raw
  | .toFile stream .read _ r => nameOf 0 stream ++ "< " ++ r
  | .toFile stream .write _ r => nameOf 1 stream ++ "> " ++ r
  | .toFile stream .replace _ r => nameOf 1 stream ++ ">| " ++ r
  | .toFile stream .append _ r => nameOf 1 stream ++ ">> " ++ r
  | .toFile stream .both _ r => nameOf 1 stream ++ "<> " ++ r
  | .bothToFile .append _ r => "&>> " ++ r
  | .bothToFile _ _ r => "&> " ++ r
  | .copy stream forReading w r =>
    let isStream := match Word.bareText? w with
      | some r => !r.isEmpty && r.all fun c => c.isDigit || c = '-'
      | none => true
    let stream := if isStream then Raw.ofNat stream else streamText 1 stream
    stream ++ (if forReading && r ≠ ['-'] then "<&" else ">&").toList ++ r
  | .fromText stream _ r _ => nameOf 0 stream ++ r
  | .held name r => r.written fun _ _ => '\x7b' :: name ++ ['\x7d']

/-- The lines that a redirection takes its text from. -/
def Redirection.below? : Redirection → Option Raw
  | .fromText _ _ _ below => below
  | .held _ r => r.below?
  | _ => none

namespace Laying

/-- Adds redirections. -/
def redirections (several : List Redirection) : Laying Unit := do
  if several.isEmpty then return ()
  put [' ']
  put ([' '].intercalate (several.map fun r => r.written streamText))
  modify fun l => { l with isAfterLines := false }
  let lines := several.filterMap Redirection.below?
  if !lines.isEmpty then
    if (← get).joins = 0 then putLines lines
    else modify fun l => { l with below := l.below ++ lines }

/-! ## Commands -/

/-- Joins what was laid out with something more. -/
def join (first second : Laying Unit) (mark : Laying Unit) : Laying Unit := do
  modify fun l => { l with joins := l.joins + 1 }
  first
  mark
  second
  endLine
  modify fun l => { l with joins := l.joins - 1 }

/-- Separates two commands of a list. -/
def separate : Laying Unit := do
  let l ← get
  if l.below.isEmpty then
    if l.isAfterLines then set { l with isAfterLines := false } else put [';']
  else putBelow (if l.functions > 0 then [] else [';'])
  if l.functions > 0 then put ['\n']
  else
    put [' ']
    goOn

/-- The command that something is defined as, without the redirections of the whole. -/
def definitionParts : Command → List Command × List Redirection
  | .redirected _ [.redirected _ body []] several => (body, several)
  | .redirected _ body [] => (body, [])
  | .redirected _ body several => (body, several)
  | c => ([c], [])

mutual

/-- Lays a command out, at most `n` levels of it. -/
def command : (n : Nat) → Command → Laying Unit
  | 0, _ => return ()
  | n + 1, c =>
    match c with
    | .simple _ written _ _ several => do
      start
      put written
      if written.isEmpty then
        put ((([' '].intercalate (several.map fun r => r.written streamText))))
      else redirections several
    | .redirected _ body [] => do
      start
      put "\x7b ".toList
      let isApart := (← get).functions > 0
      if isApart then
        put ['\n']
        widen
      else goOn
      list n body.reverse
      endLine
      if isApart then
        put ['\n']
        narrow
        indent
      else
        semicolon
        put [' ']
      put ['\x7d']
    | .redirected _ body several => do
      list n body.reverse
      redirections several
    | .subshell _ body several => do
      start
      put "( ".toList
      goOn
      list n body.reverse
      endLine
      put " )".toList
      redirections several
    | .background c => join (command n c) (return ()) (putBelow " &".toList)
    | .coprocess _ name c => do
      start
      put ("coproc " ++ name ++ [' '])
      goOn
      command n c
    | .choice condition body otherwise => do
      start
      put "if ".toList
      goOn
      list n condition.reverse
      semicolon
      put " then\n".toList
      widen
      list n body.reverse
      endLine
      narrow
      if !otherwise.isEmpty then
        semicolon
        line "else\n".toList
        widen
        list n otherwise.reverse
        endLine
        narrow
      semicolon
      line "fi".toList
    | .each _ name _ written body => do
      start
      put ("for " ++ name ++ " in " ++ written ++ [';'])
      repeated n body
    | .offer _ name _ written body => do
      start
      put ("select " ++ name ++ " in " ++ written ++ [';'])
      repeated n body
    | .count _ _ _ _ written body => do
      start
      put ("for ((".toList ++ "; ".toList.intercalate written ++ "))".toList)
      repeated n body
    | .loop outcome condition body => do
      start
      put (if outcome then "while " else "until ").toList
      goOn
      list n condition.reverse
      endLine
      semicolon
      put " do\n".toList
      within n body
    | .select _ _ written arms => do
      start
      put ("case " ++ written ++ " in ")
      widen
      armsOf n arms
      narrow
      line "esac".toList
    | .pipeline stages => pipe n stages.reverse
    | .define _ name body => do
      start
      put ("function " ++ name ++ " () \n")
      definition n body
    | .negation (.timed inShort body) => do
      start
      put (if inShort then "time -p ! " else "time ! ").toList
      goOn
      list n body.reverse
    | .negation c => do
      start
      put "! ".toList
      goOn
      command n c
    | .timed inShort body => do
      start
      put (if inShort then "time -p " else "time ").toList
      if !body.isEmpty then
        goOn
        list n body.reverse
    | .both first second =>
      join (command n first) (command n second) do
        putBelow " && ".toList
        goOn
    | .either first second =>
      join (command n first) (command n second) do
        putBelow " || ".toList
        goOn
    | .ask _ written _ | .compute _ _ written => do
      start
      put written

/-- Lays a list of commands out, of which the last one comes first. -/
def list : (n : Nat) → List Command → Laying Unit
  | 0, _ | _, [] => return ()
  | n + 1, [c] => command n c
  | n + 1, c :: .background b :: before => do
    let first := list n (b :: before)
    join first (command n c) do
      putBelow " &".toList
      put [' ']
      goOn
  | n + 1, c :: before => join (list n before) (command n c) separate

/-- Lays the stages of a pipeline out, of which the last one comes first. -/
def pipe : (n : Nat) → List Command → Laying Unit
  | 0, _ | _, [] => return ()
  | n + 1, [c] => command n c
  | n + 1, c :: before =>
    join (pipe n before) (command n c) do
      putBelow " |".toList
      put [' ']
      goOn

/-- Lays out what is repeated. -/
def repeated : (n : Nat) → List Command → Laying Unit
  | 0, _ => return ()
  | n + 1, body => do
    line "do\n".toList
    within n body

/-- Lays out what stands before the end of a loop. -/
def within : (n : Nat) → List Command → Laying Unit
  | 0, _ => return ()
  | n + 1, body => do
    widen
    list n body.reverse
    endLine
    narrow
    semicolon
    line "done".toList

/-- Lays out the parts of a `case`. -/
def armsOf : (n : Nat) → List Arm → Laying Unit
  | 0, _ | _, [] => return ()
  | n + 1, (_, written, body, stop) :: rest => do
    line (written ++ ")\n".toList)
    widen
    list n body.reverse
    endLine
    narrow
    let mark : String := match stop with
      | .leave => ";;"
      | .runOn => ";&"
      | .lookOn => ";;&"
    line mark.toList
    armsOf n rest

/-- Lays out what something is defined as. -/
def definition : (n : Nat) → Command → Laying Unit
  | 0, _ => return ()
  | n + 1, body => do
    let (inner, several) := definitionParts body
    indent
    put "\x7b \n".toList
    widen
    modify fun l => { l with functions := l.functions + 1 }
    list n inner.reverse
    endLine
    modify fun l => { l with functions := l.functions - 1 }
    narrow
    line ['\x7d']
    redirections several

end

/-- How deep commands may nest that are laid out. -/
def maxDepth : Nat := 10000

end Laying

namespace Command

/-- **The text of a command**. -/
def text (c : Command) : Raw :=
  ((Laying.command Laying.maxDepth c).run .blank).2.text

/-- The text of the definition of a name. -/
def definitionText (name : Raw) (body : Command) : Raw :=
  let lay : Laying Unit := do
    Laying.put (name ++ " () \n")
    Laying.definition Laying.maxDepth body
  (lay.run .blank).2.text

/-- The text that programs are given of the definition of a name. -/
def exportedText (body : Command) : Raw :=
  let (inner, several) := Laying.definitionParts body
  let lay : Laying Unit := do
    Laying.put "() \x7b ".toList
    Laying.list Laying.maxDepth inner.reverse
    Laying.endLine
    Laying.put "\n\x7d".toList
    Laying.redirections several
  (lay.run { Layout.blank with margin := 1, step := 0, functions := 1 }).2.text

end Command

end MapAudit.Script
