import MapAudit.Script.Field
import MapAudit.Script.Jobs
import MapAudit.Script.Program

/-! # Engines and processes

    Commands contain others: in the bodies of loops, in functions, in words. An
    engine runs those that are nested in a command, so that what a command does
    can be said without saying how deep commands nest.

    A process that a shell starts has the shell's variables and streams to begin
    with. What it changes in itself is nothing to the shell, which goes on beside
    it and may wait for its end.
-/

namespace MapAudit.Script

/-- **Stance** of a command: how it is run. -/
structure Stance where
  /-- Whether its outcome is tested, so that no failure ends the shell. -/
  isTested : Bool
  /-- Whether it is the last thing that the process does. -/
  isFinal : Bool
  deriving DecidableEq, Repr

namespace Stance

/-- A command that others follow. -/
def usual : Stance where
  isTested := false
  isFinal := false

/-- A command whose outcome is tested. -/
def tested : Stance where
  isTested := true
  isFinal := false

/-- A command that nothing follows. -/
def final : Stance where
  isTested := false
  isFinal := true

/-- The stance of a command that others follow in the same place. -/
def followed (s : Stance) : Stance :=
  { s with isFinal := false }

end Stance

/-- **Engine**: what runs commands that are nested in others. -/
structure Engine where
  /-- Runs commands. -/
  run : Stance → List Command → Procedure Nat
  /-- Expands a word. -/
  glyphs : Word → Procedure (List Glyph)
  /-- Runs a text as commands. Its lines are counted from a number on, and what is
      wrong in it is complained about under a label. -/
  text : Stance → (label : Raw) → (line : Nat) → Raw → Procedure Nat
  /-- Becomes a program, up to its end. -/
  launch : Image → Procedure Nat

namespace Engine

/-- The engine that does nothing, as everything nests too deeply for it. -/
def exhausted : Engine where
  run _ _ := Procedure.finish (.killed 11)
  glyphs _ := Procedure.finish (.killed 11)
  text _ _ _ _ := Procedure.finish (.killed 11)
  launch _ := Procedure.finish (.killed 11)

end Engine

/-- The status that a process exits with that stops. -/
def Stop.status : Stop → Nat
  | .exit n | .fault n | .discard n | .leave n => n
  | .leaveLoops _ _ => 0

namespace Procedure

/-! ## Ends of processes -/

/-- Does what the shell is to do when it exits with a status. -/
def atExit (e : Engine) (status : Nat) : Procedure Nat := do
  match (← get).traps.lookup 0 with
  | none | some [] => return status
  | some action => do
    modify fun s => { s with traps := s.traps.filter (·.1 ≠ 0), status, loops := 0, calls := 0 }
    let _ ← e.text .usual [] 1 action
    return status

/-- Does something that is the rest of the process. -/
def toTheEnd {α : Type} (e : Engine) (p : Procedure Nat) : Procedure α := do
  let status ← tryCatch p fun stop => return stop.status
  let status ← tryCatch (atExit e status) fun stop => return stop.status
  flush
  finish (.exited (status % 256))

/-! ## New processes -/

/-- Begins a life as a process that the shell has started. It makes no provisions
    for signals but goes on ignoring some. -/
def beginAs (number : Nat) : Procedure Unit := do
  let private' := (← get).companions.flatMap (·.streams)
  modify fun s =>
    { s with
      process := number
      companions := []
      nesting := s.nesting + 1
      loops := if s.dialect = Dialect.bash then 0 else s.loops
      jobs := if s.dialect = Dialect.bash then s.jobs else []
      formerTraps := if s.traps.isEmpty then s.formerTraps else s.traps
      traps := s.traps.filter fun (signal, action) => action.isEmpty || stays s signal }
  onSelf fun p => { p with caught := [] }
  private'.forM closeStream
where
  /-- Whether what is done on a signal is done in a part of a shell as well. -/
  stays (s : Shell) (signal : Signal) : Bool :=
    s.dialect = Dialect.bash
      && (signal = Signal.failure && s.options.contains 'E'
        || (signal = Signal.step || signal = Signal.departure) && s.options.contains 'T')

/-- **Start** of a process that first makes itself ready. The answer is its
    number. -/
def start (e : Engine) (ready : Procedure Unit) (p : Procedure Nat) : Procedure Nat := do
  flush
  if !(← isRich) then vacate
  let (isSecond, number) ← split
  if isSecond then
    beginAs number
    toTheEnd e do
      ready
      p
  else return number

/-- Does something as a process whose output becomes a text. -/
def capturing (e : Engine) (p : Procedure Nat) : Procedure (Raw × Ending) := do
  let (source, sink) ← makePipe
  hold source
  hold sink
  let child ← start e (do
    joinStream 1 sink
    letGo sink
    letGo source) p
  letGo sink
  let r := ((← drain source).toOption).getD []
  letGo source
  return (r, ← await child)

/-- Does something as a process of its own that is waited for. -/
def waiting (e : Engine) (p : Procedure Nat) : Procedure Nat := do
  let ending ← awaitForeground (← start e (return ()) p)
  return ending.status

/-! ## Occasions -/

/-- Does what is to be done on an occasion in the life of the shell, unless it is doing
    such a thing already. -/
def onOccasion (e : Engine) (signal : Signal) : Procedure Unit := do
  let s ← get
  match s.isTrapped, s.traps.lookup signal with
  | true, _ | _, none | _, some [] => return ()
  | false, some action => do
    modify fun s => { s with isTrapped := true }
    let restore : Procedure Unit := modify fun s => { s with isTrapped := false }
    let _ ← tryCatch (e.text .usual [] s.line action) fun stop => do
      restore
      throw stop
    restore
    modify fun now => { now with status := s.status, line := s.line }

/-- Takes note of a command that is about to be run in a line. -/
def announce (e : Engine) (line : Nat) (text : Raw) : Procedure Unit := do
  let s ← get
  if s.dialect = Dialect.bash && !s.isTrapped then
    modify fun s => { s with line, command := text }
    onOccasion e Signal.step

/-! ## Signals -/

/-- How long a command takes. -/
def commandCost : Nat := 10000

/-- Lets others do something, and notices the signals that the shell was sent. -/
def noticeSignals (e : Engine) : Procedure Unit := do
  breathe commandCost
  let s ← get
  let self := s.self
  if !self.hasNews then return ()
  let news := self.pending.filter self.caught.contains
  onSelf fun p => { p with pending := p.pending.filter (!news.contains ·) }
  news.forM fun signal => do
    match (← get).traps.lookup signal with
    | none | some [] => return ()
    | some action => do
      let status := (← get).status
      let _ ← e.text .usual [] 1 action
      modify fun s => { s with status }

end Procedure

end MapAudit.Script
