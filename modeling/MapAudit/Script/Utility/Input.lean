import MapAudit.Script.Streams
import MapAudit.Script.Utility.Arguments

/-! # Input of utilities

    A utility reads files that its operands name, or the input, for which a dash
    stands. What it reads comes in portions: a portion of a pipe is what is in it,
    so that a utility can be done before the writer is.

    A source gives the lines of a channel one by one. What was read ahead and not
    used can be given back if the channel leads to a file.
-/

namespace MapAudit.Script

namespace Utility

open Procedure

/-! ## Operands -/

/-- Opens what an operand names. The answer is the number of the channel. -/
def openOperand (file : Raw) : Procedure (Except FileFault Nat) := do
  let opened ← if file = ['-'] then do
      match ← channelOf? 0 with
      | some i => pure (.ok i)
      | none => do
        modify fun s => { s with lacksInput := true }
        pure (.error .noStream)
    else openFile .read file
  match opened with
  | .error fault => return .error fault
  | .ok i =>
    if (← get).machine.channel i matches .directory _ then return .error .isDirectory
    hold i
    return .ok i

/-- Does something with the channel to what an operand names. -/
def withOperand {α : Type} (file : Raw) (p : Nat → Procedure α) :
    Procedure (Except FileFault α) := do
  match ← openOperand file with
  | .error fault => return .error fault
  | .ok i => do
    let a ← p i
    letGo i
    return .ok a

/-- Reads what an operand names to its end. -/
def readOperand (file : Raw) : Procedure (Except FileFault Raw) := do
  match ← withOperand file drain with
  | .error fault => return .error fault
  | .ok answer => return answer

/-- The operands, or the input if there are none. -/
def filesOf (operands : List Raw) : List Raw :=
  if operands.isEmpty then [['-']] else operands

/-- A file that was read. -/
structure Reading where
  /-- The name that it was called by. -/
  name : Raw
  /-- What is in it. -/
  content : Raw

/-- Does something with every file that can be read. The answer says whether all
    could be read. -/
def withFiles (operands : List Raw) (onFault : Raw → FileFault → Procedure Unit)
    (f : Reading → Procedure Unit) : Procedure Bool :=
  (filesOf operands).foldlM (fun all file => do
    match ← readOperand file with
    | .ok content => do
      f { name := file, content }
      return all
    | .error fault => do
      onFault file fault
      return false) true

/-! ## Places of channels -/

/-- The place of the file that a channel leads to. -/
def placeOf? (m : Machine) (i : Nat) : Option FilePlace :=
  match m.channel i with
  | .file place _ _ => some place
  | _ => none

/-- Whether two places are those of one file. -/
def areSame (m : Machine) : FilePlace → FilePlace → Bool
  | .named a, .named b =>
    a == b || match m.tree.get? a, m.tree.get? b with
      | some (.file f), some (.file g) => f.kinship.isSome && f.kinship = g.kinship
      | _, _ => false
  | .lost n, .lost k => n == k
  | _, _ => false

/-- Gives back what was read last from a channel, if it leads to a file. -/
def giveBack (i : Nat) (size : Nat) : Procedure Unit :=
  onMachine fun m => match m.channel i with
    | .file place offset access => m.setChannel i (.file place (offset - size) access)
    | _ => m

/-! ## Portions -/

/-- Does something with every portion of a channel, as long as it `goesOn` and the
    output can be written. -/
def eachPortion {σ : Type} (i size : Nat) (start : σ) (step : σ → Raw → Procedure (σ × Bool)) :
    Procedure σ :=
  stepwise start fun state => do
    match ← pull i size with
    | .error _ | .ok [] => return .done state
    | .ok r => do
      let (next, goesOn) ← step state r
      return if goesOn && (← get).outputFault.isNone then .more next else .done next

/-! ## Lines -/

/-- The parts of a text that a character ends, each with it, and what comes after the
    last of them. -/
def endedParts (finish : Char) (r : Raw) : List Raw × Raw :=
  let (parts, part) := r.foldl (fun (parts, part) c =>
    if c = finish then ((c :: part).reverse :: parts, []) else (parts, c :: part))
    (([], []) : List Raw × Raw)
  (parts.reverse, part.reverse)

/-- The lines of a text, each with its end if it has one. -/
def linesWithEnds (r : Raw) : List Raw :=
  let (ended, last) := endedParts '\n' r
  if last.isEmpty then ended else ended ++ [last]

/-- The parts of a text that a character ends, without it. The last one need not be
    ended. -/
def partsOf (finish : Char) (r : Raw) : List Raw :=
  let (ended, last) := endedParts finish r
  ended.map List.dropLast ++ if last.isEmpty then [] else [last]

/-- A line without its end, and whether it has one. -/
def withoutEnd (finish : Char) (l : Raw) : Raw × Bool :=
  if l.getLast? = some finish then (l.dropLast, true) else (l, false)

/-- **Source** of lines. -/
structure Source where
  /-- The number of the channel. -/
  channel : Nat
  /-- What ends a line. -/
  finish : Char
  /-- How much is read at a time. -/
  portion : Nat
  /-- The lines that were read ahead, with their ends. -/
  ahead : List Raw
  /-- The parts of the line after them, the last one first. -/
  rest : List Raw
  /-- Whether there is nothing left to be read. -/
  isOver : Bool

namespace Source

/-- How much most utilities read at a time. -/
def usualPortion : Nat := 4096

/-- The source of the lines of a channel. -/
def ofChannel (channel : Nat) (finish : Char) : Source where
  channel
  finish
  portion := usualPortion
  ahead := []
  rest := []
  isOver := false

/-- The source after one more portion was read. -/
def afterPortion (s : Source) (r : Raw) : Source :=
  match endedParts s.finish r with
  | ([], part) => { s with rest := part :: s.rest }
  | (first :: others, part) =>
    { s with
      ahead := (s.rest.reverse.flatten ++ first) :: others
      rest := if part.isEmpty then [] else [part] }

/-- Reads on until there is a line, or nothing is left. -/
def fill (s : Source) : Procedure Source :=
  stepwise s fun s => do
    if s.isOver || !s.ahead.isEmpty then return .done s
    match ← pull s.channel s.portion with
    | .error _ | .ok [] =>
      let last := s.rest.reverse.flatten
      return .done { s with
        ahead := if last.isEmpty then [] else [last], rest := [], isOver := true }
    | .ok r => return .more (s.afterPortion r)

/-- The next line with its end, if it has one. -/
def next? (s : Source) : Procedure (Option Raw × Source) := do
  let s ← s.fill
  match s.ahead with
  | l :: ahead => return (some l, { s with ahead })
  | [] => return (none, s)

/-- Gives back what was read ahead. -/
def close (s : Source) : Procedure Unit :=
  giveBack s.channel ((s.ahead ++ s.rest).foldl (fun n r => n + r.length) 0)

end Source

/-- Does something with every line of a channel, as long as it `goesOn` and the
    output can be written. Each line comes with its end, if it has one. -/
def eachLine {σ : Type} (i : Nat) (finish : Char) (start : σ)
    (step : σ → Raw → Procedure (σ × Bool)) : Procedure σ := do
  let (state, source) ← stepwise (start, Source.ofChannel i finish) fun (state, source) => do
    match ← source.next? with
    | (none, source) => return .done (state, source)
    | (some l, source) => do
      let (next, goesOn) ← step state l
      return if goesOn && (← get).outputFault.isNone then .more (next, source)
        else .done (next, source)
  source.close
  return state

/-- Goes through the lines of files. The answer says whether all could be read. -/
def throughLines {σ : Type} (operands : List Raw) (finish : Char)
    (onFault : Raw → FileFault → Procedure Unit) (start : σ) (step : σ → Raw → Procedure σ) :
    Procedure (σ × Bool) :=
  (filesOf operands).foldlM (fun (state, all) file => do
    match ← withOperand file fun i => eachLine i finish state fun state l => do
        return (← step state l, true) with
    | .ok next => return (next, all)
    | .error fault => do
      onFault file fault
      return (state, false)) (start, true)

/-! ## Answers -/

/-- Whether the next line of the input agrees. -/
def isAgreed : Procedure Bool := do
  match ← channelOf? 0 with
  | none => return false
  | some i => do
    let line ← pullUpTo i '\n' 4096
    return line.head? = some 'y' || line.head? = some 'Y'

/-- Asks whether something is to be done. -/
def askWhether (question : Raw) : Procedure Bool := do
  complain ((← get).name ++ ": " ++ question ++ "? ".toList)
  isAgreed

end Utility

end MapAudit.Script
