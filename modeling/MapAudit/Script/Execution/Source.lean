import MapAudit.Script.Execution.Compound

/-! # Running a text

    A text is read and run line by line, so that what a line does is done before
    a fault in a later one is found, and so that the aliases made in it are known
    further down. A fault ends the shell in the plain dialect, and the text in the
    richer one.
-/

namespace MapAudit.Script

namespace Procedure

/-- Tells about a line of a text, under the label of the text. -/
def remark (label : Raw) (line : Nat) (r : Raw) : Procedure Unit := do
  let s ← get
  complain (s.source ++ ": " ++ label ++ "line " ++ Raw.ofNat line ++ ": " ++ r ++ ['\n'])

/-- Complains about a fault of a text. `lineOf` gives the lines of the text. The answer is
    the status if the text is given up. -/
def giveUp? (label : Raw) (lineOf : Nat → Raw) (fault : SyntaxFault) : Procedure (Option Nat) := do
  match (← get).dialect with
  | .sh => do
    modify fun s => { s with line := fault.line }
    refuse fault.plainMessage
  | .bash => do
    (fault.richLines lineOf).forM fun (line, r) => remark label line r
    let status := fault.statusForAll?
    modify fun s => { s with status := status.getD 1 }
    return status

/-- Runs the commands of a line. In the richer dialect they can be given up
    without an end to the shell. -/
def runLine (e : Engine) (stance : Stance) (commands : List Command) : Procedure Nat := do
  if ← hasOption 'n' then return (← get).status
  tryCatch (e.run stance commands) fun stop => do
    let s ← get
    match stop, s.dialect with
    | .discard n, .bash => do
      if s.process ≠ s.mainProcess then throw stop
      modify fun s => { s with status := n }
      return n
    | stop, _ => throw stop

/-- Runs the lines of a text from a place on, at most `n` of them. -/
def runLines (e : Engine) (stance : Stance) (label : Raw) (lineOf : Nat → Raw) :
    (n : Nat) → (last : Nat) → Cursor → Procedure Nat
  | 0, last, _ => return last
  | n + 1, last, c => do
    let s ← get
    match readUnit { c with aliases := s.aliases, groups := s.isOn "extglob" } with
    | .error fault =>
      match ← giveUp? label lineOf fault with
      | some status => return status
      | none =>
        let skipped := (c.rest.splitOn '\n').take (fault.line + 1 - c.line)
        let rest := c.rest.drop (['\n'].intercalate skipped).length.succ
        runLines e stance label lineOf n 1 { c with rest, line := fault.line + 1 }
    | .ok unit => do
      let next := unit.cursor
      modify fun s => { s with readLine := next.line }
      if ← hasOption 'v' then complain (c.rest.take (c.rest.length - next.rest.length))
      next.remarks.forM fun (line, r) => remark [] line r
      match unit.commands with
      | none => return last
      | some [] => runLines e stance label lineOf n last next
      | some commands => do
        let here := if next.rest.isEmpty then stance else stance.followed
        runLines e stance label lineOf n (← runLine e here commands) next

/-- A text whose last line is ended in the richer dialect, unless it ends with a
    backslash. -/
def withLineEnd (d : Dialect) (text : Raw) : Raw :=
  match d, text.getLast? with
  | .sh, _ | .bash, none | .bash, some '\n' | .bash, some '\\' => text
  | .bash, some _ => text ++ ['\n']

/-- **Running** a text whose lines are counted from a number on. -/
def runText (e : Engine) (stance : Stance) (label : Raw) (line : Nat) (text : Raw) :
    Procedure Nat := do
  let d := (← get).dialect
  let text := withLineEnd d text
  let start := Cursor.atStart d text line
  let lines := (text.splitOn '\n').toArray
  let lineOf (n : Nat) : Raw := (lines[n - line]?).getD []
  let readLine := (← get).readLine
  let restore : Procedure Unit := modify fun s => { s with readLine }
  let status ← tryCatch (runLines e stance label lineOf (text.length + 2) 0 start) fun stop => do
    restore
    throw stop
  restore
  return status

end Procedure

end MapAudit.Script
