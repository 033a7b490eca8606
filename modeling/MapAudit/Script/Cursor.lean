import MapAudit.Script.Token

/-! # Places in a script

    A script is read from a place on. A reader goes forward from there and
    keeps count of the lines, and it fails on what is no script. A backslash at
    the end of a line joins it with the next one almost everywhere.

    The lines that a redirection takes its text from stand below the line of the
    redirection, and are read when that line ends. A script with such lines is
    read twice: the first time finds the texts, and the second one, which knows
    them, puts them where they belong.
-/

namespace MapAudit.Script

/-- Lines that are to be read as the text of a redirection. -/
structure Document where
  /-- The number of the text in the script. -/
  number : Nat
  /-- The line that ends the text. -/
  delimiter : Raw
  /-- Whether everything in the text stands for itself. -/
  isQuoted : Bool
  /-- Whether tabs at the starts of lines are left out. -/
  isIndented : Bool
  /-- The line of the redirection. -/
  line : Nat

/-- **Cursor**: a place in a script. -/
structure Cursor where
  /-- The dialect of the script. -/
  dialect : Dialect
  /-- The text from there on. -/
  rest : Raw
  /-- The number of the line, from one. -/
  line : Nat
  /-- A bound on the number of steps along the text. -/
  room : Nat
  /-- The last token. -/
  token : Token
  /-- Whether the last token is read once more. -/
  isPushed : Bool
  /-- The line that the last token begins in. -/
  startLine : Nat
  /-- Number of texts of redirections. -/
  opened : Nat
  /-- The texts that are to be read at the end of the line. -/
  pending : List Document
  /-- The texts that were read, by their numbers, each with how it is written. -/
  documents : List (Nat × Word × Raw)
  /-- The texts that are known from an earlier reading. -/
  known : List (Nat × Word × Raw)
  /-- What is remarked about the script, each with a line. -/
  remarks : List (Nat × Raw)
  /-- The texts that words stand for where a command begins. -/
  aliases : List (Raw × Raw)
  /-- Whether patterns in words may hold groups in parentheses. -/
  groups : Bool

namespace Cursor

/-- The start of a script. -/
def atStart (d : Dialect) (r : Raw) (line : Nat) : Cursor where
  dialect := d
  rest := r
  line := line
  room := r.length + 2
  token := .newline
  isPushed := false
  startLine := line
  opened := 0
  pending := []
  documents := []
  known := []
  remarks := []
  aliases := []
  groups := false

end Cursor

/-- **Reader** of part of a script. -/
abbrev Reader := StateT Cursor (Except SyntaxFault)

namespace Reader

/-- Fails here. -/
def fail {α : Type} (cause : SyntaxCause) : Reader α := do
  let c ← get
  throw { line := c.line, startLine := c.startLine, cause }

/-- Fails here because of what was opened in an earlier line. -/
def failSince {α : Type} (startLine : Nat) (cause : SyntaxCause) : Reader α := do
  throw { line := (← get).line, startLine, cause }

/-- Repeats a step up to `n` times, until it has a result. -/
def repeatUpTo {σ α : Type} (step : σ → Reader (σ ⊕ α)) : (n : Nat) → σ → Reader α
  | 0, _ => fail .tooDeep
  | n + 1, s => do
    match ← step s with
    | .inl s => repeatUpTo step n s
    | .inr a => return a

/-- Repeats a step along the text, until it has a result. -/
def repeatAlong {σ α : Type} (start : σ) (step : σ → Reader (σ ⊕ α)) : Reader α := do
  repeatUpTo step (← get).room start

/-! ## Characters -/

/-- The text from here on. -/
def rest : Reader Raw := do
  return (← get).rest

/-- Whether the dialect is the richer one. -/
def isRich : Reader Bool := do
  return (← get).dialect == .bash

/-- Goes over the next `n` characters. -/
def skip (n : Nat) : Reader Unit :=
  modify fun c => { c with rest := c.rest.drop n, line := c.line + (c.rest.take n).count '\n' }

/-- The number of lines that are joined at the start of a text. -/
def joinsIn : Raw → Nat
  | '\\' :: '\n' :: rest => joinsIn rest + 1
  | _ => 0

/-- Goes over joins of lines. -/
def skipJoins : Reader Unit := do
  skip (2 * joinsIn (← rest))

/-- The next character. -/
def peek? : Reader (Option Char) := do
  skipJoins
  return (← rest).head?

/-- Goes over the next character. -/
def next? : Reader (Option Char) := do
  match ← peek? with
  | none => return none
  | some c => do
    skip 1
    return some c

/-- Goes over a character if it is the next one. -/
def skipIf (c : Char) : Reader Bool := do
  if (← peek?) = some c then
    skip 1
    return true
  return false

/-- Goes over the next characters that pass a test. -/
def takeRun (p : Char → Bool) : Reader Raw := do
  let run := (← rest).takeWhile p
  skip run.length
  return run

/-- The text between an earlier place and this one. -/
def textSince (earlier : Raw) : Reader Raw := do
  return earlier.take (earlier.length - (← rest).length)

/-! ## Kinds of characters -/

/-- Whether a character ends a word. -/
def endsWord (c : Char) : Bool :=
  [' ', '\t', '\n', ';', '&', '|', '(', ')', '<', '>'].contains c

/-- Whether a character may begin a name. -/
def beginsName (c : Char) : Bool :=
  c.isAlpha || c == '_'

/-- Whether a character may stand in a name. -/
def inName (c : Char) : Bool :=
  c.isAlphanum || c == '_'

/-- Whether a text is a name. -/
def isName (r : Raw) : Bool :=
  r.head?.any beginsName && r.all inName

/-- Whether a character alone names a parameter. -/
def isSpecial (c : Char) : Bool :=
  c.isDigit || ['@', '*', '#', '?', '$', '!', '-'].contains c

/-- Whether a character stands for itself in an unquoted word. -/
def isOrdinary (c : Char) : Bool :=
  !endsWord c && !(['\x27', '"', '\\', '$', '\x60'].contains c)

/-- Whether a character stands for itself between double quotes. -/
def isOrdinaryQuoted (c : Char) : Bool :=
  !(['"', '\\', '$', '\x60'].contains c)

/-! ## Nested scripts -/

/-- Reads with another cursor that stands in a text of its own, and goes on here. -/
def within {α : Type} (text : Raw) (line : Nat) (r : Reader α) : Reader α := do
  let here ← get
  set { here with rest := text, line, room := text.length + 2, isPushed := false, pending := [] }
  let a ← r
  modify fun c => { c with
    rest := here.rest, line := here.line, room := here.room, token := here.token
    isPushed := here.isPushed, startLine := here.startLine, pending := here.pending }
  return a

end Reader

end MapAudit.Script
