import MapAudit.Script.Raw

/-! # Commands of a script

    A script is a list of commands. The words of a command are not texts yet:
    they are made of pieces whose value is found when the command is run.

    Scripts are written in one of two dialects. What only the richer one has is
    marked as such.
-/

namespace MapAudit.Script

/-- **Dialect** of a script. -/
inductive Dialect where
  /-- The plain language of shells. -/
  | sh
  /-- The richer language, with arrays and more. -/
  | bash
  deriving DecidableEq, Repr

/-- Where a pattern must match to be replaced in a value. -/
inductive Occurrence where
  /-- At the first place. -/
  | first
  /-- At every place. -/
  | every
  /-- At the start. -/
  | atStart
  /-- At the end. -/
  | atEnd
  deriving DecidableEq, Repr

/-- How letters are changed. -/
inductive Recasing where
  /-- To capitals. -/
  | upper
  /-- To small letters. -/
  | lower
  /-- Each to the other kind. -/
  | toggle
  deriving DecidableEq, Repr

/-- **Modifier**: what is made of the value of a parameter, perhaps with words as
    operands. -/
inductive Modifier where
  /-- Nothing: the value itself is meant. -/
  | asIs
  /-- The length of the value. -/
  | length
  /-- A word stands in for a value that is missing, or also for an empty one. -/
  | standIn (forEmpty : Bool)
  /-- A word is assigned where a value is missing, or also where it is empty. -/
  | assign (forEmpty : Bool)
  /-- A word replaces a value that is there, and perhaps must not be empty. -/
  | replace (forEmpty : Bool)
  /-- A word is complained about where a value is missing, or also where it is
      empty. -/
  | require (forEmpty : Bool)
  /-- A start of the value that matches a word is cut off, the longest one or
      the shortest one. -/
  | cutStart (longest : Bool)
  /-- An end of the value that matches a word is cut off, the longest one or the
      shortest one. -/
  | cutEnd (longest : Bool)
  /-- A part of the value, from a place on and perhaps only so long. Only in the
      richer dialect. -/
  | slice
  /-- The value with matches of a word replaced by another one. Only in the
      richer dialect. -/
  | substitute (occurrence : Occurrence)
  /-- The value with its first letter or all letters changed. Only in the richer
      dialect. -/
  | recase (recasing : Recasing) (all : Bool)
  /-- What is made of the value of the parameter that the value names. Only in the richer
      dialect. -/
  | indirect (m : Modifier)
  /-- The indices of an array. Only in the richer dialect. -/
  | indices
  /-- The names of the variables that begin like the parameter. Only in the richer
      dialect. -/
  | names
  /-- The value in another form, named by a letter. Only in the richer dialect. -/
  | transform (letter : Char)
  /-- What cannot be made sense of, as it is written. -/
  | senseless (written : Raw)
  deriving DecidableEq, Repr

/-- What comes after the commands of a part of a `case`. -/
inductive ArmEnd where
  /-- Nothing more. -/
  | leave
  /-- The commands of the next part. -/
  | runOn
  /-- The next part, if the word matches its patterns. Only in the richer dialect. -/
  | lookOn
  deriving DecidableEq, Repr

/-- How a file is opened for a stream. -/
inductive OpenMode where
  /-- For reading. -/
  | read
  /-- For writing, without what was in it. -/
  | write
  /-- For writing, without what was in it, even if files are to be spared. -/
  | replace
  /-- For writing at its end. -/
  | append
  /-- For reading and writing from its start. -/
  | both
  deriving DecidableEq, Repr

mutual

/-- **Piece** of a word. -/
inductive Piece where
  /-- Text that stands for itself. File patterns in it count. -/
  | plain (r : Raw)
  /-- Text that stands for itself in every respect. -/
  | quoted (r : Raw)
  /-- What a modifier makes of the value of a parameter, which may be at an
      index of an array. -/
  | parameter (name : Raw) (index : List Piece) (modifier : Modifier)
      (operands : List (List Piece)) (isQuoted : Bool)
  /-- The value of an expression. -/
  | number (expression : List Piece) (isQuoted : Bool)
  /-- What commands write. -/
  | output (commands : List Command) (isQuoted : Bool)
  /-- A path to a pipe that commands write, or that they read if it leads in to
      them. Only in the richer dialect. -/
  | conduit (leadsIn : Bool) (commands : List Command)

/-- **Redirection** of a stream, with the target as it is written. -/
inductive Redirection where
  /-- A stream leads to a file. -/
  | toFile (stream : Nat) (mode : OpenMode) (target : List Piece) (written : Raw)
  /-- The output and the error stream lead to a file. Only in the richer dialect. -/
  | bothToFile (mode : OpenMode) (target : List Piece) (written : Raw)
  /-- A stream leads where another one does, or nowhere any more. -/
  | copy (stream : Nat) (forReading : Bool) (target : List Piece) (written : Raw)
  /-- A stream leads to a text, with what is written below the line. -/
  | fromText (stream : Nat) (content : List Piece) (written : Raw) (below : Option Raw)
  /-- Another stream, whose number a variable holds or is given, is redirected like the
      one that is named, and stays so. Only in the richer dialect. -/
  | held (name : Raw) (r : Redirection)

/-- **Assignment** of a value, or of values for an array, to a name. -/
inductive Assignment where
  /-- One value, perhaps added to what is there. -/
  | one (name : Raw) (index : List Piece) (adds : Bool) (value : List Piece)
  /-- The elements of an array, each with the index that it may have, and how they are
      written. Only in the richer dialect. -/
  | several (name : Raw) (adds : Bool) (elements : List (List Piece × List Piece))
      (written : Raw)

/-- **Condition** between double brackets. Only in the richer dialect. -/
inductive Condition where
  /-- A question about one word. -/
  | about (question : Raw) (w : List Piece)
  /-- A question about two words. -/
  | between (left : List Piece) (question : Raw) (right : List Piece)
  /-- The opposite. -/
  | negation (c : Condition)
  /-- Both of two. -/
  | both (first second : Condition)
  /-- One of two. -/
  | either (first second : Condition)

/-- **Command** of a script. -/
inductive Command where
  /-- Assignments, and words that name a command and its arguments. How they are written
      is known in the richer dialect. -/
  | simple (line : Nat) (written : Raw) (assignments : List Assignment) (words : List (List Piece))
      (redirections : List Redirection)
  /-- Commands whose streams are redirected. -/
  | redirected (line : Nat) (body : List Command) (redirections : List Redirection)
  /-- Commands in parentheses. What they change in the shell is undone. -/
  | subshell (line : Nat) (body : List Command) (redirections : List Redirection)
  /-- A command that is not waited for. -/
  | background (c : Command)
  /-- A command that is not waited for, with pipes to and from it under a name. Only in
      the richer dialect. -/
  | coprocess (line : Nat) (name : Raw) (c : Command)
  /-- Commands under a condition. -/
  | choice (condition body otherwise : List Command)
  /-- Commands for every word of a list, with how the list is written. -/
  | each (line : Nat) (name : Raw) (words : List (List Piece)) (written : Raw)
      (body : List Command)
  /-- Commands for every word that is picked from a list by its number. Only in the
      richer dialect. -/
  | offer (line : Nat) (name : Raw) (words : List (List Piece)) (written : Raw)
      (body : List Command)
  /-- Commands as long as a condition has an outcome. -/
  | loop (outcome : Bool) (condition body : List Command)
  /-- Commands for the patterns that a word matches: those of the first one, and
      then those of the next too, or of the next that it matches. -/
  | select (line : Nat) (word : List Piece) (written : Raw)
      (arms : List (List (List Piece) × Raw × List Command × ArmEnd))
  /-- Commands of which each reads what the one before writes. -/
  | pipeline (stages : List Command)
  /-- A name for a command. -/
  | define (line : Nat) (name : Raw) (body : Command)
  /-- A command with the opposite outcome. -/
  | negation (c : Command)
  /-- Commands of which is told how long they take, in short if that is enough. Only in
      the richer dialect. -/
  | timed (inShort : Bool) (body : List Command)
  /-- The second command if the first succeeds. -/
  | both (first second : Command)
  /-- The second command if the first fails. -/
  | either (first second : Command)
  /-- A condition. Only in the richer dialect. -/
  | ask (line : Nat) (written : Raw) (c : Condition)
  /-- An expression that is to be true. Only in the richer dialect. -/
  | compute (line : Nat) (expression : List Piece) (written : Raw)
  /-- Commands as long as an expression is true, with one expression before all
      rounds and one after each. Only in the richer dialect. -/
  | count (line : Nat) (start test next : List Piece) (written : List Raw)
      (body : List Command)

end

/-- A word that is not yet expanded. -/
abbrev Word := List Piece

/-- The parts of a `case`: patterns and how they are written, commands, and what comes
    after those. -/
abbrev Arm := List Word × Raw × List Command × ArmEnd

/-- The streams that a redirection redirects for the time of a command. -/
def Redirection.streams : Redirection → List Nat
  | .toFile stream _ _ _ | .fromText stream _ _ _ => [stream]
  | .copy stream forReading _ written =>
    if stream = 1 && !forReading && !written.all Char.isDigit then [1, 2] else [stream]
  | .bothToFile _ _ _ => [1, 2]
  | .held _ _ => []

namespace Piece

/-- The value of a parameter as it is. -/
def value (name : Raw) (isQuoted : Bool) : Piece :=
  .parameter name [] .asIs [] isQuoted

/-- Whether a piece is quoted. -/
def isQuote : Piece → Bool
  | .quoted _ => true
  | .plain _ | .parameter _ _ _ _ _ | .number _ _ | .output _ _ | .conduit _ _ => false

end Piece

namespace Word

/-- Whether a part of a word stands in quotes. -/
def hasQuotes (w : Word) : Bool :=
  w.any Piece.isQuote

/-- The text of a word of which nothing is to be expanded. -/
def literalText (w : Word) : Raw :=
  w.flatMap fun piece => match piece with
    | .plain r | .quoted r => r
    | .parameter _ _ _ _ _ | .number _ _ | .output _ _ | .conduit _ _ => []

/-- The text of a word that consists of unquoted text alone. -/
def bareText? (w : Word) : Option Raw :=
  w.foldr (fun piece found => match piece, found with
    | .plain r, some rest => some (r ++ rest)
    | _, _ => none) (some [])

end Word

end MapAudit.Script
