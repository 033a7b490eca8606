import MapAudit.Script.Regex.Basic

/-! # Edit scripts

    An edit script says what is done with the lines of a text, one after another.
    Each line is held in the work space while the edits are carried out, and then
    written; a store keeps another text from line to line.

    The edits stand in a row. A block is a span of the row, and a jump goes to the
    place that a label names.
-/

namespace MapAudit.Script

namespace Editing

/-- **Search** for a regular expression. -/
structure Search where
  /-- The expression; without one, it is the one that was looked for last. -/
  regex : Option Regex
  /-- Whether capital and small letters are alike. -/
  ignoresCase : Bool
  deriving DecidableEq, Repr

/-- What a line must be like for an edit. -/
inductive Address where
  /-- It has a number. -/
  | line (n : Nat)
  /-- Its number is the first one or some steps above it. -/
  | every (first step : Nat)
  /-- It is the last one. -/
  | last
  /-- It has a match. -/
  | matching (search : Search)
  deriving DecidableEq, Repr

/-- Where a range of lines ends. -/
inductive RangeEnd where
  /-- At the line with a number. -/
  | line (n : Nat)
  /-- So many lines further. -/
  | after (count : Nat)
  /-- At the next line whose number is a multiple. -/
  | multiple (n : Nat)
  /-- At the last line. -/
  | last
  /-- At the next line that has a match. -/
  | matching (search : Search)
  deriving DecidableEq, Repr

/-- **Guard**: the lines that an edit is for. -/
structure Guard where
  /-- What the line is like, or the first one of a range; without that, all lines
      are meant. -/
  first : Option Address
  /-- Where the range ends, if it is one. -/
  finish : Option RangeEnd
  /-- Whether the other lines are meant. -/
  isNegated : Bool
  deriving DecidableEq, Repr

/-- A change of letters in what is put in the place of a match. -/
inductive Casing where
  /-- No change from here on. -/
  | none
  /-- Capital letters from here on. -/
  | upper
  /-- Small letters from here on. -/
  | lower
  /-- A capital letter next. -/
  | upperNext
  /-- A small letter next. -/
  | lowerNext
  deriving DecidableEq, Repr

/-- A part of what is put in the place of a match. -/
inductive Part where
  /-- A text. -/
  | text (r : Raw)
  /-- What a group has matched, or the whole match. -/
  | group (n : Nat)
  /-- A change of letters. -/
  | casing (c : Casing)
  deriving DecidableEq, Repr

/-- **Substitution** of matches. -/
structure Substitution where
  /-- What is looked for. -/
  search : Search
  /-- What is put in its place. -/
  replacement : List Part
  /-- The number of the first match that is replaced. -/
  number : Nat
  /-- Whether the matches after it are replaced as well. -/
  isGlobal : Bool
  /-- Whether the result is written. -/
  prints : Bool
  /-- Whether the result is carried out as a command, whose output takes its place. -/
  executes : Bool
  /-- Whether the result is written before that. -/
  printsFirst : Bool
  /-- The file that the result is written to. -/
  file : Option Raw
  deriving DecidableEq, Repr

/-- When a jump is made. -/
inductive JumpRule where
  /-- Always. -/
  | always
  /-- If something was replaced since a line was read, or since the last such
      jump. -/
  | ifReplaced
  /-- If nothing was. -/
  | unlessReplaced
  deriving DecidableEq, Repr

/-- **Edit**. -/
inductive Edit where
  /-- The edits up to a place are passed over, unless the line is guarded. -/
  | block (finish : Nat)
  /-- Nothing is done. -/
  | nothing
  /-- The number of the line is written. -/
  | number
  /-- The name of the file is written. -/
  | fileName
  /-- A text is written after the line. -/
  | append (r : Raw)
  /-- A text is written before the line. -/
  | insert (r : Raw)
  /-- A text is written in the place of the lines. -/
  | change (r : Raw)
  /-- A jump to a label, or else to the end. -/
  | jump (rule : JumpRule) (label : Raw)
  /-- The work space is given up. -/
  | delete
  /-- The first line of the work space is given up. -/
  | deleteFirst
  /-- The work space is taken from the store. -/
  | recall
  /-- The store is put behind the work space. -/
  | recallBehind
  /-- The work space is put into the store. -/
  | keep
  /-- The work space is put behind the store. -/
  | keepBehind
  /-- The work space and the store change places. -/
  | exchange
  /-- The work space is emptied. -/
  | empty
  /-- The work space is written so that all of it can be seen, in lines of a
      width. -/
  | list (width : Option Nat)
  /-- The next line takes the place of the work space. -/
  | next
  /-- The next line is put behind the work space. -/
  | nextBehind
  /-- The work space is written. -/
  | print
  /-- The first line of the work space is written. -/
  | printFirst
  /-- The script ends with a status, perhaps after the work space was written. -/
  | quit (prints : Bool) (status : Nat)
  /-- A file is written after the line. -/
  | readFile (file : Raw)
  /-- The next line of a file is written after the line. -/
  | readLine (file : Raw)
  /-- The work space is written to a file. -/
  | writeFile (file : Raw)
  /-- The first line of the work space is written to a file. -/
  | writeFirst (file : Raw)
  /-- Matches are replaced. -/
  | substitute (s : Substitution)
  /-- A command is carried out, which is the work space if none is given. -/
  | execute (command : Raw)
  /-- Characters are replaced by others. -/
  | transliterate (pairs : List (Char × Char))
  deriving DecidableEq, Repr

/-- **Edit script**. -/
structure Program where
  /-- The edits, each with the lines that it is for. -/
  edits : Array (Guard × Edit)
  /-- The places that labels name. -/
  labels : List (Raw × Nat)
  /-- The files that are written. -/
  files : List Raw
  /-- Whether lines are not written unless an edit says so. -/
  isQuiet : Bool

/-- Where part of a script comes from. -/
inductive Origin where
  /-- An argument with a number. -/
  | argument (n : Nat)
  /-- A file. -/
  | file (name : Raw)
  deriving DecidableEq, Repr

/-- Why a script makes no sense. -/
structure Fault where
  /-- What is said about it. -/
  text : Raw
  /-- The status of the utility. -/
  status : Nat

end Editing

end MapAudit.Script
