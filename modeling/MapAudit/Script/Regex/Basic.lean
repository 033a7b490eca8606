import MapAudit.Script.Atom

/-! # Regular expressions

    A regular expression is looked for in a line. It is built from tests of one
    character and of places between characters, in sequence, as alternatives and
    repeated. What a numbered group has matched can be asked for later in the
    expression, and after the match.
-/

namespace MapAudit.Script

/-- A place between two characters. -/
inductive Anchor where
  /-- The start of the text. -/
  | start
  /-- The end of the text. -/
  | finish
  /-- The start of the text, also where a text is taken line by line. -/
  | textStart
  /-- The end of the text, also where a text is taken line by line. -/
  | textFinish
  /-- The start of a word. -/
  | wordStart
  /-- The end of a word. -/
  | wordEnd
  /-- The start or the end of a word. -/
  | wordEdge
  /-- Neither the start nor the end of a word. -/
  | noWordEdge
  /-- The start of a line of the text. -/
  | lineStart
  /-- The end of a line of the text. -/
  | lineFinish
  /-- Not after a character of a word. -/
  | noWordBefore
  /-- Not before a character of a word. -/
  | noWordAfter
  deriving DecidableEq, Repr

/-- **Regular expression**. -/
inductive Regex where
  /-- The text without any character. -/
  | empty
  /-- One character. -/
  | one (a : Atom)
  /-- A place. -/
  | at (place : Anchor)
  /-- The first, and then the second. -/
  | both (first second : Regex)
  /-- The first or the second. -/
  | either (first second : Regex)
  /-- The body again and again, at least and perhaps at most a number of times. -/
  | repeated (body : Regex) (least : Nat) (most : Option Nat)
  /-- The body as a group with a number. -/
  | group (number : Nat) (body : Regex)
  /-- What a group has matched. -/
  | again (number : Nat)
  deriving DecidableEq, Repr

namespace Regex

/-- The expression that matches a text and nothing else. -/
def literally (r : Raw) : Regex :=
  r.foldr (fun c e => .both (.one (.exactly c)) e) .empty

/-- Whether an expression asks for what a group has matched. -/
def looksBack : Regex → Bool
  | .empty => false
  | .one _ => false
  | .at _ => false
  | .both a b => looksBack a || looksBack b
  | .either a b => looksBack a || looksBack b
  | .repeated body _ _ => looksBack body
  | .group _ body => looksBack body
  | .again _ => true

/-- The expression for a text of several lines: what stood for the start or the end
    of the text stands for those of a line, and what is not said exactly is no end
    of a line. -/
def byLines : Regex → Regex
  | .empty => .empty
  | .one .anything => .one (.among true [.only '\n'])
  | .one (.among true members) => .one (.among true (.only '\n' :: members))
  | .one a => .one a
  | .at .start => .at .lineStart
  | .at .finish => .at .lineFinish
  | .at place => .at place
  | .both a b => .both (byLines a) (byLines b)
  | .either a b => .either (byLines a) (byLines b)
  | .repeated body least most => .repeated (byLines body) least most
  | .group n body => .group n (byLines body)
  | .again n => .again n

/-- The greatest number of a group. -/
def groups : Regex → Nat
  | .empty => 0
  | .one _ => 0
  | .at _ => 0
  | .both a b => max (groups a) (groups b)
  | .either a b => max (groups a) (groups b)
  | .repeated body _ _ => groups body
  | .group n body => max n (groups body)
  | .again _ => 0

end Regex

end MapAudit.Script
