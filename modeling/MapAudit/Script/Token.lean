import MapAudit.Script.Command

/-! # Tokens of a script

    Commands are read token by token. A token is a word, an operator or the
    start of a redirection, or it ends a line or the script. Where a command may
    begin, some words are reserved.

    A text that is no script is refused with a fault, which says where the
    reader stood, and what was wrong there. The dialects word faults in their own
    ways.
-/

namespace MapAudit.Script

/-- What a redirection does, as its operator says. -/
inductive RedirectionKind where
  /-- A stream leads to a file. -/
  | file (mode : OpenMode)
  /-- A stream leads where another one does. -/
  | copy (forReading : Bool)
  /-- A stream leads to the lines that follow, perhaps without the tabs at their
      starts. -/
  | document (indented : Bool)
  /-- A stream leads to a word. -/
  | word
  /-- The output and the error stream lead to a file. -/
  | bothFile (mode : OpenMode)
  deriving DecidableEq, Repr

/-- What a redirection says of the stream that it is about. -/
inductive StreamName where
  /-- Nothing: its operator says enough. -/
  | usual
  /-- Its number. -/
  | number (n : Nat)
  /-- The name of a variable that holds its number. -/
  | held (name : Raw)
  deriving DecidableEq, Repr

namespace StreamName

/-- The number of the stream, which is `usual` where nothing says another one. -/
def orElse (usual : Nat) : StreamName → Nat
  | .number n => n
  | .usual | .held _ => usual

/-- The name as it is written. -/
def written : StreamName → Raw
  | .usual => []
  | .number n => Raw.ofNat n
  | .held name => '\x7b' :: name ++ ['\x7d']

end StreamName

/-- **Token**. -/
inductive Token where
  /-- The end of the script. -/
  | endOfText
  /-- The end of a line. -/
  | newline
  /-- What separates or joins commands. -/
  | operator (text : String)
  /-- The start of a redirection of a stream. -/
  | redirection (stream : StreamName) (kind : RedirectionKind) (text : String)
  /-- A word, and how it is written. -/
  | word (w : Word) (written : Raw)
  /-- A reserved word. -/
  | reserved (text : String)

namespace Token

/-- The words that are reserved where a command may begin. -/
def reservedWords (d : Dialect) : List String :=
  ["!", "case", "do", "done", "elif", "else", "esac", "fi", "for", "if", "in", "then", "until",
    "while", "\x7b", "\x7d"]
    ++ (match d with
      | .sh => []
      | .bash => ["[[", "coproc", "function", "select", "time"])

/-- Whether a token is a given operator. -/
def isOperator (text : String) : Token → Bool
  | .operator t => t == text
  | _ => false

/-- Whether a token is a given reserved word. -/
def isReserved (text : String) : Token → Bool
  | .reserved t => t == text
  | _ => false

/-- Whether a token ends a list of commands wherever one may end. -/
def endsList : Token → Bool
  | .endOfText => true
  | .operator t => t == ")" || t == ";;" || t == ";&" || t == ";;&"
  | .reserved t => ["do", "done", "elif", "else", "esac", "fi", "then", "\x7d"].contains t
  | .newline | .redirection _ _ _ | .word _ _ => false

/-- The name of a token in the messages of the plain dialect. -/
def name : Token → String
  | .endOfText => "end of file"
  | .newline => "newline"
  | .operator t | .reserved t => "\"" ++ t ++ "\""
  | .redirection _ _ _ => "redirection"
  | .word _ _ => "word"

/-- A token as it is written. -/
def written : Token → Raw
  | .endOfText => []
  | .newline => "newline"
  | .operator t | .reserved t => t.toList
  | .redirection _ _ t => t.toList
  | .word _ r => r

end Token

/-- What is wrong with a script. -/
inductive SyntaxCause where
  /-- A token makes no sense, perhaps because another one has to be there. -/
  | unexpected (t : Token) (expected : Option String)
  /-- Something that was opened is not closed by a mark. -/
  | unclosed (mark : String)
  /-- What stands between double parentheses is no expression. -/
  | noExpression
  /-- What is repeated for a name has no name. -/
  | badLoopName (written : Raw)
  /-- A command is defined under what is no name for one. -/
  | badDefinition
  /-- A condition is none. Lines are said about that, each with its number, and `left` is
      how much is left of the line that the reader stood in. -/
  | badCondition (said : List (Nat × Raw)) (left : Nat)
  /-- The list of elements of a variable makes no sense at a token. -/
  | badElement (t : Token)
  /-- The list of elements of a variable is not closed. -/
  | unclosedElements
  /-- The script nests too deeply. -/
  | tooDeep

/-- **Fault** of a script. -/
structure SyntaxFault where
  /-- The line that the reader stood in. -/
  line : Nat
  /-- The line that the last token, or what was not closed, begins in. -/
  startLine : Nat
  /-- What is wrong. -/
  cause : SyntaxCause

namespace SyntaxFault

/-- The words for a fault in the plain dialect. -/
def plainMessage (f : SyntaxFault) : String :=
  "Syntax error: " ++ match f.cause with
    | .unexpected t none => t.name ++ " unexpected"
    | .unexpected t (some expected) => t.name ++ " unexpected (expecting " ++ expected ++ ")"
    | .unclosed "\x7d" => "Missing '\x7d'"
    | .unclosed "))" => "Missing '))'"
    | .unclosed "\x60" => "EOF in backquote substitution"
    | .unclosed ")" => "end of file unexpected (expecting \")\")"
    | .unclosed _ => "Unterminated quoted string"
    | .badLoopName _ => "Bad for loop variable"
    | .badDefinition => "Bad function name"
    | .noExpression | .badCondition _ _ | .badElement _ | .unclosedElements | .tooDeep => "Too deep"

/-- The text at a place of a line that something is wrong near, given how much of the line
    is left there: the word that the place is in or behind. -/
def nearText (l : Raw) (left : Nat) : Raw :=
  let isBlank (c : Char) : Bool := c = ' ' || c = '\t' || c = '\n'
  let ends (c : Char) : Bool := isBlank c || c = ';' || c = '|' || c = '&'
  let before := ((l ++ ['\n']).take (l.length - left + 1)).reverse.dropWhile isBlank
  let word := before.takeWhile fun c => !ends c
  match before.drop word.length with
  | c :: _ => (if isBlank c then word else word ++ [c]).reverse
  | [] => if word.isEmpty then l.take 1 else word.reverse

/-- The lines about a fault in the richer dialect. Each begins with the number of
    a line; `lineOf` gives the text of one. -/
def richLines (f : SyntaxFault) (lineOf : Nat → Raw) : List (Nat × Raw) :=
  match f.cause with
  | .unexpected .endOfText _ =>
    [(f.line, "syntax error: unexpected end of file".toList)]
  | .unexpected t _ =>
    [(f.startLine, "syntax error near unexpected token \x60" ++ t.written ++ "'"),
      (f.startLine, "\x60" ++ lineOf f.startLine ++ "'")]
  | .badCondition said left =>
    said ++ [(f.startLine, "syntax error near \x60" ++ nearText (lineOf f.startLine) left ++ "'"),
      (f.startLine, "\x60" ++ lineOf f.startLine ++ "'")]
  | .badElement t =>
    [(f.startLine, "syntax error near unexpected token \x60" ++ t.written ++ "'"),
      (f.startLine, "\x60" ++ lineOf f.startLine ++ "'")]
  | .unclosedElements =>
    [(f.startLine, "unexpected EOF while looking for matching \x60)'")]
  | .unclosed mark =>
    let shown := if mark = "))" then ")" else mark
    [(if mark = ")" then f.line else f.startLine,
      ("unexpected EOF while looking for matching \x60" ++ shown ++ "'").toList)]
  | .badLoopName r => [(f.startLine, "\x60" ++ r ++ "': not a valid identifier")]
  | .badDefinition => [(f.startLine, "not a valid identifier".toList)]
  | .noExpression | .tooDeep => [(f.line, "too deep".toList)]

/-- The status that a text is given up with in the richer dialect because of a fault, if it
    is not just the line. -/
def statusForAll? (f : SyntaxFault) : Option Nat :=
  match f.cause with
  | .badElement _ => none
  | .unclosedElements => some 1
  | _ => some 2

end SyntaxFault

end MapAudit.Script
