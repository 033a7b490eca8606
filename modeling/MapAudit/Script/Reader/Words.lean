import MapAudit.Script.Cursor
import MapAudit.Script.Pattern
import MapAudit.Script.Print.Escape

/-! # Reading words

    A word is read piece by piece, up to a blank or an operator. What stands in
    quotes or in braces, and what stands for the output of commands, is read by
    rules of its own: a text between double quotes ends at the closing one, an
    expression at two closing parentheses, and so on.

    The readers here are given readers for what is nested, so that each of them
    goes along the text only.
-/

namespace MapAudit.Script

/-- Where pieces stand, and so where they end. -/
inductive Surroundings where
  /-- In a word by itself. -/
  | bare
  /-- Between double quotes. -/
  | doubled
  /-- In braces, before the closing one. -/
  | braced (isQuoted : Bool)
  /-- In an expression, before two closing parentheses. -/
  | expression
  /-- In the text of a redirection. -/
  | document
  /-- In brackets, before the closing one. -/
  | bracketed
  /-- In the parentheses of a group in a pattern, before the closing one. -/
  | grouped
  deriving DecidableEq, Repr

/-- Readers for what is nested. -/
structure Nested where
  /-- Reads commands up to a token that ends them. -/
  list : (mayBeEmpty : Bool) → Reader (List Command)
  /-- Reads pieces up to where they end. -/
  pieces : Surroundings → Reader Word

namespace Reader

variable (nested : Nested)

/-! ## Quotes -/

/-- Reads a text between single quotes, of which the first is read already. -/
def singleQuoted (start : Nat) : Reader Piece := do
  let r ← takeRun (· != '\x27')
  match ← rest with
  | [] => failSince start (.unclosed "'")
  | _ => do
    skip 1
    return .quoted r

/-- What letters after a backslash stand for in a text with escapes. -/
def escapedChar? (c : Char) : Option Char :=
  match c with
  | 'n' => some '\n'
  | 't' => some '\t'
  | 'r' => some '\r'
  | 'a' => some '\x07'
  | 'b' => some '\x08'
  | 'f' => some '\x0c'
  | 'v' => some '\x0b'
  | 'e' | 'E' => some '\x1b'
  | '\\' => some '\\'
  | '\x27' => some '\x27'
  | '"' => some '"'
  | '?' => some '?'
  | _ => none

/-- The character that is the control of another one. -/
def controlOf (c : Char) : Char :=
  if c = '?' then '\x7f' else Char.ofNat (c.toUpper.toNat % 32)

/-- What an escape says that begins with a letter, and how long the escape is without the
    backslash. -/
def escapeIn (c : Char) (more : Raw) : Raw × Nat :=
  let hexRun (n : Nat) (r : Raw) : Raw := (r.take n).takeWhile Raw.isHex
  match c, more with
  | 'x', '\x7b' :: inner =>
    let digits := inner.takeWhile Raw.isHex
    let isClosed := (inner.drop digits.length).head? = some '\x7d'
    ([Raw.byteOf (Raw.hexValue digits)], 2 + digits.length + (if isClosed then 1 else 0))
  | 'x', more =>
    let digits := hexRun 2 more
    if digits.isEmpty then (['\\', 'x'], 1)
    else ([Raw.byteOf (Raw.hexValue digits)], 1 + digits.length)
  | 'c', ['\\'] => (['\\', 'c'], 1)
  | 'c', '\\' :: '\\' :: _ => ([controlOf '\\'], 3)
  | 'c', d :: _ => ([controlOf d], 2)
  | c, more =>
    if c = 'u' || c = 'U' then
      let digits := hexRun (if c = 'u' then 4 else 8) more
      if digits.isEmpty then (['\\', c], 1)
      else (Escape.unicodeText (Raw.hexValue digits), 1 + digits.length)
    else if Raw.isOctal c then
      let digits := (c :: more.take 2).takeWhile Raw.isOctal
      ([Raw.byteOf (Raw.octalValue digits)], digits.length)
    else match escapedChar? c with
      | some e => ([e], 1)
      | none => (['\\', c], 1)

/-- Reads a text with escapes up to a single quote. Nothing of it counts after a NUL
    character. -/
def escapedQuoted (start : Nat) : Reader Piece :=
  repeatAlong [] fun (done : Raw) => do
    let r ← takeRun fun c => c != '\x27' && c != '\\'
    let done := done ++ r
    match ← rest with
    | '\\' :: c :: more => do
      let (said, length) := escapeIn c more
      skip (1 + length)
      return .inl (done ++ said)
    | '\x27' :: _ => do
      skip 1
      return .inr (.quoted (done.takeWhile (· ≠ '\x00')))
    | _ => failSince start (.unclosed "'")

/-- The pieces of a text in double quotes. They make a field even if they are
    empty, unless they are nothing but values of which each is a field. -/
def doubledPieces (w : Word) : Word :=
  match w with
  | [.parameter ['@'] _ _ _ _] => w
  | [.parameter _ [.plain ['@']] _ _ _] => w
  | w => .quoted [] :: w

/-- Reads a backslash and what it takes the meaning of, between double quotes:
    one of the given characters. Before another one it stands for itself. -/
def quotedEscape (escapable : List Char) : Reader Piece := do
  skip 1
  match ← rest with
  | [] => return .quoted ['\\']
  | c :: _ => do
    skip 1
    if escapable.contains c then return .quoted [c] else return .quoted ['\\', c]

/-! ## Output of commands -/

/-- Reads the text up to a closing back quote. -/
def backQuotedText (isQuoted : Bool) (start : Nat) : Reader Raw :=
  repeatAlong [] fun (done : Raw) => do
    skipJoins
    let r ← takeRun fun c => c != '\x60' && c != '\\'
    let done := done ++ r
    match ← rest with
    | [] => failSince start (.unclosed "\x60")
    | '\\' :: '\n' :: _ => return .inl done
    | '\\' :: c :: _ => do
      skip 2
      if c = '\\' || c = '$' || c = '\x60' || (isQuoted && c = '"') then
        return .inl (done ++ [c])
      else return .inl (done ++ ['\\', c])
    | ['\\'] => do
      skip 1
      return .inl (done ++ ['\\'])
    | _ => do
      skip 1
      return .inr done

/-- Reads commands up to a closing parenthesis. -/
def commandsInParentheses (start : Nat) : Reader (List Command) := do
  let pending := (← get).pending
  modify fun c => { c with pending := [], isPushed := false }
  let body ← nested.list true
  let c ← get
  if !c.isPushed then fail .tooDeep
  match c.token with
  | .operator ")" => do
    set { c with pending, isPushed := false }
    return body
  | .endOfText => failSince start (.unclosed ")")
  | t => fail (.unexpected t (some "\")\""))

/-- Reads commands up to a closing back quote. They are read as a script of
    their own. -/
def backQuote (isQuoted : Bool) : Reader Piece := do
  let start := (← get).line
  let text ← backQuotedText isQuoted start
  let first := if ← isRich then start else 1
  return .output (← within text first (nested.list true)) isQuoted

/-! ## Parameters -/

/-- Reads the operand of a modifier up to the closing brace. -/
def operand (isQuoted : Bool) : Reader (List Word) := do
  return [← nested.pieces (.braced isQuoted)]

/-- Reads what is made of the value of a parameter, from a character on that is
    already read. -/
def plainModifier (name : Raw) (isQuoted : Bool) (c : Option Char) : Reader Piece := do
  let parameter (m : Modifier) (operands : List Word) : Piece :=
    .parameter name [] m operands isQuoted
  let (forEmpty, c) ← if c = some ':' then pure (true, ← next?) else pure (false, c)
  match c with
  | some '-' => return parameter (.standIn forEmpty) (← operand nested isQuoted)
  | some '+' => return parameter (.replace forEmpty) (← operand nested isQuoted)
  | some '?' => return parameter (.require forEmpty) (← operand nested isQuoted)
  | some '=' => return parameter (.assign forEmpty) (← operand nested isQuoted)
  | some '\x7d' =>
    if forEmpty then return parameter (.senseless []) (← operand nested isQuoted)
    else return parameter .asIs []
  | some '#' =>
    if forEmpty then return parameter (.senseless []) (← operand nested isQuoted)
    let longest ← skipIf '#'
    return parameter (.cutStart longest) (← operand nested false)
  | some '%' =>
    if forEmpty then return parameter (.senseless []) (← operand nested isQuoted)
    let longest ← skipIf '%'
    return parameter (.cutEnd longest) (← operand nested false)
  | _ => return parameter (.senseless []) (← operand nested isQuoted)

/-- Goes over a character without counting lines. -/
def nextUncounted? : Reader (Option Char) := do
  skipJoins
  match ← rest with
  | [] => return none
  | c :: rest => do
    modify fun s => { s with rest }
    return some c

/-- Reads a parameter in braces, of which the first is read already, in the plain
    dialect. -/
def plainBraces (isQuoted : Bool) : Reader Piece := do
  let senseless : Reader Piece := do
    return .parameter [] [] (.senseless []) (← operand nested isQuoted) isQuoted
  let length (name : Raw) : Reader Piece := do
    if ← skipIf '\x7d' then return .parameter name [] .length [] isQuoted
    else senseless
  match ← peek? with
  | none => senseless
  | some c =>
    if beginsName c then
      let name ← takeRun inName
      plainModifier nested name isQuoted (← nextUncounted?)
    else if c.isDigit then
      let name ← takeRun Char.isDigit
      plainModifier nested name isQuoted (← nextUncounted?)
    else if c = '\x7d' then
      senseless
    else
      skip 1
      if c = '#' then
        match ← peek? with
        | some d =>
          if inName d then
            length (← if d.isDigit then takeRun Char.isDigit else takeRun inName)
          else
            match (← rest).drop 1 with
            | '\x7d' :: _ =>
              if d = '\x7d' then plainModifier nested ['#'] isQuoted (← nextUncounted?)
              else if isSpecial d then do
                skip 1
                length [d]
              else senseless
            | _ => plainModifier nested ['#'] isQuoted (← nextUncounted?)
        | none => plainModifier nested ['#'] isQuoted none
      else if isSpecial c then
        plainModifier nested [c] isQuoted (← nextUncounted?)
      else senseless

/-- The part of a word before the first unquoted character of some kind, and the
    part after it. -/
def splitWord (stop : Char) : Word → Word × Option Word
  | [] => ([], none)
  | .plain r :: rest =>
    let before := r.takeWhile (· != stop)
    if before.length < r.length then
      (if before.isEmpty then [] else [.plain before],
        some (.plain (r.drop (before.length + 1)) :: rest))
    else
      let (first, second) := splitWord stop rest
      (.plain r :: first, second)
  | piece :: rest =>
    let (first, second) := splitWord stop rest
    (piece :: first, second)

/-- The index after a name, if there is one. -/
def index? : Reader Word := do
  match ← rest with
  | '[' :: _ => do
    skip 1
    nested.pieces .bracketed
  | _ => return []

/-- Reads what is made of the value of a parameter in the richer dialect. -/
def richModifier (name : Raw) (index : Word) (isQuoted : Bool) : Reader (Option Piece) := do
  let parameter (m : Modifier) (operands : List Word) : Reader (Option Piece) :=
    return some (.parameter name index m operands isQuoted)
  let after (n : Nat) (m : Modifier) (isQuoted : Bool) : Reader (Option Piece) := do
    skip n
    parameter m (← operand nested isQuoted)
  let substitute (n : Nat) (occurrence : Occurrence) : Reader (Option Piece) := do
    skip n
    let w ← nested.pieces (.braced false)
    let (pattern, replacement) := splitWord '/' w
    parameter (.substitute occurrence) [pattern, replacement.getD []]
  match ← rest with
  | '\x7d' :: _ => do
    skip 1
    parameter .asIs []
  | ':' :: '-' :: _ => after 2 (.standIn true) isQuoted
  | '-' :: _ => after 1 (.standIn false) isQuoted
  | ':' :: '=' :: _ => after 2 (.assign true) isQuoted
  | '=' :: _ => after 1 (.assign false) isQuoted
  | ':' :: '+' :: _ => after 2 (.replace true) isQuoted
  | '+' :: _ => after 1 (.replace false) isQuoted
  | ':' :: '?' :: _ => after 2 (.require true) isQuoted
  | '?' :: _ => after 1 (.require false) isQuoted
  | '#' :: '#' :: _ => after 2 (.cutStart true) false
  | '#' :: _ => after 1 (.cutStart false) false
  | '%' :: '%' :: _ => after 2 (.cutEnd true) false
  | '%' :: _ => after 1 (.cutEnd false) false
  | '/' :: '/' :: _ => substitute 2 .every
  | '/' :: '#' :: _ => substitute 2 .atStart
  | '/' :: '%' :: _ => substitute 2 .atEnd
  | '/' :: _ => substitute 1 .first
  | '^' :: '^' :: _ => after 2 (.recase .upper true) false
  | '^' :: _ => after 1 (.recase .upper false) false
  | ',' :: ',' :: _ => after 2 (.recase .lower true) false
  | ',' :: _ => after 1 (.recase .lower false) false
  | '~' :: '~' :: _ => after 2 (.recase .toggle true) false
  | '~' :: _ => after 1 (.recase .toggle false) false
  | '@' :: letter :: '\x7d' :: _ => do
    skip 3
    parameter (.transform letter) []
  | ':' :: '\x7d' :: _ => return none
  | ':' :: _ => do
    skip 1
    let w ← nested.pieces (.braced false)
    match splitWord ':' w with
    | (offset, none) => parameter .slice [offset]
    | (offset, some length) => parameter .slice [offset, length]
  | _ => return none

/-- Reads the name of a parameter in braces. -/
def richName? : Reader (Option Raw) := do
  match ← rest with
  | [] => return none
  | c :: _ =>
    if beginsName c then return some (← takeRun inName)
    else if c.isDigit then return some (← takeRun Char.isDigit)
    else if isSpecial c then
      skip 1
      return some [c]
    else return none

/-- Reads a parameter in braces, of which the first is read already, in the
    richer dialect. -/
def richBraces (isQuoted : Bool) : Reader Piece := do
  let start ← rest
  let line := (← get).line
  let senseless : Reader Piece := do
    let _ ← nested.pieces (.braced isQuoted)
    let written := "$\x7b" ++ (← textSince start)
    return .parameter [] [] (.senseless written) [] isQuoted
  if start.isEmpty then failSince line (.unclosed "\x7d")
  match start with
  | '#' :: '\x7d' :: _ => do
    skip 2
    return .value ['#'] isQuoted
  | '#' :: c :: _ =>
    if inName c || ((isSpecial c) && (start.drop 2).head? == some '\x7d') then
      skip 1
      match ← richName? with
      | none => senseless
      | some name => do
        let index ← index? nested
        if ← skipIf '\x7d' then return .parameter name index .length [] isQuoted
        else senseless
    else
      skip 1
      match ← richModifier nested ['#'] [] isQuoted with
      | some piece => return piece
      | none => senseless
  | '!' :: '#' :: '\x7d' :: _ => do
    skip 3
    return .parameter ['#'] [] (.indirect .asIs) [] isQuoted
  | '!' :: c :: _ =>
    if inName c then
      skip 1
      match ← richName? with
      | none => senseless
      | some name => do
        match ← rest with
        | '*' :: '\x7d' :: _ => do
          skip 2
          return .parameter name [.plain ['*']] .names [] isQuoted
        | '@' :: '\x7d' :: _ => do
          skip 2
          return .parameter name [.plain ['@']] .names [] isQuoted
        | _ => pure ()
        let index ← index? nested
        match index with
        | [.plain ['@']] | [.plain ['*']] =>
          if ← skipIf '\x7d' then return .parameter name index .indices [] isQuoted
          else senseless
        | _ =>
          match ← richModifier nested name index isQuoted with
          | some (.parameter _ _ m operands _) =>
            return .parameter name index (.indirect m) operands isQuoted
          | _ => senseless
    else
      skip 1
      match ← richModifier nested ['!'] [] isQuoted with
      | some piece => return piece
      | none => senseless
  | _ =>
    match ← richName? with
    | none => senseless
    | some name => do
      let index ← if isName name then index? nested else pure []
      match ← richModifier nested name index isQuoted with
      | some piece => return piece
      | none => senseless

/-- Reads what follows a dollar sign that is read already. -/
def dollar (isQuoted : Bool) : Reader Piece := do
  let start := (← get).line
  match ← peek? with
  | some '(' => do
    skip 1
    let here ← get
    let commands : Reader Piece := do
      return .output (← commandsInParentheses nested start) isQuoted
    if ← skipIf '(' then
      if (← get).dialect == .bash then
        tryCatch (do return .number (← nested.pieces .expression) isQuoted) fun fault => do
          if fault.cause matches .noExpression then
            set here
            commands
          else throw fault
      else return .number (← nested.pieces .expression) isQuoted
    else commands
  | some '\x7b' => do
    skip 1
    if ← isRich then richBraces nested isQuoted else plainBraces nested isQuoted
  | some c =>
    if c.isDigit || isSpecial c then
      skip 1
      return .value [c] isQuoted
    else if beginsName c then
      return .value (← takeRun inName) isQuoted
    else if c = '\x27' && !isQuoted && (← isRich) then
      skip 1
      escapedQuoted start
    else if c = '"' && !isQuoted && (← isRich) then
      return .quoted []
    else return if isQuoted then .quoted ['$'] else .plain ['$']
  | none => return if isQuoted then .quoted ['$'] else .plain ['$']

/-! ## Pieces -/

/-- Pieces being read: those that are complete, last one first, and whether the
    reader is between quotes or how deep it is in parentheses. -/
structure Reading where
  /-- The complete pieces. -/
  pieces : List Piece
  /-- Whether the reader is between quotes. -/
  inQuotes : Bool
  /-- Number of parentheses that are open. -/
  depth : Nat

/-- More pieces. -/
def Reading.add (s : Reading) (w : Word) : Reading ⊕ Word :=
  .inl { s with pieces := w.reverse ++ s.pieces }

/-- All pieces. -/
def Reading.finish (s : Reading) : Reading ⊕ Word :=
  .inr s.pieces.reverse

/-- Whether the text from here on begins with a group of a pattern. -/
def beginsGroup : Reader Bool := do
  let c ← get
  match c.rest with
  | sign :: '(' :: _ => return c.groups && (Repetition.ofSign? sign).isSome
  | _ => return false

/-- Whether the text from here on begins with commands that a path leads to. -/
def beginsConduit : Reader Bool := do
  if !(← isRich) then return false
  match ← rest with
  | '<' :: '(' :: _ | '>' :: '(' :: _ => return true
  | _ => return false

/-- Reads the characters that stand for themselves up to the sign of a group. -/
def takeOrdinary : Reader Raw := do
  let run ← takeRun isOrdinary
  let c ← get
  match run.reverse, c.rest with
  | sign :: before, '(' :: _ =>
    if c.groups && (Repetition.ofSign? sign).isSome then
      modify fun c => { c with rest := sign :: c.rest }
      return before.reverse
    return run
  | _, _ => return run

/-- Reads the next piece of a word by itself. -/
def bareStep (s : Reading) : Reader (Reading ⊕ Word) := do
  skipJoins
  if ← beginsGroup then
    let opening := (← rest).take 2
    skip 2
    let inside ← nested.pieces .grouped
    return s.add (.plain opening :: inside ++ [.plain [')']])
  if ← beginsConduit then
    let start := (← get).line
    let leadsIn := (← rest).head? = some '>'
    skip 2
    return s.add [.conduit leadsIn (← commandsInParentheses nested start)]
  match ← peek? with
  | none => return s.finish
  | some '\x27' => do
    let start := (← get).line
    skip 1
    return s.add [← singleQuoted start]
  | some '"' => do
    skip 1
    return s.add (doubledPieces (← nested.pieces .doubled))
  | some '\\' => do
    skip 1
    match ← rest with
    | [] => return s.add [.quoted ['\\']]
    | c :: _ => do
      skip 1
      return s.add [.quoted [c]]
  | some '$' => do
    skip 1
    return s.add [← dollar nested false]
  | some c =>
    if c = '\x60' then
      skip 1
      return s.add [← backQuote nested false]
    else if endsWord c then return s.finish
    else return s.add [.plain (← takeOrdinary)]

/-- Reads the next piece between double quotes. -/
def doubledStep (start : Nat) (s : Reading) : Reader (Reading ⊕ Word) := do
  match ← peek? with
  | none => failSince start (.unclosed "\"")
  | some '"' => do
    skip 1
    return s.finish
  | some '\\' => return s.add [← quotedEscape ['\\', '$', '"', '\x60']]
  | some '$' => do
    skip 1
    return s.add [← dollar nested true]
  | some c =>
    if c = '\x60' then
      skip 1
      return s.add [← backQuote nested true]
    else return s.add [.quoted (← takeRun isOrdinaryQuoted)]

/-- Reads the next piece in braces that do not stand in double quotes. -/
def bracedStep (start : Nat) (closing : Char) (s : Reading) : Reader (Reading ⊕ Word) := do
  match ← peek? with
  | none => failSince start (.unclosed (String.singleton closing))
  | some '\x27' => do
    let start := (← get).line
    skip 1
    return s.add [← singleQuoted start]
  | some '"' => do
    skip 1
    return s.add (doubledPieces (← nested.pieces .doubled))
  | some '\\' => do
    skip 1
    match ← rest with
    | [] => return s.add [.quoted ['\\']]
    | c :: _ => do
      skip 1
      return s.add [.quoted [c]]
  | some '$' => do
    skip 1
    return s.add [← dollar nested false]
  | some c => do
    skip 1
    if c = '\x60' then return s.add [← backQuote nested false]
    else if c = closing then return s.finish
    else return s.add [.plain [c]]

/-- Reads the next piece in the parentheses of a group. -/
def groupedStep (start : Nat) (s : Reading) : Reader (Reading ⊕ Word) := do
  match ← peek? with
  | some '(' => do
    skip 1
    return .inl { s with pieces := .plain ['('] :: s.pieces, depth := s.depth + 1 }
  | some ')' =>
    if s.depth = 0 then bracedStep nested start ')' s
    else do
      skip 1
      return .inl { s with pieces := .plain [')'] :: s.pieces, depth := s.depth - 1 }
  | _ => bracedStep nested start ')' s

/-- Reads the next piece in braces that stand in double quotes. -/
def bracedQuotedStep (start : Nat) (s : Reading) : Reader (Reading ⊕ Word) := do
  match ← peek? with
  | none =>
    if !s.inQuotes && (← isRich) then failSince start (.unclosed "\x7d")
    else failSince start (.unclosed "\"")
  | some '"' => do
    skip 1
    return .inl { s with inQuotes := !s.inQuotes }
  | some '\\' => return s.add [← quotedEscape ['\\', '$', '"', '\x60', '\x7d']]
  | some '$' => do
    skip 1
    return s.add [← dollar nested true]
  | some c => do
    if c = '\x60' then
      skip 1
      return s.add [← backQuote nested true]
    else if c = '\x7d' then
      skip 1
      if s.inQuotes then return s.add [.quoted [c]] else return s.finish
    else return s.add [.quoted (← takeRun fun c => isOrdinaryQuoted c && c != '\x7d')]

/-- Reads the next piece of an expression. -/
def expressionStep (start : Nat) (s : Reading) : Reader (Reading ⊕ Word) := do
  match ← peek? with
  | none => failSince start (.unclosed "))")
  | some '\\' => return s.add [← quotedEscape ['\\', '$', '"', '\x60']]
  | some '$' => do
    skip 1
    return s.add [← dollar nested true]
  | some ')' => do
    skip 1
    if s.depth > 0 then
      return .inl { s with pieces := .quoted [')'] :: s.pieces, depth := s.depth - 1 }
    match ← peek? with
    | some ')' => do
      skip 1
      return s.finish
    | _ =>
      if ← isRich then fail .noExpression
      return s.add [.quoted [')']]
  | some c => do
    skip 1
    if c = '\x60' then return s.add [← backQuote nested true]
    else if c = '(' then
      return .inl { s with pieces := .quoted ['('] :: s.pieces, depth := s.depth + 1 }
    else if c = '"' && (← isRich) then return .inl s
    else return s.add [.quoted [c]]

/-- Reads the next piece of the text of a redirection. -/
def documentStep (s : Reading) : Reader (Reading ⊕ Word) := do
  match ← peek? with
  | none => return s.finish
  | some '\\' => return s.add [← quotedEscape ['\\', '$', '\x60']]
  | some '$' => do
    skip 1
    return s.add [← dollar nested true]
  | some c =>
    if c = '\x60' then
      skip 1
      return s.add [← backQuote nested true]
    else
      return s.add [.quoted (← takeRun fun c => c != '\\' && c != '$' && c != '\x60')]

/-- Reads pieces up to where they end. -/
def pieces (surroundings : Surroundings) : Reader Word := do
  let start := (← get).line
  repeatAlong { pieces := [], inQuotes := false, depth := 0 } fun s => match surroundings with
    | .bare => bareStep nested s
    | .doubled => doubledStep nested start s
    | .braced false => bracedStep nested start '\x7d' s
    | .braced true => bracedQuotedStep nested start s
    | .expression => expressionStep nested start s
    | .document => documentStep nested s
    | .bracketed => bracedStep nested start ']' s
    | .grouped => groupedStep nested start s

/-- A word with neighbouring pieces of plain text made one. -/
def mergePlain : Word → Word
  | [] => []
  | .plain r :: rest =>
    match mergePlain rest with
    | .plain t :: rest => .plain (r ++ t) :: rest
    | rest => .plain r :: rest
  | piece :: rest => piece :: mergePlain rest

end Reader

end MapAudit.Script
