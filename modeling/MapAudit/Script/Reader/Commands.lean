import MapAudit.Script.Reader.Words

/-! # Reading commands

    Commands are read token by token. What may come next is decided by the next
    token alone, which can be pushed back to be read once more. Words are
    reserved only where a reader asks for that.

    `unit?` reads the commands of one line, or of as many lines as they need, so
    that a script can be run as far as it makes sense.
-/

namespace MapAudit.Script

namespace Reader

variable (nested : Nested)

/-! ## Texts of redirections -/

/-- Whether a line is joined with the next one: it ends with a backslash that is
    not taken by another one. -/
def isJoined (l : Raw) : Bool :=
  (l.reverse.takeWhile (· == '\\')).length % 2 == 1

/-- The lines of a text up to the one that ends it, the number of characters of
    all of them, and whether the end was found; at most `n` lines. -/
def linesUpTo (d : Document) : (n : Nat) → (joined : Bool) → Raw → Raw × Nat × Bool
  | 0, _, _ => ([], 0, false)
  | _ + 1, _, [] => ([], 0, false)
  | n + 1, joined, r =>
    let l := r.takeWhile (· != '\n')
    let after := r.drop (l.length + 1)
    let length := r.length - after.length
    let shown := if d.isIndented && !joined then l.dropWhile (· == '\t') else l
    if shown = d.delimiter && !joined then ([], length, true)
    else
      let here := if length = l.length then shown else shown ++ ['\n']
      let (more, total, found) := linesUpTo d n (!d.isQuoted && isJoined l) after
      (here ++ more, length + total, found)

/-- Reads the text of a redirection. -/
def document (d : Document) : Reader Unit := do
  let start := (← get).line
  let r ← rest
  let (text, length, found) := linesUpTo d (r.length + 1) false r
  skip length
  if !found && (← isRich) then
    let said := "warning: here-document at line " ++ Raw.ofNat d.line
      ++ " delimited by end-of-file (wanted \x60" ++ d.delimiter ++ "')"
    modify fun c => { c with remarks := c.remarks ++ [(c.line, said)] }
  let w ← if d.isQuoted then pure [.quoted text] else within text start (nested.pieces .document)
  modify fun c => { c with documents := (d.number, w, text) :: c.documents }

/-- Reads the texts of the redirections of the line that has ended. -/
def documents : Reader Unit := do
  let pending := (← get).pending
  modify fun c => { c with pending := [] }
  pending.forM (document nested)

/-! ## Tokens -/

/-- Number of characters of a comment. -/
def commentLength (r : Raw) : Nat :=
  (r.takeWhile (· != '\n')).length

/-- Goes over blanks and comments. -/
def skipBlanks : Reader Unit :=
  repeatAlong () fun _ => do
    match ← peek? with
    | some ' ' | some '\t' => do
      skip 1
      return .inl ()
    | some '#' => do
      skip (commentLength (← rest))
      return .inr ()
    | _ => return .inr ()

/-- Reads an operator that begins with a character, which is read already: the
    first of the given ones that goes on like the text does. -/
def operatorAfter (c : Char) (longer : List String) : Reader Token := do
  skipJoins
  let r ← rest
  match longer.find? fun t => t.toList.isPrefixOf (c :: r) with
  | some t => do
    skip (t.length - 1)
    return .operator t
  | none => return .operator (String.singleton c)

/-- Reads the rest of a redirection of a stream, from its first character on. -/
def redirectionToken (stream : StreamName) : Reader Token := do
  let rich ← isRich
  let c ← next?
  let token (kind : RedirectionKind) (text : String) : Reader Token :=
    return .redirection stream kind text
  if c = some '>' then
    if ← skipIf '>' then token (.file .append) ">>"
    else if ← skipIf '|' then token (.file .replace) ">|"
    else if ← skipIf '&' then token (.copy false) ">&"
    else token (.file .write) ">"
  else
    if ← skipIf '<' then
      if ← skipIf '-' then token (.document true) "<<-"
      else if rich && (← skipIf '<') then token .word "<<<"
      else token (.document false) "<<"
    else if ← skipIf '&' then token (.copy true) "<&"
    else if ← skipIf '>' then token (.file .both) "<>"
    else token (.file .read) "<"

/-- The name between braces, perhaps with an index. -/
def heldName? (r : Raw) : Option Raw :=
  match r with
  | '\x7b' :: rest =>
    let inner := rest.dropLast
    let index := inner.dropWhile inName
    let isIndex := index.isEmpty || index.head? = some '[' && index.getLast? = some ']'
    if rest.getLast? = some '\x7d' && isName (inner.takeWhile inName) && isIndex then some inner
    else none
  | _ => none

/-- Reads a word or the redirection that begins like one. -/
def wordToken : Reader Token := do
  let before ← rest
  let w := mergePlain (← nested.pieces .bare)
  let next ← peek?
  if next = some '<' || next = some '>' then
    match w with
    | [] => return ← redirectionToken .usual
    | [.plain r] =>
      match Raw.toNat? r, heldName? r with
      | some n, _ =>
        if r.length = 1 || (← isRich) then return ← redirectionToken (.number n)
      | none, some name =>
        if ← isRich then return ← redirectionToken (.held name)
      | none, none => pure ()
    | _ => pure ()
  return .word w (← textSince before)

/-- Reads a token from the text. -/
def scan : Reader Token := do
  skipBlanks
  modify fun c => { c with startLine := c.line }
  let rich ← isRich
  match ← peek? with
  | none => do
    documents nested
    return .endOfText
  | some '\n' => do
    skip 1
    documents nested
    return .newline
  | some '&' => do
    if rich && "&>".toList.isPrefixOf (← rest) then
      skip 2
      if ← skipIf '>' then return .redirection .usual (.bothFile .append) "&>>"
      return .redirection .usual (.bothFile .write) "&>"
    skip 1
    operatorAfter '&' ["&&"]
  | some '|' => do
    skip 1
    operatorAfter '|' (if rich then ["||", "|&"] else ["||"])
  | some ';' => do
    skip 1
    operatorAfter ';' (if rich then [";;&", ";;", ";&"] else [";;"])
  | some '(' => do
    skip 1
    return .operator "("
  | some ')' => do
    skip 1
    return .operator ")"
  | some _ => wordToken nested

/-- The text that a token stands for where a command begins. -/
def aliasOf? (c : Cursor) (used : List Raw) : Token → Option (Raw × Raw)
  | .word w _ =>
    match Word.bareText? w with
    | some r =>
      if used.contains r || (Token.reservedWords c.dialect).contains (String.ofList r) then none
      else (c.aliases.lookup r).map fun text => (r, text)
    | none => none
  | _ => none

/-- Reads a token from the text. Where a command begins, words are replaced by what
    they stand for, each of them once. -/
def scanReplaced (begins : Bool) : Reader Token := do
  let first ← scan nested
  if !begins || (← get).aliases.isEmpty then return first
  repeatAlong (first, ([] : List Raw)) fun (t, used) => do
    match aliasOf? (← get) used t with
    | none => return .inr t
    | some (name, text) => do
      modify fun c => { c with rest := text ++ c.rest, room := c.room + text.length }
      return .inl (← scan nested, name :: used)

/-- Reads the next token. Words that are reserved are told if `reserves` says so,
    and ends of lines are passed over if `skipsLines` does. -/
def token (reserves skipsLines : Bool) : Reader Token := do
  let c ← get
  let first ← if c.isPushed then pure c.token else scanReplaced nested reserves
  modify fun c => { c with isPushed := false }
  let t ← if skipsLines then
      repeatAlong first fun t => match t with
        | .newline => return .inl (← scanReplaced nested reserves)
        | t => return .inr t
    else pure first
  let t := match t with
    | .word w _ =>
      match Word.bareText? w with
      | some r =>
        let text := String.ofList r
        if reserves && (Token.reservedWords c.dialect).contains text then .reserved text else t
      | none => t
    | t => t
  modify fun c => { c with token := t }
  return t

/-- Pushes the last token back. -/
def pushBack : Reader Unit :=
  modify fun c => { c with isPushed := true }

/-- Fails on the last token. -/
def failOn {α : Type} (t : Token) (expected : Option String) : Reader α :=
  fail (.unexpected t expected)

/-- The name of a reserved word or of an operator in messages. -/
def named (text : String) : String :=
  "\"" ++ text ++ "\""

/-- Reads a reserved word that must come next. -/
def expectReserved (text : String) (reserves skipsLines : Bool) : Reader Unit := do
  let t ← token nested reserves skipsLines
  if t.isReserved text then return () else failOn t (some (named text))

/-! ## Redirections -/

/-- Reads what a redirection leads to. -/
def redirectionTarget (stream : StreamName) (kind : RedirectionKind) : Reader Redirection := do
  let line := (← get).line
  let t ← token nested false false
  let ofStream (r : Redirection) : Redirection := match stream with
    | .held name => .held name r
    | .usual | .number _ => r
  match t with
  | .word w written =>
    match kind with
    | .file .read => return ofStream (.toFile (stream.orElse 0) .read w written)
    | .file .both => return ofStream (.toFile (stream.orElse 0) .both w written)
    | .file mode => return ofStream (.toFile (stream.orElse 1) mode w written)
    | .bothFile mode => return .bothToFile mode w written
    | .copy true => return ofStream (.copy (stream.orElse 0) true w written)
    | .copy false => return ofStream (.copy (stream.orElse 1) false w written)
    | .word =>
      return ofStream (.fromText (stream.orElse 0) (w ++ [.quoted ['\n']]) ("<<< " ++ written) none)
    | .document isIndented => do
      let c ← get
      let d : Document := {
        number := c.opened, delimiter := Word.literalText w, isQuoted := Word.hasQuotes w
        isIndented, line }
      set { c with opened := c.opened + 1, pending := c.pending ++ [d] }
      let (content, text) := (c.known.lookup d.number).getD ([], [])
      let mark := if d.isQuoted then '\x27' :: d.delimiter ++ ['\x27'] else d.delimiter
      let written := (if isIndented then "<<-" else "<<").toList ++ mark
      return ofStream (.fromText (stream.orElse 0) content written (some (text ++ d.delimiter)))
  | t => failOn t none

/-- Reads redirections. -/
def redirections : Reader (List Redirection) :=
  repeatAlong [] fun done => do
    match ← token nested true false with
    | .redirection stream kind _ => return .inl (done ++ [← redirectionTarget nested stream kind])
    | _ => do
      pushBack
      return .inr done

/-! ## Assignments -/

/-- The name at the start of an assignment, whether it adds to a value, and the
    pieces of the value. -/
def assignment? (d : Dialect) (w : Word) : Option Assignment :=
  match w with
  | .plain r :: pieces =>
    let name := r.takeWhile inName
    if !isName name then none
    else match d, r.drop name.length with
      | _, '=' :: value => some (.one name [] false (.plain value :: pieces))
      | .bash, '+' :: '=' :: value => some (.one name [] true (.plain value :: pieces))
      | .bash, '[' :: more =>
        match splitWord ']' (.plain more :: pieces) with
        | (index, some (.plain ('=' :: value) :: pieces)) =>
          some (.one name index false (.plain value :: pieces))
        | (index, some (.plain ('+' :: '=' :: value) :: pieces)) =>
          some (.one name index true (.plain value :: pieces))
        | _ => none
      | _, _ => none
  | _ => none

/-- An element of an array: its index, if it has one, and its value. -/
def element (w : Word) : Word × Word :=
  match w with
  | .plain ('[' :: more) :: pieces =>
    match splitWord ']' (.plain more :: pieces) with
    | (index, some (.plain ('=' :: value) :: pieces)) => (index, .plain value :: pieces)
    | _ => ([], w)
  | w => ([], w)

/-- Reads the elements of an array up to the closing parenthesis, and how they are
    written. -/
def elements : Reader (List (Word × Word) × List Raw) := do
  let start := (← get).line
  repeatAlong ([], []) fun ((done : List (Word × Word)), (texts : List Raw)) => do
    match ← token nested false true with
    | .word w written => return .inl (done ++ [element w], texts ++ [written])
    | .operator ")" => return .inr (done, texts)
    | .endOfText => failSince start .unclosedElements
    | t => fail (.badElement t)

/-! ## Commands -/

/-- Whether a name has a command that cannot be defined anew. -/
def isFixedName (r : Raw) : Bool :=
  [":", ".", "break", "continue", "eval", "exec", "exit", "export", "local", "readonly", "return",
    "set", "shift", "times", "trap", "unset"].contains (String.ofList r)

/-- A command made of words, as far as it was read. -/
structure SimpleParts where
  /-- The assignments. -/
  assignments : List Assignment
  /-- The words. -/
  words : List Word
  /-- The redirections. -/
  redirections : List Redirection
  /-- The line that the command is said to be in. -/
  line : Nat
  /-- How its parts are written, the last one first. -/
  written : List Raw

namespace SimpleParts

/-- The parts with another one, which is written in some way. -/
def noting (p : SimpleParts) (d : Dialect) (r : Raw) : SimpleParts :=
  match d with
  | .sh => p
  | .bash => { p with written := r :: p.written }

/-- The command that the parts make up. -/
def command (p : SimpleParts) : Command :=
  .simple p.line ([' '].intercalate p.written.reverse) p.assignments p.words p.redirections

end SimpleParts

/-- Whether nothing but one part of a command was read. -/
def SimpleParts.isFirst (p : SimpleParts) : Bool :=
  p.assignments.length + p.words.length + p.redirections.length = 1

/-- Reads what a name is defined as. -/
def definition (command : (reserves skipsLines : Bool) → Reader Command) (name : Raw) :
    Reader Command := do
  let line := (← get).line
  let body ← command true true
  match ← isRich, body with
  | true, .simple _ _ _ _ _ => do failOn (← get).token none
  | _, body => return .define line name body

/-- The name that a word assigns the elements of an array to, which stand after
    it, and whether they are added to others. -/
def arrayName? (w : Word) : Reader (Option (Raw × Bool)) := do
  if !(← isRich) then return none
  match ← rest, assignment? .bash w with
  | '(' :: _, some (.one name [] adds [.plain []]) => return some (name, adds)
  | _, _ => return none

/-- Reads a command made of words, whose first token was pushed back. -/
def simple (command : (reserves skipsLines : Bool) → Reader Command) : Reader Command := do
  let line := (← get).line
  let d := (← get).dialect
  let start : SimpleParts := {
    assignments := [], words := [], redirections := [], line, written := [] }
  repeatAlong start fun (p : SimpleParts) => do
    let t ← token nested false false
    let c ← get
    let p := if d = .bash && p.isFirst then
        { p with line := if t matches .newline then c.startLine else c.line }
      else p
    match t with
    | .word w written =>
      match ← arrayName? w with
      | some (name, adds) => do
        skip 1
        let (found, texts) ← elements nested
        let list := [' '].intercalate texts
        let a := Assignment.several name adds found list
        let words := if p.words.isEmpty then [] else p.words ++ [[.plain name]]
        let p := p.noting d (written ++ '(' :: list ++ [')'])
        return .inl { p with assignments := p.assignments ++ [a], words }
      | none =>
        let p := p.noting d written
        match if p.words.isEmpty then assignment? d w else none with
        | some a => return .inl { p with assignments := p.assignments ++ [a] }
        | none => return .inl { p with words := p.words ++ [w] }
    | .redirection stream kind _ => do
      let r ← redirectionTarget nested stream kind
      return .inl { p with redirections := p.redirections ++ [r] }
    | t =>
      match t, p.words with
      | .operator "(", [w] =>
        if p.assignments.isEmpty && p.redirections.isEmpty then
          let t ← token nested false false
          if !t.isOperator ")" then failOn t (some (named ")"))
          match Word.bareText? w with
          | some name =>
            if d = .sh && (!isName name || isFixedName name) then fail .badDefinition
            return .inr (← definition command name)
          | none => fail .badDefinition
        pushBack
        return .inr p.command
      | _, _ => do
        pushBack
        return .inr p.command

/-- Reads a condition and what depends on it, after the word `if`. -/
def choice : Reader Command := do
  let parts ← repeatAlong [] fun (done : List (List Command × List Command)) => do
    let condition ← nested.list false
    expectReserved nested "then" false false
    let body ← nested.list false
    let done := done ++ [(condition, body)]
    if (← token nested false false).isReserved "elif" then return .inl done else return .inr done
  let otherwise ← if (← get).token.isReserved "else" then nested.list false
    else do
      pushBack
      pure []
  expectReserved nested "fi" false false
  match parts.foldr (fun (condition, body) otherwise => [.choice condition body otherwise])
    otherwise with
  | [c] => return c
  | _ => fail .tooDeep

/-- Reads what is repeated. -/
def loopBody : Reader (List Command) := do
  let body ← nested.list false
  expectReserved nested "done" false false
  return body

/-- Reads a condition and what is repeated under it. -/
def loop (outcome : Bool) : Reader Command := do
  let condition ← nested.list false
  expectReserved nested "do" false false
  return .loop outcome condition (← loopBody nested)

/-- Reads words up to the end of a line or a semicolon, and how they are written. -/
def wordsOfLine : Reader (List Word × Raw) :=
  repeatAlong ([], []) fun ((done : List Word), (texts : List Raw)) => do
    match ← token nested false false with
    | .word w written => return .inl (done ++ [w], texts ++ [written])
    | .newline | .operator ";" => return .inr (done, [' '].intercalate texts)
    | t => failOn t none

/-- Reads an expression between double parentheses, of which the first are read
    already. -/
def parenthesized : Reader Word :=
  nested.pieces .expression

/-- How the three expressions are written that a text has between semicolons. -/
def expressionTexts (r : Raw) : List Raw :=
  (r.splitOn ';').map fun part =>
    let shown := part.dropWhile fun c => c = ' ' || c = '\t' || c = '\n'
    if shown.isEmpty then ['1'] else shown

/-- Reads what is repeated as long as an expression is true, after the first two
    parentheses. -/
def count (line : Nat) : Reader Command := do
  let before ← rest
  let w ← parenthesized nested
  let written := expressionTexts ((← textSince before).dropLast.dropLast)
  let text := w.map fun piece => match piece with
    | .quoted r => .plain r
    | piece => piece
  let (start, others) := splitWord ';' (mergePlain text)
  let (test, next) := splitWord ';' (others.getD [])
  let t ← token nested true true
  let t ← if t.isOperator ";" then token nested true true else pure t
  if t.isReserved "do" then
    return .count line start test (next.getD []) written (← loopBody nested)
  else if t.isReserved "\x7b" then
    let body ← nested.list false
    expectReserved nested "\x7d" false false
    return .count line start test (next.getD []) written body
  else failOn t none

/-- Reads the words that a name stands for one after another. Without words the
    arguments of the script are meant. -/
def wordsOfName : Reader (List Word × Raw) := do
  let t ← token nested true true
  if t.isReserved "in" then wordsOfLine nested
  else
    if !t.isOperator ";" then pushBack
    return ([[.value ['@'] true]], "\"$@\"".toList)

/-- Reads a name, the words it stands for, and what is repeated for each. -/
def each (line : Nat) : Reader Command := do
  let t ← token nested false false
  if (← isRich) && t.isOperator "(" && (← rest).head? == some '(' then
    skip 1
    return ← count nested line
  match t with
  | .word w written =>
    let name := (Word.bareText? w).getD []
    if !isName name then
      fail (.badLoopName written)
    let (words, texts) ← wordsOfName nested
    let t ← token nested true true
    if t.isReserved "do" then
      return .each line name words texts (← loopBody nested)
    else failOn t (some (named "do"))
  | t => if ← isRich then failOn t none else fail (.badLoopName [])

/-- Reads a name, the words that are offered for it, and what is done for those that
    are picked. -/
def offer (line : Nat) : Reader Command := do
  match ← token nested false false with
  | .word w _ => do
    let (words, texts) ← wordsOfName nested
    let t ← token nested true true
    if !t.isReserved "do" then failOn t none
    return .offer line ((Word.bareText? w).getD []) words texts (← loopBody nested)
  | t => failOn t none

/-- Reads patterns, of which the first is the last token, and how they are written. -/
def patterns : Reader (List Word × Raw) :=
  repeatAlong ([], []) fun ((done : List Word), (texts : List Raw)) => do
    let t := (← get).token
    let w := match t with
      | .word w _ => w
      | .reserved r => [.plain r.toList]
      | _ => []
    let done := done ++ [w]
    let texts := texts ++ [t.written]
    let t ← token nested false false
    if t.isOperator "|" then
      let _ ← token nested false false
      return .inl (done, texts)
    else if t.isOperator ")" then return .inr (done, " | ".toList.intercalate texts)
    else failOn t (some (named ")"))

/-- Reads a word, patterns and what is done for them. -/
def select (line : Nat) : Reader Command := do
  match ← token nested false false with
  | .word w written => do
    expectReserved nested "in" true true
    let arms ← repeatAlong [] fun (done : List Arm) => do
      let t ← token nested true true
      if t.isReserved "esac" then return .inr done
      if t.isOperator "(" then
        let _ ← token nested false false
      if (← isRich) && t matches .endOfText then failOn t none
      let (ps, texts) ← patterns nested
      let body ← nested.list true
      let t ← token nested true true
      if t.isReserved "esac" then return .inr (done ++ [(ps, texts, body, .leave)])
      if t.isOperator ";;" then return .inl (done ++ [(ps, texts, body, .leave)])
      if t.isOperator ";&" then return .inl (done ++ [(ps, texts, body, .runOn)])
      if t.isOperator ";;&" then return .inl (done ++ [(ps, texts, body, .lookOn)])
      failOn t (some (named ";;"))
    return .select line w written arms
  | t => failOn t (some "word")

/-! ## Conditions in double brackets -/

/-- Whether a word asks a question about one word. -/
def asksAboutOne (r : Raw) : Bool :=
  match r with
  | ['-', c] => "abcdefghknoprstuvwxzGLNORS".toList.contains c
  | _ => false

/-- Whether a word asks a question about two words. -/
def asksAboutTwo (r : Raw) : Bool :=
  ["=", "==", "!=", "=~", "<", ">", "-eq", "-ne", "-lt", "-le", "-gt", "-ge", "-nt", "-ot",
    "-ef"].contains (String.ofList r)

/-- Reads the right side of a search for a regular expression: a word in which
    some operators stand for themselves. -/
def expressionWord : Reader Word := do
  skipBlanks
  let w ← repeatAlong ([], 0) fun ((done : Word), (depth : Nat)) => do
    let w ← nested.pieces .bare
    let done := done ++ w
    match ← rest with
    | '(' :: _ => do
      skip 1
      return .inl (done ++ [.plain ['(']], depth + 1)
    | ')' :: _ =>
      if depth = 0 then return .inr done
      skip 1
      return .inl (done ++ [.plain [')']], depth - 1)
    | '|' :: '|' :: _ =>
      if depth = 0 then return .inr done
      skip 1
      return .inl (done ++ [.plain ['|']], depth)
    | '|' :: _ => do
      skip 1
      return .inl (done ++ [.plain ['|']], depth)
    | c :: _ =>
      if depth > 0 then
        skip 1
        return .inl (done ++ [.plain [c]], depth)
      return .inr done
    | [] => return .inr done
  return mergePlain w

/-- The text of a token that may be an operator between two words. -/
def questionOf : Token → Option Raw
  | .word w _ => Word.bareText? w
  | .redirection .usual (.file .read) _ => some ['<']
  | .redirection .usual (.file .write) _ => some ['>']
  | _ => none

/-- Reads something where groups count in patterns, or where they do not. -/
def withGroups {α : Type} (groups : Bool) (r : Reader α) : Reader α := do
  let before := (← get).groups
  modify fun c => { c with groups }
  let a ← r
  modify fun c => { c with groups := before }
  return a

/-- Whether a token closes double brackets. -/
def endsAsking : Token → Bool
  | .word w _ => Word.bareText? w = some "]]".toList
  | _ => false

/-- Refuses a token in double brackets. `before` and `after` are said around the token, or
    `plain` alone where it is a word, perhaps of the line that the brackets begin in. -/
def failAsking {α : Type} (t : Token) (before after plain : String) (first : Option Nat := none) :
    Reader α := do
  let c ← get
  let shown : Option Raw := match t with
    | .word _ r => if endsAsking t then some r else none
    | .endOfText => none
    | t => some t.written
  let line := if t matches .newline then c.startLine else c.line
  let said : Raw := match shown with
    | some r => before ++ "\x60" ++ r ++ "'" ++ after
    | none => plain
  let left := if t matches .newline then 0 else (c.rest.takeWhile (· ≠ '\n')).length
  throw {
    line, startLine := line
    cause := .badCondition (if said.isEmpty then [] else [(first.getD line, said)]) left }

/-- Reads a condition in parentheses, of which the first is read already. -/
def conditionInside (conditions : Reader Condition) : Reader Condition := do
  let line := (← get).line
  let c ← tryCatch conditions fun fault => match fault.cause with
    | .badCondition said left =>
      throw { fault with cause := .badCondition (said ++ [(line, "expected \x60)'".toList)]) left }
    | _ => throw fault
  let t ← token nested false true
  if t.isOperator ")" then return c
  failAsking t "unexpected token " ", expected \x60)'" "expected \x60)'"

/-- Reads a condition that begins with a word. -/
def conditionFrom (w : Word) : Reader Condition := do
  let bare := (Word.bareText? w).getD []
  let t ← token nested false false
  if asksAboutOne bare then
    match t with
    | .word v _ => if !endsAsking t then return .about bare v
    | _ => pure ()
    failAsking t "unexpected argument " " to conditional unary operator"
      "unexpected argument to conditional unary operator"
  if endsAsking t || t.isOperator "&&" || t.isOperator "||" || t.isOperator ")" then
    pushBack
    return .about "-n" w
  match questionOf t with
  | some q =>
    if asksAboutTwo q then
      if q == "=~".toList then
        let here ← get
        let v ← withGroups false (expressionWord nested)
        if v.isEmpty || Word.bareText? v = some "]]".toList then
          set here
          failAsking (← token nested false false) "unexpected argument "
            " to conditional binary operator" "unexpected argument to conditional binary operator"
        return .between w q v
      let t ← withGroups true (token nested false false)
      match t with
      | .word v _ => if !endsAsking t then return .between w q v
      | _ => pure ()
      failAsking t "unexpected argument " " to conditional binary operator"
        "unexpected argument to conditional binary operator"
  | none => pure ()
  failAsking t "unexpected token " ", conditional binary operator expected"
    "conditional binary operator expected"

/-- Reads a condition that is not joined with another one. -/
def oneCondition (conditions : Reader Condition) : Reader Condition := do
  let t ← token nested false true
  match t with
  | .operator "(" => conditionInside nested conditions
  | .word w _ => if endsAsking t then failAsking .endOfText "" "" "" else conditionFrom nested w
  | t =>
    failAsking t "unexpected token " " in conditional command"
      "unexpected token in conditional command"

/-- Reads conditions up to the closing double bracket or parenthesis, at most `n`
    deep. -/
def conditionsUpTo : (n : Nat) → Reader Condition
  | 0 => fail .tooDeep
  | n + 1 => do
    let negated (c : Reader Condition) : Reader Condition := do
      let negations ← repeatAlong 0 fun (k : Nat) => do
        let t ← token nested false true
        match t with
        | .word w _ =>
          if Word.bareText? w = some ['!'] then return .inl (k + 1)
          pushBack
          return .inr k
        | _ => do
          pushBack
          return .inr k
      let c ← c
      return if negations % 2 = 1 then .negation c else c
    let conjunction : Reader Condition := do
      let first ← negated (oneCondition nested (conditionsUpTo n))
      repeatAlong first fun c => do
        let t ← token nested false true
        if t.isOperator "&&" then
          return .inl (.both c (← negated (oneCondition nested (conditionsUpTo n))))
        pushBack
        return .inr c
    let first ← conjunction
    repeatAlong first fun c => do
      let t ← token nested false true
      if t.isOperator "||" then return .inl (.either c (← conjunction))
      pushBack
      return .inr c

/-- The text of a condition, given how it is written. -/
def conditionText (written : Raw) (c : Condition) : Raw :=
  let words := (written.splitBy fun a b => endsWord a == endsWord b).map fun r =>
    if r.all fun c => c = ' ' || c = '\t' || c = '\n' then [' '] else r
  let shown := words.flatten.dropWhile (· = ' ')
  let question : Raw := match c with
    | .about "-n" _ => if "-n ".toList.isPrefixOf shown then [] else "-n ".toList
    | _ => []
  "[[ ".toList ++ question ++ shown

/-- Reads a condition after the opening double bracket. -/
def ask (line : Nat) : Reader Command := do
  let before ← rest
  let c ← conditionsUpTo nested 30
  let t ← token nested false true
  if endsAsking t then return .ask line (conditionText (← textSince before) c) c
  if t matches .endOfText then
    throw { line := (← get).line, startLine := line, cause := .unclosed "]]" }
  failAsking t "syntax error in conditional expression: unexpected token " ""
    "syntax error in conditional expression" (some line)

/-! ## Joined commands -/

/-- A command whose streams are redirected. -/
def withRedirections (line : Nat) (c : Command) (several : List Redirection) : Command :=
  match c, several with
  | c, [] => c
  | .subshell line body [], several => .subshell line body several
  | c, several => .redirected line [c] several

/-- Reads a definition after the word `function`. -/
def functionDefinition (command : (reserves skipsLines : Bool) → Reader Command) :
    Reader Command := do
  match ← token nested false false with
  | .word w _ => do
    let t ← token nested true true
    if t.isOperator "(" then
      let t ← token nested false false
      if !t.isOperator ")" then failOn t none
    else pushBack
    definition command ((Word.bareText? w).getD [])
  | t => failOn t none

/-- Whether a token begins a command that is not made of words. -/
def beginsCompound : Token → Bool
  | .operator "(" => true
  | .reserved text =>
    ["\x7b", "if", "while", "until", "for", "select", "case", "[["].contains text
  | _ => false

/-- Reads a command that is to go on beside the shell, and its name, which is the usual one
    unless a word stands before a command that is not made of words. -/
def coprocess (command : (reserves skipsLines : Bool) → Reader Command) (line : Nat) :
    Reader Command := do
  let first ← token nested true false
  pushBack
  match first with
  | .word w _ => do
    let here ← get
    let _ ← token nested true false
    if beginsCompound (← token nested true false) then
      pushBack
      return .coprocess line ((Word.bareText? w).getD []) (← command true false)
    set here
  | _ => pure ()
  return .coprocess line "COPROC" (← command true false)

/-- Reads one command. -/
def commandUpTo : (n : Nat) → (reserves skipsLines : Bool) → Reader Command
  | 0, _, _ => fail .tooDeep
  | n + 1, reserves, skipsLines => do
    let savedLine := (← get).line
    let t ← token nested reserves skipsLines
    let rich ← isRich
    let startLine := (← get).startLine
    let line := if rich then startLine else savedLine
    let finish (c : Command) : Reader Command := do
      return withRedirections line c (← redirections nested)
    match t with
    | .word _ _ | .redirection _ _ _ => do
      pushBack
      simple nested (commandUpTo n)
    | .operator "(" =>
      if rich && (← rest).head? == some '(' then
        let here ← get
        skip 1
        tryCatch (do
          let before ← rest
          let w ← parenthesized nested
          finish (.compute line w ("((" ++ (← textSince before)))) fun fault => do
          if fault.cause matches .noExpression then
            set here
            let body ← nested.list false
            let t ← token nested false false
            if !t.isOperator ")" then failOn t (some (named ")"))
            finish (.subshell line body [])
          else throw fault
      else
        let body ← nested.list false
        let t ← token nested false false
        if !t.isOperator ")" then failOn t (some (named ")"))
        finish (.subshell line body [])
    | .reserved "\x7b" => do
      let body ← nested.list false
      expectReserved nested "\x7d" false false
      finish (.redirected line body [])
    | .reserved "if" => do finish (← choice nested)
    | .reserved "while" => do finish (← loop nested true)
    | .reserved "until" => do finish (← loop nested false)
    | .reserved "for" => do finish (← each nested line)
    | .reserved "select" => do finish (← offer nested line)
    | .reserved "case" => do finish (← select nested line)
    | .reserved "[[" => do finish (← ask nested line)
    | .reserved "coproc" => coprocess nested (commandUpTo n) line
    | .reserved "function" => functionDefinition nested (commandUpTo n)
    | t => failOn t none

/-- Reads one command. -/
def command (reserves skipsLines : Bool) : Reader Command :=
  commandUpTo nested 100 reserves skipsLines

/-- A command whose error stream leads to the pipe as well. -/
def withErrors (c : Command) : Command :=
  .redirected 0 [c] [.copy 2 false [.plain ['1']] ['1']]

/-- What may stand before a pipeline. -/
structure PipelineStart where
  /-- How often its outcome is turned round. -/
  negations : Nat
  /-- Whether it is told how long it takes, and if so, whether just in short. -/
  timed : Option Bool

/-- Reads what stands before a pipeline in the richer dialect, the first token of
    which is pushed back. -/
def pipelineStart : Reader PipelineStart :=
  repeatAlong { negations := 0, timed := none } fun (start : PipelineStart) => do
    let t ← token nested true false
    if t.isReserved "!" then return .inl { start with negations := start.negations + 1 }
    if t.isReserved "time" then
      let isShort ← repeatAlong false fun isShort => do
        match ← token nested true false with
        | .word w _ =>
          if Word.bareText? w = some ['-', 'p'] then return .inl true
          if Word.bareText? w = some ['-', '-'] then return .inl isShort
          pushBack
          return .inr isShort
        | _ => do
          pushBack
          return .inr isShort
      return .inl { start with timed := some isShort }
    pushBack
    return .inr start

/-- Reads the stages of a pipeline. -/
def stages (first : Command) : Reader Command := do
  let stages ← repeatAlong [first] fun stages => do
    let t ← token nested false false
    if t.isOperator "|" then
      return .inl (stages ++ [← command nested true true])
    else if t.isOperator "|&" then
      let stages := stages.dropLast ++ (stages.getLast?.map withErrors).toList
      return .inl (stages ++ [← command nested true true])
    else do
      pushBack
      return .inr stages
  return match stages with
    | [c] => c
    | several => .pipeline several

/-- Reads commands with pipes between them. -/
def pipeline (reserves skipsLines : Bool) : Reader Command := do
  let t ← token nested reserves skipsLines
  if ← isRich then
    pushBack
    let start ← pipelineStart nested
    let isBare ← if start.timed.isSome then
        let t ← token nested true false
        pushBack
        pure (t.endsList || t matches .newline || t.isOperator ";" || t.isOperator "&")
      else pure false
    let whole ← if isBare then pure []
      else do
        let first ← command nested (start.negations > 0 || start.timed.isSome) false
        pure [← stages nested first]
    let whole := match start.timed with
      | some inShort => [.timed inShort whole]
      | none => whole
    match whole with
    | [c] =>
      return if start.negations % 2 = 1 then .negation c
        else if start.negations > 0 then .negation (.negation c) else c
    | _ => fail .tooDeep
  else if t.isReserved "!" then
    return .negation (← stages nested (← command nested true false))
  else
    pushBack
    stages nested (← command nested false false)

/-- Reads pipelines under conditions. -/
def andOr : Reader Command := do
  let first ← pipeline nested false false
  repeatAlong first fun c => do
    let t ← token nested false false
    if t.isOperator "&&" then return .inl (.both c (← pipeline nested true true))
    else if t.isOperator "||" then return .inl (.either c (← pipeline nested true true))
    else do
      pushBack
      return .inr c

/-- Reads commands up to a token that ends them, which is pushed back. Without
    any command that token must be allowed to come at once. -/
def list (mayBeEmpty : Bool) : Reader (List Command) :=
  repeatAlong [] fun (done : List Command) => do
    let t ← token nested true true
    pushBack
    if t matches .endOfText then return .inr done
    if (mayBeEmpty || !done.isEmpty) && t.endsList then return .inr done
    let c ← andOr nested
    let t ← token nested false false
    match t with
    | .operator "&" => return .inl (done ++ [.background c])
    | .operator ";" => return .inl (done ++ [c])
    | .newline => do
      pushBack
      return .inl (done ++ [c])
    | _ => do
      pushBack
      return .inr (done ++ [c])

/-- Reads the commands of a line. There are none at the end of the script. -/
def line? : Reader (Option (List Command)) := do
  repeatAlong [] fun (done : List Command) => do
    match ← token nested true false with
    | .newline => return .inr (some done)
    | .endOfText => return .inr (if done.isEmpty then none else some done)
    | _ => do
      pushBack
      let c ← andOr nested
      let t ← token nested false false
      match t with
      | .operator "&" => return .inl (done ++ [.background c])
      | .operator ";" => return .inl (done ++ [c])
      | .newline => return .inr (some (done ++ [c]))
      | .endOfText => do
        pushBack
        return .inr (some (done ++ [c]))
      | t => failOn t none

/-- Readers for what is nested at most `n` deep. -/
def nestedUpTo : (n : Nat) → Nested
  | 0 => { list := fun _ => fail .tooDeep, pieces := fun _ => fail .tooDeep }
  | n + 1 =>
    { list := fun mayBeEmpty => list (nestedUpTo n) mayBeEmpty
      pieces := fun surroundings => pieces (nestedUpTo n) surroundings }

/-- How deep a script may nest. -/
def maxDepth : Nat := 500

end Reader

/-- The word that a text is between double quotes. -/
def quotedWord (d : Dialect) (r : Raw) : Word :=
  let reader := Reader.pieces (Reader.nestedUpTo Reader.maxDepth) .document
  match reader.run (Cursor.atStart d r 1) with
  | .ok (w, _) => w
  | .error _ => [.quoted r]

/-- What reading from a place on comes to. -/
structure ReadUnit where
  /-- The commands of a line; there are none at the end of the script. -/
  commands : Option (List Command)
  /-- The place after them. -/
  cursor : Cursor

/-- Reads the commands of the next line of a script. -/
def readUnit (c : Cursor) : Except SyntaxFault ReadUnit := do
  let reader := Reader.line? (Reader.nestedUpTo Reader.maxDepth)
  let start := { c with opened := 0, pending := [], documents := [], known := [], remarks := [] }
  let (commands, after) ← reader.run start
  if after.opened = 0 then return { commands, cursor := after }
  let (commands, after) ← reader.run { start with known := after.documents }
  return { commands, cursor := after }

end MapAudit.Script
