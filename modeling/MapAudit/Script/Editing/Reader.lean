import MapAudit.Script.Editing.Basic
import MapAudit.Script.Regex.Reader
import MapAudit.Script.Raw

/-! # Reading edit scripts

    A script comes in parts, from arguments and files. A part is read character by
    character; what is wrong with it is told with the number of characters that
    were read, or with the number of the line.

    A text that an edit writes may go on in the next part, and blocks may be closed
    there.
-/

namespace MapAudit.Script

namespace Editing

/-- A block that was opened. -/
structure OpenBlock where
  /-- The number of the edit that opens it. -/
  index : Nat
  /-- The part of the script that it was opened in. -/
  origin : Origin
  /-- The line that it was opened in. -/
  line : Nat

/-- A script while it is read. -/
structure Reading where
  /-- Whether extended expressions are used. -/
  isExtended : Bool
  /-- Whether nothing but the text may be touched. -/
  isConfined : Bool
  /-- The part of the script that is being read. -/
  origin : Origin
  /-- The text that is left of it. -/
  rest : Raw
  /-- Number of characters that were read. -/
  used : Nat
  /-- The number of the line. -/
  line : Nat
  /-- The program so far. -/
  program : Program
  /-- The blocks that are open, last one first. -/
  blocks : List OpenBlock
  /-- The text so far of the last edit, if it goes on in the next part. -/
  pending : Option Raw

/-- Reader of edit scripts. -/
abbrev Reader := StateT Reading (Except Fault)

namespace Reader

/-! ## Characters -/

/-- Says what is wrong at the place that was reached. -/
def fail {α : Type} (r : String) : Reader α := do
  let s ← get
  let place := match s.origin with
    | .argument n => "-e expression #" ++ toString n ++ ", char " ++ toString s.used
    | .file name => "file " ++ String.ofList name ++ " line " ++ toString s.line
  throw { text := (place ++ ": " ++ r).toList, status := 1 }

/-- The next character. -/
def next : Reader (Option Char) := do
  let s ← get
  match s.rest with
  | [] => return none
  | c :: rest => do
    set { s with rest, used := s.used + 1, line := if c = '\n' then s.line + 1 else s.line }
    return some c

/-- Gives a character back. -/
def back (c : Option Char) : Reader Unit :=
  match c with
  | none => return ()
  | some c => modify fun s =>
    { s with
      rest := c :: s.rest
      used := s.used - 1
      line := if c = '\n' then s.line - 1 else s.line }

/-- The characters up to the first that is not of a kind. -/
def takeWhile (p : Char → Bool) : Reader Raw := do
  let s ← get
  let taken := s.rest.takeWhile p
  set { s with
    rest := s.rest.drop taken.length
    used := s.used + taken.length
    line := s.line + taken.count '\n' }
  return taken

/-- Whether a character is a blank. -/
def isBlank (c : Char) : Bool :=
  c = ' ' || c = '\t'

/-- Whether a character is a blank or ends a line. -/
def isSpace (c : Char) : Bool :=
  c = ' ' || ('\t' ≤ c && c ≤ '\x0d')

/-- The next character that is no blank. -/
def nextFilled : Reader (Option Char) := do
  let _ ← takeWhile isBlank
  next

/-- The number that begins with a character, which is given back if it is no
    digit. -/
def number (first : Option Char) : Reader Nat := do
  match first with
  | some c =>
    if c.isDigit then return (Raw.toNat? (c :: (← takeWhile Char.isDigit))).getD 0
    else do
      back first
      return 0
  | none => return 0

/-- Goes over the end of an edit. -/
def finishEdit : Reader Unit := do
  let c ← nextFilled
  match c with
  | some '\x7d' | some '#' => back c
  | none | some '\n' | some ';' => return ()
  | some _ => fail "extra characters after command"

/-- A label. -/
def label : Reader Raw := do
  let _ ← takeWhile isBlank
  takeWhile fun c => !isSpace c && c ≠ ';' && c ≠ '\x7d'

/-- The name of a file. -/
def fileName : Reader Raw := do
  let _ ← takeWhile isBlank
  let name ← takeWhile (· ≠ '\n')
  if name.isEmpty then
    fail "missing filename in r/R/w/W commands"
  let _ ← next
  return name

/-- Where in an expression a reader is: outside of brackets, or inside. -/
inductive Nesting where
  /-- Outside. -/
  | outside
  /-- Right behind the opening bracket, and perhaps a caret. -/
  | opening
  /-- Inside. -/
  | inside
  /-- Inside a class, which a mark ends. -/
  | kind (mark : Char)
  deriving DecidableEq, Repr

/-- Where a reader is after a character, which is the one before the text that is
    left. -/
def Nesting.after (c : Char) (rest : Raw) : Nesting → Nesting
  | .outside => if c = '[' then .opening else .outside
  | .opening =>
    if c = '^' then .opening else if c = '[' then opened rest else .inside
  | .inside => if c = ']' then .outside else if c = '[' then opened rest else .inside
  | .kind mark => if c = mark && rest.head? = some ']' then .opening else .kind mark
where
  /-- Where a reader is behind an opening bracket inside of brackets. -/
  opened (rest : Raw) : Nesting :=
    match rest.head? with
    | some ':' => .kind ':'
    | some '.' => .kind '.'
    | some '=' => .kind '='
    | _ => .inside

/-- The text up to a delimiter. A delimiter in it has a backslash before it, which
    is left out, or it stands in the brackets of an expression; `inRegex` says that
    the text is one, which has escapes for ends of lines. There is no text if the
    delimiter is missing. -/
def delimited? (delimiter : Char) (inRegex : Bool) : (n : Nat) → Nesting → Reader (Option Raw)
  | 0, _ => return none
  | n + 1, nesting => do
    let goOn (here : Raw) (nesting : Nesting) : Reader (Option Raw) := do
      return (← delimited? delimiter inRegex n nesting).map (here ++ ·)
    match ← next with
    | none => return none
    | some '\n' => do
      back (some '\n')
      return none
    | some c => do
      let isInside := nesting ≠ .outside
      if c = delimiter && !isInside then return some []
      else if c = '\\' && isInside then
        if (← get).rest.head? = some 'n' then
          let _ ← next
          goOn ['\n'] .inside
        else goOn [c] .inside
      else if c = '\\' then
        match ← next with
        | none => return none
        | some d =>
          goOn (if d = 'n' && inRegex then ['\n']
            else if d = delimiter then (if !inRegex && d = '&' then ['\\', d] else [d])
            else if d = '\n' then ['\n'] else ['\\', d]) .outside
      else do
        let rest := (← get).rest
        goOn [c] (if inRegex then nesting.after c rest else .outside)

/-- The text up to a delimiter, or else a complaint. -/
def delimited (delimiter : Char) (inRegex : Bool) (complaint : String) : Reader Raw := do
  match ← delimited? delimiter inRegex ((← get).rest.length + 1) .outside with
  | some r => return r
  | none => fail complaint

/-! ## Escapes -/

/-- The character that an escape stands for, and the text after it. The text begins
    behind the backslash. -/
def escaped? : Raw → Option (Char × Raw)
  | 'a' :: rest => some ('\x07', rest)
  | 'f' :: rest => some ('\x0c', rest)
  | 'r' :: rest => some ('\r', rest)
  | 't' :: rest => some ('\t', rest)
  | 'v' :: rest => some ('\x0b', rest)
  | 'c' :: c :: rest => some (Raw.wideByte (c.toUpper.toNat ^^^ 64), rest)
  | 'd' :: rest =>
    let digits := (rest.take 3).takeWhile Char.isDigit
    (Raw.toNat? digits).map fun n => (Raw.wideByte n, rest.drop digits.length)
  | 'o' :: rest =>
    let digits := (rest.take 3).takeWhile Raw.isOctal
    if digits.isEmpty then none
    else some (Raw.wideByte (Raw.octalValue digits), rest.drop digits.length)
  | 'x' :: rest =>
    let digits := (rest.take 2).takeWhile Raw.isHex
    if digits.isEmpty then none
    else some (Raw.wideByte (Raw.hexValue digits), rest.drop digits.length)
  | _ => none

/-- An expression without escapes of its own, at most `n` characters. -/
def plainRegex : (n : Nat) → Raw → Raw
  | 0, r => r
  | _ + 1, [] => []
  | n + 1, '\\' :: rest =>
    match escaped? rest, rest with
    | some ('\\', rest), _ => '\\' :: '\\' :: plainRegex n rest
    | some (c, rest), _ => c :: plainRegex n rest
    | none, c :: rest => '\\' :: c :: plainRegex n rest
    | none, [] => ['\\']
  | n + 1, c :: rest => c :: plainRegex n rest

/-- A text without escapes, at most `n` characters. -/
def plainText : (n : Nat) → Raw → Raw
  | 0, r => r
  | _ + 1, [] => []
  | n + 1, '\\' :: rest =>
    match escaped? rest, rest with
    | some (c, rest), _ => c :: plainText n rest
    | none, 'n' :: rest => '\n' :: plainText n rest
    | none, c :: rest => c :: plainText n rest
    | none, [] => []
  | n + 1, c :: rest => c :: plainText n rest

/-- Puts a character before some parts. -/
def consText (c : Char) : List Part → List Part
  | .text r :: rest => .text (c :: r) :: rest
  | parts => .text [c] :: parts

/-- The parts of a replacement, at most `n` of them. -/
def partsOf : (n : Nat) → Raw → List Part
  | 0, _ => []
  | _ + 1, [] => []
  | n + 1, '&' :: rest => .group 0 :: partsOf n rest
  | n + 1, '\\' :: rest =>
    match escaped? rest, rest with
    | some (c, rest), _ => consText c (partsOf n rest)
    | none, c :: rest =>
      let parts := partsOf n rest
      match c with
      | 'U' => .casing .upper :: parts
      | 'L' => .casing .lower :: parts
      | 'u' => .casing .upperNext :: parts
      | 'l' => .casing .lowerNext :: parts
      | 'E' => .casing .none :: parts
      | 'n' => consText '\n' parts
      | c =>
        if c.isDigit then .group (c.toNat - '0'.toNat) :: parts else consText c parts
    | none, [] => [.text ['\\']]
  | n + 1, c :: rest => consText c (partsOf n rest)

/-- The characters of one side of a transliteration, at most `n` of them. -/
def charactersOf (n : Nat) (r : Raw) : Raw :=
  Raw.rejoin (plainText n r)

/-! ## Addresses -/

/-- The search for an expression whose group with a number is asked for. -/
def search (r : Raw) (ignoresCase manyLines : Bool) (needed : Nat) : Reader Search := do
  if r.isEmpty then
    if ignoresCase || manyLines then fail "cannot specify modifiers on empty regexp"
    return { regex := none, ignoresCase }
  let isExtended := (← get).isExtended
  let flavor : RegexFlavor := {
    isExtended
    isLenient := false
    refusesBareClass := true
    refusesDoubled := !isExtended }
  match Regex.read flavor (Raw.rejoin (plainRegex (r.length + 1) r)) with
  | .error .bareClass => throw { text := RegexFault.bareClass.message.toList, status := 4 }
  | .error fault => fail fault.message
  | .ok e => do
    if e.groups < needed then
      fail ("invalid reference \\" ++ toString needed ++ " on \x60s' command's RHS")
    return { regex := some (if manyLines then e.byLines else e), ignoresCase }

/-- The search of an address, whose expression was read, with its marks. -/
def addressSearch (r : Raw) : (n : Nat) → (ignoresCase manyLines : Bool) → Reader Search
  | 0, ignoresCase, manyLines => search r ignoresCase manyLines 0
  | n + 1, ignoresCase, manyLines => do
    let c ← nextFilled
    match c with
    | some 'I' => addressSearch r n true manyLines
    | some 'M' => addressSearch r n ignoresCase true
    | c => do
      back c
      search r ignoresCase manyLines 0

/-- What was read for an address. -/
inductive Found where
  /-- The address of a line. -/
  | address (a : Address)
  /-- A distance from another line. -/
  | distance (e : RangeEnd)
  /-- Nothing. -/
  | nothing

/-- The address that begins with a character. -/
def address (c : Option Char) : Reader Found := do
  let matching (delimiter : Char) : Reader Found := do
    let r ← delimited delimiter true "unterminated address regex"
    return .address (.matching (← addressSearch r (← get).rest.length false false))
  match c with
  | some '/' => matching '/'
  | some '\\' => do
    match ← next with
    | some delimiter => matching delimiter
    | none => fail "unterminated address regex"
  | some '$' => return .address .last
  | some '+' => do return .distance (.after (← number (← nextFilled)))
  | some '~' => do return .distance (.multiple (← number (← nextFilled)))
  | some d =>
    if !d.isDigit then return .nothing
    let first ← number c
    let mark ← nextFilled
    if mark ≠ some '~' then
      back mark
      return .address (.line first)
    let step ← number (← nextFilled)
    return .address (if step = 0 then .line first else .every first step)
  | none => return .nothing

/-- The guard that begins with a character, and the character after it. -/
def guarded (c : Option Char) : Reader (Guard × Option Char) := do
  let (first, finish, c) ← match ← address c with
    | .nothing => pure (none, none, c)
    | .distance _ => fail "invalid usage of +N or ~N as first address"
    | .address first => do
      let c ← nextFilled
      let (finish, c) ← if c ≠ some ',' then pure (none, c) else do
        let finish ← match ← address (← nextFilled) with
          | .nothing => fail "unexpected \x60,'"
          | .distance finish => pure finish
          | .address (.line n) => pure (RangeEnd.line n)
          | .address (.every first _) => pure (.line first)
          | .address .last => pure .last
          | .address (.matching search) => pure (.matching search)
        pure (some finish, ← nextFilled)
      match first, finish with
      | .line 0, some (.matching _) => pure ()
      | .line 0, _ => fail "invalid usage of line address 0"
      | _, _ => pure ()
      pure (some first, finish, c)
  if c ≠ some '!' then return ({ first, finish, isNegated := false }, c)
  let c ← nextFilled
  if c = some '!' then fail "multiple \x60!'s"
  return ({ first, finish, isNegated := true }, c)

/-! ## Edits -/

/-- Puts an edit behind the others. -/
def emit (g : Guard) (e : Edit) : Reader Unit :=
  modify fun s => { s with program := { s.program with edits := s.program.edits.push (g, e) } }

/-- Refuses what reaches beyond the text where that is not wanted. -/
def refuseInSandbox : Reader Unit := do
  if (← get).isConfined then fail "e/r/w commands disabled in sandbox mode"

/-- Remembers a file that is written. -/
def noteFile (name : Raw) : Reader Unit :=
  modify fun s => { s with program := { s.program with files := s.program.files ++ [name] } }

/-- The text of an edit up to the end of a line that has no backslash before it. The
    answer says whether the part of the script ends first, behind a backslash. -/
def lineText : (n : Nat) → Reader (Raw × Bool)
  | 0 => return ([], false)
  | n + 1 => do
    match ← next with
    | none | some '\n' => return (['\n'], false)
    | some '\\' => do
      match ← next with
      | none => return (['\n'], true)
      | some c => do
        let (rest, goesOn) ← lineText n
        return ('\\' :: c :: rest, goesOn)
    | some c => do
      let (rest, goesOn) ← lineText n
      return (c :: rest, goesOn)

/-- The edit with another text. -/
def withText (r : Raw) : Edit → Edit
  | .append _ => .append r
  | .insert _ => .insert r
  | .change _ => .change r
  | e => e

/-- Reads the text of the last edit, behind what is there of it. A first character may
    be known already. -/
def fillText (start : Raw) (first : Option Char) : Reader Unit := do
  let (r, goesOn) ← lineText ((← get).rest.length + 1)
  let r := first.toList ++ r
  let text := start ++ plainText (r.length + 1) r
  modify fun s =>
    let edits := s.program.edits.modify (s.program.edits.size - 1) fun (g, e) => (g, withText text e)
    { s with
      program := { s.program with edits }
      pending := if goesOn then some text else none }

/-- Reads the text of an edit. -/
def textEdit (g : Guard) (e : Edit) : Reader Unit := do
  let c ← nextFilled
  if c.isNone then fail "expected \\ after \x60a', \x60c' or \x60i'"
  emit g e
  if c ≠ some '\\' then
    back c
    fillText [] none
  else
    match ← next with
    | none => modify fun s => { s with pending := some [] }
    | some '\n' => fillText [] none
    | c => fillText [] c

/-- The marks behind a substitution. -/
structure SubstitutionMarks where
  /-- Whether capital and small letters are alike. -/
  ignoresCase : Bool := false
  /-- Whether the text is taken line by line. -/
  manyLines : Bool := false
  /-- Whether all matches are replaced. -/
  isGlobal : Bool := false
  /-- Whether the result is written. -/
  prints : Bool := false
  /-- Whether the result is carried out as a command. -/
  executes : Bool := false
  /-- Whether the result is written before that. -/
  printsFirst : Bool := false
  /-- The number of the first match that is replaced. -/
  number : Option Nat := none
  /-- The file that the result is written to. -/
  file : Option Raw := none

/-- Reads the marks behind a substitution, at most `n` of them. -/
def substitutionMarks : (n : Nat) → SubstitutionMarks → Reader SubstitutionMarks
  | 0, marks => return marks
  | n + 1, marks => do
    let c ← nextFilled
    match c with
    | some 'i' | some 'I' => substitutionMarks n { marks with ignoresCase := true }
    | some 'm' | some 'M' => substitutionMarks n { marks with manyLines := true }
    | some 'e' => do
      refuseInSandbox
      substitutionMarks n { marks with executes := true }
    | some 'p' => do
      if marks.prints then fail "multiple \x60p' options to \x60s' command"
      substitutionMarks n { marks with prints := true, printsFirst := !marks.executes }
    | some 'g' => do
      if marks.isGlobal then fail "multiple \x60g' options to \x60s' command"
      substitutionMarks n { marks with isGlobal := true }
    | some 'w' => do
      refuseInSandbox
      let name ← fileName
      noteFile name
      return { marks with file := some name }
    | some '\x7d' | some '#' => do
      back c
      return marks
    | none | some '\n' | some ';' => return marks
    | some d => do
      if !d.isDigit then fail "unknown option to \x60s'"
      if marks.number.isSome then fail "multiple number options to \x60s' command"
      let k ← number c
      if k = 0 then fail "number option to \x60s' command may not be zero"
      substitutionMarks n { marks with number := some k }

/-- Reads a substitution. -/
def substitution : Reader Substitution := do
  let complaint := "unterminated \x60s' command"
  match ← next with
  | none => fail complaint
  | some delimiter => do
    let pattern ← delimited delimiter true complaint
    let replacement ← delimited delimiter false complaint
    let replacement := partsOf (replacement.length + 1) replacement
    let marks ← substitutionMarks ((← get).rest.length + 1) {}
    let needed := replacement.foldl (fun most part => match part with
      | .group n => max most n
      | _ => most) 0
    return {
      search := ← search pattern marks.ignoresCase marks.manyLines needed
      replacement
      number := marks.number.getD 1
      isGlobal := marks.isGlobal
      prints := marks.prints
      executes := marks.executes
      printsFirst := marks.printsFirst
      file := marks.file }

/-- Reads a transliteration. -/
def transliteration : Reader (List (Char × Char)) := do
  let complaint := "unterminated \x60y' command"
  match ← next with
  | none => fail complaint
  | some delimiter => do
    let source ← delimited delimiter false complaint
    let target ← delimited delimiter false complaint
    let source := charactersOf (source.length + 1) source
    let target := charactersOf (target.length + 1) target
    if source.length ≠ target.length then
      fail "strings for \x60y' command are different lengths"
    finishEdit
    return source.zip target

/-- Reads an edit that begins with a character and is for some lines. -/
def edit (g : Guard) (c : Char) : Reader Unit := do
  let simple (e : Edit) : Reader Unit := do
    finishEdit
    emit g e
  match c with
  | '#' => do
    if g.first.isSome then fail "comments don't accept any addresses"
    let s ← get
    let isStart := s.used = 1 && match s.origin with
      | .argument n => n = 1
      | .file _ => s.program.edits.isEmpty
    let r ← takeWhile (· ≠ '\n')
    if isStart && r.head? = some 'n' then
      modify fun s => { s with program := { s.program with isQuiet := true } }
  | '\x7b' => do
    modify fun s =>
      { s with blocks := { index := s.program.edits.size, origin := s.origin, line := s.line }
        :: s.blocks }
    emit g (.block 0)
  | '\x7d' => do
    match (← get).blocks with
    | [] => fail "unexpected \x60\x7d'"
    | b :: blocks => do
      if g.first.isSome then fail "\x60\x7d' doesn't want any addresses"
      finishEdit
      modify fun s =>
        let edits := s.program.edits.modify b.index fun (guard, _) => (guard, .block s.program.edits.size)
        { s with blocks, program := { s.program with edits } }
  | 'a' => textEdit g (.append [])
  | 'i' => textEdit g (.insert [])
  | 'c' => textEdit g (.change [])
  | ':' => do
    if g.first.isSome then fail ": doesn't want any addresses"
    let name ← label
    if name.isEmpty then fail "\":\" lacks a label"
    modify fun s =>
      { s with program := { s.program with
        labels := s.program.labels ++ [(name, s.program.edits.size)] } }
  | 'b' => do emit g (.jump .always (← label))
  | 't' => do emit g (.jump .ifReplaced (← label))
  | 'T' => do emit g (.jump .unlessReplaced (← label))
  | 'q' | 'Q' => do
    if g.finish.isSome then fail "command only uses one address"
    let status ← number (← nextFilled)
    finishEdit
    emit g (.quit (c = 'q') (status % 256))
  | 'l' => do
    let d ← nextFilled
    let width ← if d.any Char.isDigit then some <$> number d else do
      back d
      pure none
    finishEdit
    emit g (.list width)
  | 'r' => do
    refuseInSandbox
    emit g (.readFile (← fileName))
  | 'R' => do
    refuseInSandbox
    emit g (.readLine (← fileName))
  | 'w' => do
    refuseInSandbox
    let name ← fileName
    noteFile name
    emit g (.writeFile name)
  | 'W' => do
    refuseInSandbox
    let name ← fileName
    noteFile name
    emit g (.writeFirst name)
  | 's' => do emit g (.substitute (← substitution))
  | 'y' => do emit g (.transliterate (← transliteration))
  | 'v' => do
    let version ← label
    if version.head?.any fun c => '4' < c then fail "expected newer version of sed"
  | 'e' => do
    refuseInSandbox
    back (← nextFilled)
    emit g (.execute (← takeWhile (· ≠ '\n')))
  | '=' => simple .number
  | 'F' => simple .fileName
  | 'd' => simple .delete
  | 'D' => simple .deleteFirst
  | 'g' => simple .recall
  | 'G' => simple .recallBehind
  | 'h' => simple .keep
  | 'H' => simple .keepBehind
  | 'x' => simple .exchange
  | 'z' => simple .empty
  | 'n' => simple .next
  | 'N' => simple .nextBehind
  | 'p' => simple .print
  | 'P' => simple .printFirst
  | c => fail ("unknown command: \x60" ++ String.ofList [c] ++ "'")

/-- Reads the edits of a part of a script, at most `n` of them. -/
def edits : (n : Nat) → Reader Unit
  | 0 => return ()
  | n + 1 => do
    let _ ← takeWhile fun c => isSpace c || c = ';'
    match ← next with
    | none => return ()
    | c => do
      let (g, c) ← guarded c
      match c with
      | none => fail "missing command"
      | some c => do
        edit g c
        edits n

/-- Reads a part of a script. -/
def part (origin : Origin) (r : Raw) : Reader Unit := do
  modify fun s => { s with origin, rest := r, used := 0, line := 1 }
  match (← get).pending with
  | some start => fillText start none
  | none => pure ()
  edits (r.length + 1)

/-- Looks for what is missing at the end of a script. -/
def finishScript : Reader Unit := do
  match (← get).blocks with
  | b :: _ => do
    modify fun s => { s with origin := b.origin, used := 0, line := b.line }
    fail "unmatched \x60\x7b'"
  | [] => pure ()
  let program := (← get).program
  program.edits.toList.forM fun (_, e) => do
    match e with
    | .jump _ name =>
      if !name.isEmpty && (program.labels.lookup name).isNone then
        throw { text := "can't find label for jump to \x60".toList ++ name ++ ['\x27'], status := 4 }
    | _ => pure ()

end Reader

/-- **Reading** an edit script from its parts. -/
def Program.read (isExtended isConfined : Bool) (parts : List (Origin × Raw)) : Except Fault Program := do
  let all : Reader Unit := do
    parts.forM fun (origin, r) => Reader.part origin r
    Reader.finishScript
  let (_, s) ← all.run {
    isExtended
    isConfined
    origin := .argument 1
    rest := []
    used := 0
    line := 1
    program := { edits := #[], labels := [], files := [], isQuiet := false }
    blocks := []
    pending := none }
  return s.program

end Editing

end MapAudit.Script
