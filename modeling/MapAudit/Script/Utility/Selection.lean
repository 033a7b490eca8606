import MapAudit.Script.Pattern
import MapAudit.Script.Regex.Reader
import MapAudit.Script.Regex.Search
import MapAudit.Script.Utility.Input
import MapAudit.Script.Utility.Names

/-! # Selecting lines

    `grep` selects the lines of files that match one of some patterns. It shows
    the lines, perhaps with those around them, or the parts that match, or it
    counts the lines or names the files that have one.

    A file with a zero byte is taken for one that is no text: it is only said
    that it matches. The same is said when a line would have to be shown that is not
    well formed.
-/

namespace MapAudit.Script

namespace Utility

open Procedure

/-- What is shown of the lines that are selected. -/
inductive Display where
  /-- The lines. -/
  | lines
  /-- The parts of them that match. -/
  | parts
  /-- How many there are. -/
  | count
  /-- The names of the files that have one, or of those that have none. -/
  | names (having : Bool)
  /-- Nothing. -/
  | nothing
  deriving DecidableEq, Repr

/-- What is done with a file that is no text. -/
inductive Crudeness where
  /-- It is only said that it matches. -/
  | mentioned
  /-- It is taken for a text. -/
  | text
  /-- It does not match. -/
  | skipped
  deriving DecidableEq, Repr

/-- **Selection** of lines. -/
structure Selection where
  /-- What a line has to match; without that, none does. -/
  regex : Option Regex
  /-- Whether capital and small letters are alike. -/
  ignoresCase : Bool
  /-- Whether the lines are selected that do not match. -/
  isInverted : Bool
  /-- What is shown. -/
  display : Display
  /-- Whether the name of the file is shown. -/
  showsNames : Bool
  /-- Whether the numbers of lines are shown. -/
  showsNumbers : Bool
  /-- Whether the offsets of lines are shown. -/
  showsOffsets : Bool
  /-- Whether a zero byte ends the name of a file. -/
  endsNames : Bool
  /-- Whether what is shown of a line begins at a tab stop. -/
  aligns : Bool
  /-- How many lines are selected at most in a file. -/
  most : Option Nat
  /-- How many lines are shown before one that is selected. -/
  before : Option Nat
  /-- How many lines are shown after one that is selected. -/
  after : Option Nat
  /-- What is written between lines that are not next to each other. -/
  separator : Option Raw
  /-- What is done with a file that is no text. -/
  crudeness : Crudeness
  /-- What ends a line. -/
  lineEnd : Char
  /-- Whether files that cannot be read are passed over in silence. -/
  isSilent : Bool

/-- A line with its place in a file. -/
structure PlacedLine where
  /-- Its number. -/
  number : Nat
  /-- The number of bytes before it. -/
  offset : Nat
  /-- The line without its end. -/
  text : Raw

/-- How far a file has been gone through. -/
structure SelectionState where
  /-- Number of lines that were selected. -/
  count : Nat
  /-- The lines that may have to be shown before the next one, last one first. -/
  held : List PlacedLine
  /-- How many lines are still to be shown after one that was selected. -/
  owed : Nat
  /-- The number of the last line that was shown. -/
  last : Option Nat
  /-- Whether a line was shown, in this or in an earlier file. -/
  hasShown : Bool
  /-- What is to be written, last part first. -/
  written : List Raw
  /-- The offset of the end of the last line that was needed. -/
  needed : Nat
  /-- The number of the next line. -/
  number : Nat
  /-- The number of bytes before it. -/
  offset : Nat
  /-- The start of that line, in parts, the last one first. -/
  part : List Raw
  /-- Whether the file turned out to be no text, and how many lines were selected
      before that. -/
  crude : Option Nat
  /-- Whether a line was to be shown that is not well formed. -/
  isBroken : Bool

namespace Selection

/-- Whether a line matches. -/
def isMatch (s : Selection) (line : Raw) : Bool :=
  s.regex.any fun e => e.isIn s.ignoresCase (Raw.widen line)

/-- Whether a line is selected. -/
def selects (s : Selection) (line : Raw) : Bool :=
  s.isMatch line != s.isInverted

/-- The parts of a line that match from a place on, each with its offset. -/
def partsFrom (e : Regex) (ignoresCase : Bool) : (n : Nat) → Place → List (Nat × Raw)
  | 0, _ => []
  | n + 1, p =>
    match e.searchAt? ignoresCase p with
    | none => []
    | some found =>
      let start := p.skip found.before.length
      if found.text.isEmpty then
        match start.next? with
        | none => []
        | some q => partsFrom e ignoresCase n q
      else (start.offset, found.text) :: partsFrom e ignoresCase n (start.skip found.text.length)

/-- The parts of a line that match, each with the number of bytes before it. -/
def parts (s : Selection) (line : Raw) : List (Nat × Raw) :=
  if s.isInverted then []
  else match s.regex with
    | none => []
    | some e =>
      let wide := Raw.widen line
      let found := partsFrom e s.ignoresCase (wide.length + 1) (.atStart wide)
      if Raw.isNarrow line then found
      else found.map fun (n, r) => ((Raw.narrow (wide.take n)).length, Raw.narrow r)

/-- What is shown before a line or a part of one. -/
def start (s : Selection) (name : Raw) (mark : Char) (number offset : Nat) : Raw :=
  let nameText := if s.showsNames then name ++ [if s.endsNames then '\x00' else mark] else []
  let numberText := if s.showsNumbers
    then (if s.aligns then padded 2 number else Raw.ofNat number) ++ [mark] else []
  let offsetText := if s.showsOffsets then Raw.ofNat offset ++ [mark] else []
  let all := nameText ++ numberText ++ offsetText
  if s.aligns && !all.isEmpty then all ++ ['\t'] else all

/-- Whether lines around those that are selected are shown. -/
def hasContext (s : Selection) : Bool :=
  s.before.isSome || s.after.isSome

/-- Writes a line, after a separator if it is not next to the one before. -/
def put (s : Selection) (name : Raw) (isSelected : Bool) (l : PlacedLine) (p : SelectionState) :
    SelectionState :=
  let showsLines := s.display = .lines || s.display = .parts
  let isApart := showsLines && s.hasContext && p.hasShown && p.last.all (· + 1 ≠ l.number)
  let gap := match isApart, s.separator with
    | true, some r => r ++ ['\n']
    | _, _ => []
  let mark := if isSelected then ':' else '-'
  let isBroken := s.display = .lines && s.crudeness ≠ .text && !Raw.isWellFormed l.text
  let shown := match s.display with
    | .lines => s.start name mark l.number l.offset ++ l.text ++ [s.lineEnd]
    | .parts =>
      if isSelected then (s.parts l.text).flatMap fun (offset, r) =>
        s.start name mark l.number (l.offset + offset) ++ r ++ [s.lineEnd]
      else []
    | _ => []
  if isBroken then
    { p with
      written := gap :: p.written, hasShown := true, isBroken := true
      owed := if isSelected then p.owed else 0 }
  else { p with written := shown :: gap :: p.written, last := some l.number, hasShown := true }

/-- Goes over a line. -/
def step (s : Selection) (name : Raw) (p : SelectionState) (l : PlacedLine) :
    SelectionState :=
  let isSelected := s.selects l.text
  if s.most.any (· ≤ p.count) then
    if isSelected then { p with owed := 0 }
    else if p.owed = 0 then p
    else s.put name false l { p with owed := p.owed - 1 }
  else if isSelected then
    let p := p.held.reverse.foldl (fun p line => s.put name false line p) p
    let p := s.put name true l p
    let count := p.count + 1
    let isEnough := s.most = some count
    { p with
      count
      held := []
      owed := s.after.getD 0
      needed := if isEnough then l.offset + l.text.length + 1 else p.needed }
  else if 0 < p.owed then s.put name false l { p with owed := p.owed - 1 }
  else { p with held := (l :: p.held).take (s.before.getD 0) }

/-- Goes over a line that follows, with its end if it has one. -/
def stepText (s : Selection) (name : Raw) (p : SelectionState) (l : Raw) : SelectionState :=
  let text := (withoutEnd s.lineEnd l).1
  let next := s.step name p { number := p.number, offset := p.offset, text }
  { next with number := p.number + 1, offset := p.offset + text.length + 1 }

/-- The line that tells a count. -/
def counted (s : Selection) (name : Raw) (count : Nat) : Raw :=
  (if s.showsNames then name ++ [if s.endsNames then '\x00' else ':'] else [])
    ++ Raw.ofNat count ++ ['\n']

/-- Whether no more of a file need be looked at. -/
def isSettled (s : Selection) (p : SelectionState) : Bool :=
  (s.most.any (· ≤ p.count) && p.owed = 0)
    || match s.display with
      | .nothing | .names _ => 0 < p.count
      | .count => p.crude.isSome && s.crudeness = .skipped
      | .lines | .parts => p.crude.any fun n => s.crudeness = .skipped || n < p.count

/-- Goes over lines until that is settled. -/
def stepAll (s : Selection) (name : Raw) : List Raw → SelectionState → SelectionState
  | [], p => p
  | l :: rest, p =>
    if s.isSettled p then p else stepAll s name rest (s.stepText name p l)

/-- Goes over a portion of a file; there is none at its end. -/
def stepPortion (s : Selection) (name : Raw) (p : SelectionState) (r : Raw) : SelectionState :=
  let isCrude : Bool := r.contains '\x00' && s.lineEnd ≠ '\x00' && s.crudeness ≠ .text
  let p := if isCrude && p.crude.isNone then { p with crude := some p.count } else p
  let r := if p.crude.isSome then r.map fun c => if c = '\x00' then s.lineEnd else c else r
  if s.isSettled p then p
  else if r.isEmpty then
    let last := p.part.reverse.flatten
    s.stepAll name (if last.isEmpty then [] else [last]) { p with part := [] }
  else match endedParts s.lineEnd r with
    | ([], part) => { p with part := part :: p.part }
    | (first :: others, part) =>
      s.stepAll name ((p.part.reverse.flatten ++ first) :: others)
        { p with part := if part.isEmpty then [] else [part] }

/-- What a selection from a file comes to. -/
structure Outcome where
  /-- How many lines were selected. -/
  count : Nat
  /-- Whether any line was shown by now. -/
  hasShown : Bool

/-- How much is read at a time. -/
def portion : Nat := 98304

/-- Goes through a channel and writes what is selected. -/
def goThrough (s : Selection) (name : Raw) (hasShown : Bool) (i : Nat) :
    Procedure SelectionState :=
  let start : SelectionState := {
    count := 0, held := [], owed := 0, last := none, hasShown, written := [], needed := 0
    number := 1, offset := 0, part := [], crude := none, isBroken := false }
  stepwise start fun p => do
    let r := (← pull i portion).toOption.getD []
    let p := s.stepPortion name p r
    if p.crude.isNone then write p.written.reverse.flatten
    let p := { p with written := [] }
    return if r.isEmpty || s.isSettled p || (← get).outputFault.isSome then .done p else .more p

/-- Leaves a channel that was gone through from an offset on: in a file behind the
    last line that was needed, or at its end. -/
def leave (s : Selection) (p : SelectionState) (start i : Nat) : Procedure Unit :=
  onMachine fun m => match m.channel i with
    | .file place offset access =>
      let size := ((m.fileAt? place).map (·.content.size)).getD offset
      let isEnough := s.most.any (· ≤ p.count)
      m.setChannel i (.file place (if isEnough then start + p.needed else max offset size) access)
    | _ => m

/-- **Selection** from a channel to a file with a name. -/
def apply (s : Selection) (name : Raw) (hasShown : Bool) (i : Nat) : Procedure Outcome := do
  let start := match (← get).machine.channel i with
    | .file _ offset _ => offset
    | _ => 0
  let p ← s.goThrough name hasShown i
  s.leave p start i
  let isSkipped : Bool := p.crude.isSome && s.crudeness = .skipped
  let count := if isSkipped then p.crude.getD 0 else p.count
  match s.display with
  | .lines | .parts =>
    if !isSkipped && (p.isBroken || p.crude.any (· < p.count)) then
      tell (name ++ ": binary file matches")
  | .count => write (s.counted name (if isSkipped then 0 else p.count))
  | .names having =>
    if (0 < count) = having then write (name ++ [if s.endsNames then '\x00' else '\n'])
  | .nothing => pure ()
  return { count, hasShown := p.hasShown }

end Selection

/-! ## Arguments -/

/-- The options of `grep`. -/
def grepOptions : OptionTable where
  letters := "0123456789A:B:C:D:EFGHILPTUVX:abcd:e:f:hiLlm:noqRrsuvwxyZz"
  names := [("basic-regexp", 'G'), ("extended-regexp", 'E'), ("fixed-regexp", 'F'),
    ("fixed-strings", 'F'), ("perl-regexp", 'P'), ("after-context=", 'A'), ("before-context=", 'B'),
    ("binary-files=", '\x03'), ("binary", 'U'), ("byte-offset", 'b'), ("context=", 'C'),
    ("color?", '\x04'), ("colour?", '\x04'), ("count", 'c'), ("devices=", 'D'),
    ("directories=", 'd'), ("exclude=", '\x05'), ("exclude-from=", '\x06'),
    ("exclude-dir=", '\x07'), ("file=", 'f'), ("files-with-matches", 'l'),
    ("files-without-match", 'L'), ("group-separator=", '\x08'), ("no-group-separator", '\x0b'),
    ("include=", '\x0c'), ("ignore-case", 'i'), ("no-ignore-case", '\x0e'), ("initial-tab", 'T'),
    ("label=", '\x0f'), ("line-buffered", '\x10'), ("line-number", 'n'), ("line-regexp", 'x'),
    ("max-count=", 'm'), ("no-filename", 'h'), ("no-messages", 's'), ("null", 'Z'),
    ("null-data", 'z'), ("only-matching", 'o'), ("quiet", 'q'), ("recursive", 'r'),
    ("dereference-recursive", 'R'), ("regexp=", 'e'), ("invert-match", 'v'), ("silent", 'q'),
    ("text", 'a'), ("unix-byte-offsets", 'u'), ("with-filename", 'H'), ("word-regexp", 'w')]
  failure := 2
  hint name := "Usage: grep [OPTION]... PATTERNS [FILE]...\n" ++ helpHint name

/-- How the utility is called. -/
def grepUsage {α : Type} : Procedure α := do
  complain (grepOptions.hint "grep".toList)
  quit 2

/-- A pattern in the manner of another tool, in extended terms. -/
def inExtendedTerms : Raw → Raw
  | '\\' :: c :: rest =>
    (match c with
      | 'd' => "[0-9]".toList
      | 'D' => "[^0-9]".toList
      | 'h' => "[ \t]".toList
      | 't' => ['\t']
      | c => ['\\', c]) ++ inExtendedTerms rest
  | '(' :: '?' :: ':' :: rest => '(' :: inExtendedTerms rest
  | c :: rest => c :: inExtendedTerms rest
  | [] => []

/-- What a line has to match that has to match one of some patterns. -/
def patternRegex (kind : Char) (wholeLines wholeWords : Bool) (patterns : List Raw) :
    Except RegexFault (Option Regex) := do
  let one (r : Raw) : Except RegexFault Regex :=
    match kind with
    | 'F' => .ok (.literally r)
    | 'P' => Regex.read { isExtended := true, isLenient := false } (inExtendedTerms r)
    | kind => Regex.read
        { isExtended := kind = 'E', isLenient := true, refusesBareClass := true } r
  let bounded (e : Regex) : Regex :=
    if wholeLines then .both (.at .start) (.both e (.at .finish))
    else if wholeWords then .both (.at .noWordBefore) (.both e (.at .noWordAfter))
    else e
  let found ← patterns.mapM one
  match found.reverse with
  | [] => return none
  | last :: others => return some (bounded (others.foldl (fun e f => .either f e) last))

/-- The number of lines that an option asks for. -/
def contextOf (r : Raw) : Procedure Nat := do
  match Raw.toNat? r with
  | some n => return n
  | none => refuse 2 (r ++ ": invalid context length argument".toList)

/-- The patterns in the arguments, and the operands that are left. -/
def readPatterns (a : Arguments) : Procedure (List Raw × List Raw) := do
  let given := a.given.filter fun (c, _) => c = 'e' || c = 'f'
  let (texts, operands) ← if given.isEmpty then
      match a.operands with
      | [] => grepUsage
      | r :: rest => pure ([r.splitOn '\n'], rest)
    else do
      let texts ← given.mapM fun (c, r) => do
        if c = 'e' then return r.splitOn '\n'
        match ← readOperand r with
        | .ok content => return Raw.lines content
        | .error fault => refuse 2 (r ++ ": ".toList ++ faultText fault)
      pure (texts, a.operands)
  return (texts.flatten, operands)

/-- Whether directories are searched with all that is in them. -/
def isRecursive (a : Arguments) : Bool :=
  match a.lastOf? "rRd" with
  | some 'd' => (a.value? 'd').any fun r => 2 < r.length && r.isPrefixOf "recurse".toList
  | c => c.isSome

/-- Reads how lines are selected. The answer has the operands as well. -/
def readSelection (kinds : List Char) (a : Arguments) : Procedure (Selection × List Raw) := do
  let kinds := (kinds ++ (a.given.map (·.1)).filter fun c => "EFGP".toList.contains c).eraseDups
  if 1 < kinds.length then refuse 2 "conflicting matchers specified"
  let most ← match a.value? 'm' with
    | none => pure none
    | some ('-' :: r) =>
      if (Raw.toNat? r).isSome then pure none else refuse 2 "invalid max count"
    | some r => match Raw.toNat? r with
      | some n => pure (some n)
      | none => refuse 2 "invalid max count"
  let digits := (a.given.map (·.1)).filter Char.isDigit
  let around ← match a.value? 'C' with
    | some r => some <$> contextOf r
    | none => pure (Raw.toNat? digits)
  let side (c : Char) : Procedure (Option Nat) := do
    match a.value? c with
    | some r => some <$> contextOf r
    | none => return around
  let before ← side 'B'
  let after ← side 'A'
  let crudeness ← match a.value? '\x03' with
    | none => pure (if a.has 'a' then .text else if a.has 'I' then .skipped else .mentioned)
    | some r => match String.ofList r with
      | "binary" => pure Crudeness.mentioned
      | "text" => pure .text
      | "without-match" => pure .skipped
      | _ => refuse 2 "unknown binary-files type"
  (a.values 'd').forM fun r => do
    if ["read", "recurse", "skip"].all fun name => !r.isPrefixOf name.toList then
      tell ("invalid argument " ++ Quote.curly r ++ " for ".toList ++ Quote.curly "--directories")
      let names := ["read", "recurse", "skip"]
      complain ("Valid arguments are:\n".toList
        ++ (names.flatMap fun name => "  - ".toList ++ Quote.curly name.toList ++ ['\n'])
        ++ grepOptions.hint "grep".toList)
      quit 1
  if a.has 'u' then tell "warning: --unix-byte-offsets (-u) is obsolete"
  let (patterns, operands) ← readPatterns a
  let patterns := patterns.map Raw.widen
  let regex ← match patternRegex (kinds.headD 'G') (a.has 'x') (a.has 'w') patterns with
    | .ok regex => pure regex
    | .error fault => refuse 2 fault.message.toList
  let display : Display :=
    if a.has 'q' then .nothing
    else match a.lastOf? "lL" with
      | some 'l' => .names true
      | some _ => .names false
      | none => if a.has 'c' then .count else if a.has 'o' then .parts else .lines
  let showsNames := match a.lastOf? "hH" with
    | some c => c = 'H'
    | none => 1 < operands.length || isRecursive a
  return ({
    regex
    ignoresCase := (a.lastOf? "iy\x0e").any (· ≠ '\x0e')
    isInverted := a.has 'v'
    display
    showsNames
    showsNumbers := a.has 'n'
    showsOffsets := a.has 'b'
    endsNames := a.has 'Z'
    aligns := a.has 'T'
    most
    before
    after
    separator := match a.lastOf? "\x08\x0b" with
      | some '\x08' => a.value? '\x08'
      | some _ => none
      | none => some "--".toList
    crudeness
    lineEnd := if a.has 'z' then '\x00' else '\n'
    isSilent := a.has 's' }, operands)

/-! ## Files -/

/-- **Choice** of files by their names. -/
structure NameChoice where
  /-- Patterns of which a file has to match one, if there are any. -/
  included : List FilePattern
  /-- Patterns of which a file must not match any. -/
  excluded : List FilePattern
  /-- Patterns of which a directory must not match any. -/
  excludedDirectories : List FilePattern

namespace NameChoice

/-- The choice that options make. -/
def ofArguments (a : Arguments) : NameChoice where
  included := (a.values '\x0c').map FilePattern.ofRaw
  excluded := (a.values '\x05').map FilePattern.ofRaw
  excludedDirectories := (a.values '\x07').map fun r => FilePattern.ofRaw (withoutSlashes r)

/-- Whether a file is chosen. -/
def takesFile (c : NameChoice) (path : Raw) : Bool :=
  let name := lastName path
  !(c.excluded.any fun p => p.acceptsRaw name || p.acceptsRaw path)
    && (c.included.isEmpty || c.included.any fun p => p.acceptsRaw name || p.acceptsRaw path)

/-- Whether a directory is chosen. -/
def takesDirectory (c : NameChoice) (path : Raw) : Bool :=
  !(c.excludedDirectories.any fun p => p.acceptsRaw (lastName path) || p.acceptsRaw path)

/-- Whether all directories on the way to a node are chosen. -/
def takesWay (c : NameChoice) (way : Location) : Bool :=
  way.dropLast.all fun name => c.takesDirectory (Raw.ofText name)

end NameChoice

/-- The files that are searched for an operand: itself, or those below it. -/
def searchedFiles (choice : NameChoice) (isDeep followsLinks : Bool) (file : Raw) :
    Procedure (List Raw) := do
  if file = ['-'] then return [file]
  match ← find (if file.isEmpty && isDeep then ['.'] else file) with
  | .ok (.directory _ entries) => do
    if !isDeep then return [file]
    if !choice.takesDirectory file then return []
    let shown (way : Location) : Raw :=
      ['/'].intercalate (way.map Raw.ofText)
    let path (way : Location) : Raw :=
      if file.isEmpty then shown way else within file (shown way)
    return (FileTree.nodesOf [] entries).filterMap fun (way, node) =>
      let isTaken := choice.takesWay way && choice.takesFile (path way)
      match node with
      | .file _ => if isTaken then some (path way) else none
      | .link _ => if isTaken && followsLinks then some (path way) else none
      | .directory _ _ | .pipe _ | .device _ => none
  | _ => return if choice.takesFile file then [file] else []

/-- Whether what is read from a channel is the file that is written. -/
def isBothWays (i : Nat) : Procedure Bool := do
  let m := (← get).machine
  return match placeOf? m i, (← channelOf? 1).bind (placeOf? m) with
    | some a, some b => areSame m a b
    | _, _ => false

/-- Selects lines of files. Patterns are of a kind, unless an option says
    another one. -/
def grepAs (kinds : List Char) (arguments : List Raw) : Procedure Nat := do
  modify fun s => { s with name := "grep" }
  let a ← readArguments grepOptions arguments
  let (selection, operands) ← readSelection kinds a
  let isDeep := isRecursive a
  let operands := if !operands.isEmpty then operands else if isDeep then [[]] else [['-']]
  let skips := a.value? 'd' = some "skip".toList
  let files ← operands.mapM (searchedFiles (.ofArguments a) isDeep (a.has 'R'))
  if selection.most = some 0 then return 1
  let (found, failed, _) ← files.flatten.foldlM (fun (found, failed, hasShown) file => do
    if found && selection.display = .nothing then return (found, failed, hasShown)
    let name := if file = ['-'] then (a.value? '\x0f').getD "(standard input)" else file
    let isShown := selection.display = .lines || selection.display = .parts
    let answer ← withOperand file fun i => do
      if isShown && selection.most ≠ some 1 && (← isBothWays i) then return none
      return some (← selection.apply name hasShown i)
    match answer with
    | .error fault => do
      if fault = .isDirectory && skips then return (found, failed, hasShown)
      if !selection.isSilent then tell (name ++ ": " ++ faultText fault)
      return (found, true, hasShown)
    | .ok none => do
      tell (name ++ ": input file is also the output")
      return (found, true, hasShown)
    | .ok (some outcome) => return (found || 0 < outcome.count, failed, outcome.hasShown))
    (false, false, false)
  if found && selection.display = .nothing then return 0
  return if failed then 2 else if found then 0 else 1

/-- Selects lines of files. -/
def grep (arguments : List Raw) : Procedure Nat :=
  grepAs [] arguments

end Utility

end MapAudit.Script
