import MapAudit.Script.Calendar
import MapAudit.Script.Pattern
import MapAudit.Script.Print.Changes
import MapAudit.Script.Regex.Reader
import MapAudit.Script.Utility.Listing
import MapAudit.Script.Utility.Moving

/-! # Differences of files

    `diff` compares files, or directories with all that is in them, and shows the changes
    that lead from the first ones to the second ones. Its status says whether there are
    any.
-/

namespace MapAudit.Script

namespace Utility

open Procedure

/-! ## Options -/

/-- The options of `diff`. -/
def diffOptions : OptionTable where
  letters := "0123456789abBcC:deEfF:hHiI:lL:nNpPqrstTuU:wW:x:X:yZ"
  names := [("brief", 'q'), ("color?", '\x0f'), ("context?", '\x10'), ("ed", 'e'),
    ("exclude=", 'x'), ("exclude-from=", 'X'), ("expand-tabs", 't'), ("forward-ed", 'f'),
    ("from-file=", '\x12'), ("horizon-lines=", '\x0c'), ("ignore-all-space", 'w'),
    ("ignore-blank-lines", 'B'), ("ignore-case", 'i'), ("ignore-file-name-case", '\x0e'),
    ("ignore-matching-lines=", 'I'), ("ignore-space-change", 'b'), ("ignore-tab-expansion", 'E'),
    ("ignore-trailing-space", 'Z'), ("initial-tab", 'T'), ("label=", 'L'), ("left-column", '\x05'),
    ("minimal", 'd'), ("new-file", 'N'), ("no-dereference", '\x03'),
    ("no-ignore-file-name-case", '\x14'), ("normal", '\x04'), ("paginate", 'l'), ("rcs", 'n'),
    ("recursive", 'r'), ("report-identical-files", 's'), ("show-c-function", 'p'),
    ("show-function-line=", 'F'), ("side-by-side", 'y'), ("speed-large-files", 'H'),
    ("strip-trailing-cr", '\x08'), ("suppress-blank-empty", '\x07'),
    ("suppress-common-lines", '\x06'), ("tabsize=", '\x0b'), ("text", 'a'), ("to-file=", '\x13'),
    ("unidirectional-new-file", 'P'), ("unified?", '\x11'), ("width=", 'W')]
  failure := 2
  hint name := name ++ ": " ++ helpHint name

/-- The arguments that are options, with the values that stand in arguments of their own. At
    most `n` arguments are looked at. -/
def optionWords (t : OptionTable) : (n : Nat) → List Raw → List Raw
  | 0, _ | _, [] => []
  | _ + 1, ['-', '-'] :: _ => ["--".toList]
  | n + 1, r :: rest =>
    let left : Option (List Raw) := match r with
      | '-' :: '-' :: name => ((t.readName name rest).map fun (_, left) => left).toOption
      | '-' :: c :: more => ((t.readLetters (c :: more) rest).map fun (_, left) => left).toOption
      | _ => none
    match left with
    | some left => r :: rest.take (rest.length - left.length) ++ optionWords t n left
    | none => optionWords t n rest

/-- Complains about how `diff` was called. -/
def refuseDiffering {α : Type} (r : Raw) : Procedure α := do
  tell r
  complain (diffOptions.hint (← get).name)
  quit 2

/-- A number that an option asks for, with what it is. -/
def demandDigits (what : String) (least : Nat) (r : Raw) : Procedure Nat := do
  match Raw.toNat? r with
  | some n => if least ≤ n then return n
  | none => pure ()
  refuseDiffering (what.toList ++ " '".toList ++ r ++ ['\x27'])

/-! ## Lines that count as equal -/

/-- What is overlooked about the blanks in a line. -/
inductive BlankRule where
  /-- Whether tabulators are used, and whether there are any at the end. -/
  | some (tabs finish : Bool)
  /-- How many there are in one place. -/
  | amount
  /-- All of them. -/
  | all
  deriving DecidableEq, Repr

/-- The rule that options say. -/
def blankRule (a : Arguments) : BlankRule :=
  match a.lastOf? "bw" with
  | some 'b' => .amount
  | some _ => .all
  | none => .some (a.has 'E') (a.has 'Z')

/-- Whether a byte is a blank, of whichever kind. -/
def isGap (c : Char) : Bool :=
  c = ' ' || ('\t' ≤ c && c ≤ '\x0d')

/-- A line without the blanks at its end. -/
def trimmedEnd (l : Raw) : Raw :=
  (l.reverse.dropWhile isGap).reverse

/-- A line with one blank in place of several. -/
def withSingleBlanks (l : Raw) : Raw :=
  (l.splitBy fun c d => isGap c && isGap d).flatMap fun part =>
    if part.any isGap then [' '] else part

/-- A line with blanks in place of tabulators, from a column on. -/
def withoutTabs (tab : Nat) : (column : Nat) → Raw → Raw
  | _, [] => []
  | column, c :: rest => match c with
    | '\t' =>
      let blanks := tab - column % tab
      List.replicate blanks ' ' ++ withoutTabs tab (column + blanks) rest
    | '\x08' => c :: withoutTabs tab (column - 1) rest
    | '\x0d' => c :: withoutTabs tab 0 rest
    | c => c :: withoutTabs tab (column + 1) rest

/-- What has to be equal of lines that count as equal. -/
def lineKey (rule : BlankRule) (tab : Nat) (ignoresCase : Bool) (l : Raw) : Raw :=
  let kept := match rule with
    | .all => l.filter (!isGap ·)
    | .amount => withSingleBlanks (trimmedEnd l)
    | .some tabs finish =>
      let l := if finish then trimmedEnd l else l
      if tabs then withoutTabs tab 0 l else l
  if ignoresCase then kept.map Char.toLower else kept

/-- Whether a line does not matter. -/
def isTrivialLine (rule : BlankRule) (blank : Bool) (e : Option Regex) (l : Raw) : Bool :=
  let content := (withoutEnd '\n' l).1
  let isBlank := match rule with
    | .some _ false => content.isEmpty
    | _ => content.all isGap
  (blank && isBlank) || e.any fun e => e.isIn false content

/-! ## How files are compared -/

/-- **Comparison** of files. -/
structure Comparison where
  /-- The arguments. -/
  arguments : Arguments
  /-- The options as they were given. -/
  options : Raw
  /-- How changes are shown. -/
  manner : ChangeManner
  /-- How many lines around changes take part in the search at least. -/
  margin : Nat
  /-- What has to be equal of lines that count as equal. -/
  key : Raw → Raw
  /-- Names that are passed over in directories. -/
  excluded : List FilePattern

/-- Reads the style of changes and the number of lines around them. -/
def readStyle (a : Arguments) : Procedure (ChangeStyle × Option Nat) := do
  let wider (n : Nat) (context : Option Nat) : Option Nat := some (max n (context.getD 0))
  let (style, context, isExplicit, old, _) ← a.given.foldlM
    (fun ((style, context, isExplicit, old, last) :
        Option ChangeStyle × Option Nat × Bool × Option Nat × Char) (c, r) => do
      let specify (new : ChangeStyle) : Procedure (Option ChangeStyle) := do
        if style.any (· ≠ new) then refuseDiffering "conflicting output style options".toList
        return some new
      let around (new : ChangeStyle) (isCounted : Bool) :
          Procedure (Option ChangeStyle × Option Nat × Bool × Option Nat × Char) := do
        let n ← if isCounted then demandDigits "invalid context length" 0 r else pure 3
        return (← specify new, wider n context, isExplicit || isCounted, old, c)
      let styled (new : ChangeStyle) :
          Procedure (Option ChangeStyle × Option Nat × Bool × Option Nat × Char) := do
        return (← specify new, context, isExplicit, old, c)
      match c with
      | 'c' => around .context false
      | 'C' => around .context true
      | '\x10' => around .context (!r.isEmpty)
      | 'u' => around .unified false
      | 'U' => around .unified true
      | '\x11' => around .unified (!r.isEmpty)
      | 'e' => styled .backward
      | 'f' => styled .forward
      | 'n' => styled .counted
      | 'y' => styled .beside
      | '\x04' => styled .plain
      | c =>
        if c.isDigit then
          let digit := c.toNat - '0'.toNat
          let n := if last.isDigit then old.getD 0 * 10 + digit else digit
          return (style, context, isExplicit, some n, c)
        else return (style, context, isExplicit, old, c))
    (none, none, false, none, ' ')
  let (style, context) := match style with
    | some style => (style, context)
    | none => if a.has 'p' then (.context, if old.isNone then some 3 else context)
      else (.plain, context)
  let context := match old with
    | some n =>
      if (style = .context || style = .unified)
          && (context.all (· < n) || !isExplicit) then some n else context
    | none => context
  return (style, context)

/-- Reads regular expressions, one of which a line has to match. -/
def readExpressions (texts : List Raw) : Procedure (Option Regex) := do
  let found ← texts.mapM fun r => do
    match Regex.read { isExtended := false, isLenient := true } r with
    | .ok e => return e
    | .error fault => refuse 2 (r ++ ": ".toList ++ fault.message.toList)
  match found with
  | [] => return none
  | first :: others => return some (others.foldl .either first)

/-- Reads names that are passed over from files. -/
def readExcluded (a : Arguments) : Procedure (List FilePattern) := do
  let fromFiles ← (a.values 'X').mapM fun file => do
    match ← readOperand file with
    | .ok r => return (Raw.lines r).filter (!·.isEmpty)
    | .error fault => refuse 2 (file ++ ": ".toList ++ faultText fault)
  let foldCase : FilePattern → FilePattern :=
    if a.lastOf? "\x0e\x14" = some '\x0e' then FilePattern.folded else fun p => p
  return (a.values 'x' ++ fromFiles.flatten).map fun r => foldCase (FilePattern.ofRaw r)

/-- Reads how files are compared. -/
def readComparison (arguments : List Raw) : Procedure Comparison := do
  let a ← readArguments diffOptions arguments
  let (style, context) ← readStyle a
  let width ← match a.value? 'W' with
    | some r => demandDigits "invalid width" 1 r
    | none => pure 130
  let tab ← match a.value? '\x0b' with
    | some r => demandDigits "invalid tabsize" 1 r
    | none => pure 8
  let horizon ← match a.value? '\x0c' with
    | some r => demandDigits "invalid horizon length" 0 r
    | none => pure 0
  if 2 < (a.values 'L').length then refuse 2 "too many file label options".toList
  let isHeaded (c : Char) : Bool := c = 'F' || c = 'p'
  let heading ← readExpressions ((a.given.filter (isHeaded ·.1)).map fun (c, r) =>
    if c = 'p' then "^[[:alpha:]$_]".toList else r)
  let ignored ← readExpressions (a.values 'I')
  let rule := blankRule a
  let context := context.getD 0
  let options := (optionWords diffOptions (arguments.length + 1) arguments).flatMap fun r =>
    ' ' :: Quote.asNeeded r
  return {
    arguments := a
    options
    manner := {
      style, context, tab, width, heading
      expandsTabs := a.has 't'
      startsWithTab := a.has 'T'
      hidesBlanks := a.has '\x07'
      showsLeftOnly := a.has '\x05'
      hidesCommon := a.has '\x06'
      trivial := if a.has 'B' || ignored.isSome then some (isTrivialLine rule (a.has 'B') ignored)
        else none }
    margin := max horizon context
    key := lineKey rule tab (a.has 'i')
    excluded := ← readExcluded a }

/-! ## Two files -/

/-- One of two files that are compared. -/
structure Side where
  /-- The name that it was called by. -/
  name : Raw
  /-- The node, or that of the other side. -/
  node : FileTree
  /-- Whether there is no such file, which counts as an empty one. -/
  isAbsent : Bool

/-- A name as it is shown in a header: with quotes if there is a blank in it or a character
    that is not shown. -/
def headerName (r : Raw) : Raw :=
  let shown (c : Char) : Raw := match c with
    | '\x07' => "\\a".toList
    | '\x08' => "\\b".toList
    | '\t' => "\\t".toList
    | '\n' => "\\n".toList
    | '\x0b' => "\\v".toList
    | '\x0c' => "\\f".toList
    | '\x0d' => "\\r".toList
    | '"' => "\\\"".toList
    | '\\' => "\\\\".toList
    | c =>
      if c < ' ' then
        let digits := Nat.toDigits 8 c.toNat
        '\\' :: List.replicate (3 - digits.length) '0' ++ digits
      else [c]
  let quoted := r.flatMap shown
  if quoted = r && !r.contains ' ' then r else '"' :: quoted ++ ['"']

namespace Comparison

variable (c : Comparison)

/-- The label of a side: the one that was given for it, or its name. -/
def label (k : Nat) (s : Side) : Raw :=
  ((c.arguments.values 'L')[k]?).getD s.name

/-- The line of a header for a side, behind a mark. -/
def headerLine (mark : String) (k : Nat) (s : Side) : Procedure Raw := do
  let now := (← get).machine.time
  match (c.arguments.values 'L')[k]? with
  | some r => return mark.toList ++ ' ' :: r ++ ['\n']
  | none =>
    let isFixed : Bool := s.name ≠ ['-'] || (s.node matches .file _)
    let time := if s.isAbsent then 0 else if isFixed then timeOf s.node else now
    let shown := (Moment.ofNanoseconds time).format "UTC".toList "%Y-%m-%d %H:%M:%S.%N %z".toList
    return mark.toList ++ ' ' :: headerName s.name ++ '\t' :: shown ++ ['\n']

/-- What is shown before changes. -/
def header (isInside : Bool) (a b : Side) : Procedure Raw := do
  let first := if isInside then
      "diff".toList ++ c.options ++ ' ' :: headerName (c.label 0 a) ++ ' ' :: headerName (c.label 1 b)
        ++ ['\n']
    else []
  match c.manner.style with
  | .context => return first ++ (← c.headerLine "***" 0 a) ++ (← c.headerLine "---" 1 b)
  | .unified => return first ++ (← c.headerLine "---" 0 a) ++ (← c.headerLine "+++" 1 b)
  | _ => return first

/-- Says that files differ. -/
def tellDifference (what : String) (a b : Side) : Procedure Unit :=
  write (what.toList ++ ' ' :: c.label 0 a ++ " and ".toList ++ c.label 1 b ++ " differ\n".toList)

/-- Whether files are compared byte by byte. -/
def comparesBytes : Bool :=
  let a := c.arguments
  a.has 'q' && !("BiIbwEZ".toList.any a.has || a.has '\x08')

/-- Whether nothing is shown of files that are the same. -/
def isQuietOnSame : Bool :=
  c.manner.style ≠ .beside || c.manner.hidesCommon

/-- A text in which the returns before the ends of lines are left out. -/
def withoutReturns : Raw → Raw
  | '\x0d' :: '\n' :: rest => '\n' :: withoutReturns rest
  | c :: rest => c :: withoutReturns rest
  | [] => []

/-- Compares the contents of two files. -/
def contents (isInside : Bool) (a b : Side) (r s : Raw) : Procedure Nat := do
  let isBinary (r : Raw) : Bool := (r.take 4096).contains '\x00'
  if c.comparesBytes then
    if r = s then return 0
    c.tellDifference "Files" a b
    return 1
  if !c.arguments.has 'a' && (isBinary r || isBinary s) then
    if r = s then return 0
    c.tellDifference (if c.arguments.has 'q' then "Files" else "Binary files") a b
    return 1
  let m := c.manner
  let isRobust := m.style ≠ .backward && m.style ≠ .forward
  let plain (r : Raw) : Raw := if c.arguments.has '\x08' then withoutReturns r else r
  let isShort (r : Raw) : Bool := r.getLast?.any (· ≠ '\n')
  let whole (r : Raw) : Raw := if !isRobust && isShort r then r ++ ['\n'] else r
  let lines (r : Raw) : List Raw := linesWithEnds (whole (plain r))
  let p : TextPair := { first := (lines r).toArray, second := (lines s).toArray }
  let script := Difference.changes (c.arguments.has 'd') c.margin c.key (lines r) (lines s)
  let differ := m.matters p script
  if c.arguments.has 'q' then
    if differ then c.tellDifference "Files" a b
  else if differ || !c.isQuietOnSame then
    write ((← c.header isInside a b) ++ m.shown p script)
  let short := if isRobust then [] else
    [(0, a, r), (1, b, s)].filter fun (_, _, r) => isShort r
  short.forM fun (k, side, _) => do
    flush
    tell (c.label k side ++ ": No newline at end of file\n".toList)
  return if !short.isEmpty then 2 else if differ then 1 else 0

/-- Whether two sides are one and the same. -/
def areOne (a b : Side) : Procedure Bool := do
  if a.name = b.name then return true
  let place (side : Side) : Procedure (Option FilePlace) := do
    if side.name = ['-'] then
      match ← channelOf? 0 with
      | some i => return placeOf? (← get).machine i
      | none => return none
    let located ← if c.arguments.has '\x03' then locateName side.name else locate side.name
    return located.toOption.map .named
  match ← place a, ← place b with
  | some x, some y => return areSame (← get).machine x y
  | _, _ => return false

/-- What a name stands for. -/
def nodeOf (name : Raw) : Procedure (Except FileFault FileTree) := do
  if name = ['-'] then
    match ← streamNode? 0 with
    | some node => return .ok node
    | none => return .error .noStream
  else if c.arguments.has '\x03' then findName name
  else find name

/-- Compares two files that are there, or count as empty. -/
def files (isInside : Bool) (a b : Side) : Procedure Nat := do
  let sizes : Option (Nat × Nat) := match a.node, b.node with
    | .file f, .file g => if a.isAbsent || b.isAbsent then none else some (f.content.size, g.content.size)
    | _, _ => none
  if c.comparesBytes && sizes.any fun (n, k) => 0 < n && 0 < k && n ≠ k then
    c.tellDifference "Files" a b
    return 1
  let opened (side : Side) : Procedure (Option Nat) := do
    match ← openOperand side.name with
    | .ok i => return some i
    | .error fault => do
      tell (side.name ++ ": ".toList ++ faultText fault)
      return none
  let demand (side : Side) : Procedure (Option (Option Nat)) := do
    if side.isAbsent then return some none
    return (← opened side).map some
  let i ← demand a
  let j ← if a.name = b.name then pure i else demand b
  let content (i : Option Nat) : Procedure Raw := do
    match i with
    | none => return []
    | some i => do
      let r ← drain i
      letGo i
      return r.toOption.getD []
  match i, j with
  | some i, some j => do
    let r ← content i
    let s ← if a.name = b.name then pure r else content j
    c.contents isInside a b r s
  | _, _ => return 2

/-- The names in a directory, in order. -/
def entriesOf (s : Side) : Procedure (Option (List Raw)) := do
  if s.isAbsent then return some []
  match s.node with
  | .directory a entries =>
    if !a.isReadable then
      tell (s.name ++ ": ".toList ++ faultText .denied)
      return none
    let names := entries.map fun entry => Raw.ofText entry.1
    return some (Raw.sort (names.filter fun r => !c.excluded.any (·.acceptsRaw r)))
  | _ => return some []

/-- Names of two lists that are in order, each with marks that say where it is. -/
def merged : (n : Nat) → List Raw → List Raw → List (Raw × Bool × Bool)
  | 0, _, _ => []
  | _ + 1, xs, [] => xs.map fun x => (x, true, false)
  | _ + 1, [], ys => ys.map fun y => (y, false, true)
  | n + 1, x :: xs, y :: ys =>
    if x = y then (x, true, true) :: merged n xs ys
    else if Raw.isAtMost x y then (x, true, false) :: merged n xs (y :: ys)
    else (y, false, true) :: merged n (x :: xs) ys

/-- Compares two sides that are known, and what is in them with `inner`. It is given the
    names of the directories, marks that say where a name is, and the paths. -/
def settle (inner : (Raw × Raw) → (isThere isThereToo : Bool) → Raw → Raw → Procedure Nat)
    (isInside : Bool) (a b : Side) : Procedure Nat := do
  let isDirectory (s : Side) : Bool := s.node matches .directory _ _
  let isPlain (s : Side) : Bool := match s.node with
    | .file _ | .link _ => true
    | _ => false
  let tellKinds : Procedure Nat := do
    write ("File ".toList ++ c.label 0 a ++ " is a ".toList ++ kindText a.node ++ " while file ".toList
      ++ c.label 1 b ++ " is a ".toList ++ kindText b.node ++ ['\n'])
    return 1
  let isOne ← if a.isAbsent || b.isAbsent then pure false else c.areOne a b
  let status ← if isOne && c.isQuietOnSame then pure 0
    else if isDirectory a && isDirectory b then
      if isInside && !c.arguments.has 'r' then do
        write ("Common subdirectories: ".toList ++ a.name ++ " and ".toList ++ b.name ++ ['\n'])
        pure 0
      else match ← c.entriesOf a, ← c.entriesOf b with
        | some xs, some ys =>
          (merged (xs.length + ys.length) xs ys).foldlM (fun status (name, isThere, isThereToo) => do
            let isCompared := (isThere && isThereToo) || c.arguments.has 'N'
              || (isThereToo && c.arguments.has 'P')
            if isCompared then
              return max status (← inner (a.name, b.name) isThere isThereToo (within a.name name)
                (within b.name name))
            else do
              let directory := if isThere then a.name else b.name
              write ("Only in ".toList ++ directory ++ ": ".toList ++ name ++ ['\n'])
              return max status 1) 0
        | _, _ => pure 2
    else if isDirectory a || isDirectory b || (isInside && !(isPlain a && isPlain b)) then
      tellKinds
    else match a.node, b.node with
      | .link target, .link target' =>
        if target.text = target'.text then pure 0
        else do
          write ("Symbolic links ".toList ++ a.name ++ " and ".toList ++ b.name ++ " differ\n".toList)
          pure 1
      | .link _, _ | _, .link _ => tellKinds
      | _, _ => c.files isInside a b
  if status = 0 && c.arguments.has 's' && !isDirectory a then
    write ("Files ".toList ++ c.label 0 a ++ " and ".toList ++ c.label 1 b ++ " are identical\n".toList)
  return status

/-- Compares what two names stand for, at most `n` directories deep. Inside of directories
    `above` has the names of them, and one of the names may stand for nothing. -/
def compare : (n : Nat) → (above : Option (Raw × Raw)) → (isThere isThereToo : Bool) →
    (first second : Raw) → Procedure Nat
  | 0, _, _, _, _, _ => return 0
  | n + 1, above, isThere, isThereToo, first, second => do
    let settle (a b : Side) : Procedure Nat :=
      c.settle (fun names => compare n (some names)) above.isSome a b
    let all := c.arguments.has 'N'
    let some' := all || c.arguments.has 'P'
    let x ← if isThere then c.nodeOf first else pure (.error .notFound)
    let y ← if isThereToo then c.nodeOf second else pure (.error .notFound)
    let isVoid (found other : Except FileFault FileTree) : Bool := match found with
      | .ok (.file f) => f.attributes.permissions % 512 = 0 && f.content.size = 0
      | .ok _ => false
      | .error fault => fault = .notFound && above.isNone && other.toOption.isSome
    let isAbsent := !isThere || (some' && isVoid x y)
    let isAbsentToo := !isThereToo || (all && isVoid y x)
    let faults := (if isAbsent then [] else [(first, x)]) ++ if isAbsentToo then [] else [(second, y)]
    let faulty ← faults.filterM fun (name, found) => do
      match found with
      | .ok _ => return false
      | .error fault => do
        tell (name ++ ": ".toList ++ faultText fault)
        return true
    if !faulty.isEmpty then return 2
    let nodes : Option (FileTree × FileTree) := match isAbsent, isAbsentToo, x, y with
      | true, true, _, _ => none
      | true, false, _, .ok node | false, true, .ok node, _ => some (node, node)
      | false, false, .ok x, .ok y => some (x, y)
      | _, _, _, _ => none
    match nodes with
    | none => return 0
    | some (x, y) =>
      let isDirectory (node : FileTree) : Bool := node matches .directory _ _
      let isLink (node : FileTree) : Bool := node matches .link _
      let isPlain (node : FileTree) : Bool := isLink node || (node matches .file _)
      if above.isNone && isDirectory x ≠ isDirectory y then
        let (file, directory) := if isDirectory x then (second, first) else (first, second)
        if file = ['-'] then refuse 2 "cannot compare '-' to a directory".toList
        let name := within directory (lastName file)
        match ← c.nodeOf name with
        | .error fault => do
          tell (name ++ ": ".toList ++ faultText fault)
          return 2
        | .ok node =>
          let given : Side := { name := file, node := if isDirectory x then y else x, isAbsent := false }
          let found : Side := { name, node, isAbsent := false }
          if isDirectory x then settle found given else settle given found
      else if (isDirectory x || isDirectory y || (above.isSome && !(isPlain x && isPlain y)))
          && (isAbsent || isAbsentToo) && !(isDirectory x && c.arguments.has 'r') then
        let directory := match above with
          | some (a, b) => if isAbsent then b else a
          | none => []
        write ("Only in ".toList ++ directory ++ ": ".toList ++ lastName first ++ ['\n'])
        return 1
      else
        settle { name := first, node := x, isAbsent }
          { name := second, node := y, isAbsent := isAbsentToo }

end Comparison

/-- Compares files or directories. -/
def diff (arguments : List Raw) : Procedure Nat := do
  let c ← readComparison arguments
  let a := c.arguments
  let compare (first second : Raw) : Procedure Nat := c.compare 200 none true true first second
  match a.value? '\x12', a.value? '\x13', a.operands with
  | some _, some _, _ => refuse 2 "--from-file and --to-file both specified".toList
  | some first, none, operands => operands.foldlM (fun status r => do
      return max status (← compare first r)) 0
  | none, some second, operands => operands.foldlM (fun status r => do
      return max status (← compare r second)) 0
  | none, none, [first, second] => compare first second
  | none, none, _ :: _ :: r :: _ => refuseDiffering ("extra operand '".toList ++ r ++ ['\x27'])
  | none, none, operands => do
    let last := (operands.getLast?.orElse fun _ => arguments.getLast?).getD (← get).name
    refuseDiffering ("missing operand after '".toList ++ last ++ ['\x27'])

end Utility

end MapAudit.Script
