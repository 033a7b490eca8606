import MapAudit.Script.Mode
import MapAudit.Script.Occasion
import MapAudit.Script.Pattern
import MapAudit.Script.Utility.Names
import MapAudit.Script.Version

/-! # Listing files

    The names in directories are listed in the order of their bytes, one on a line,
    unless another order or another form is asked for. The long form tells what may
    be done with a file, how big it is and when it was changed.
-/

namespace MapAudit.Script

namespace Utility

open Procedure

/-! ## Options -/

/-- The options of `ls`. -/
def lsOptions : OptionTable where
  letters := "abcdfghiklmnopqrstuvw:xABCDFGHI:LNQRST:UXZ1"
  names := [("all", 'a'), ("escape", 'b'), ("directory", 'd'), ("dired", 'D'), ("full-time", '0'),
    ("group-directories-first", '2'), ("human-readable", 'h'), ("inode", 'i'), ("kibibytes", 'k'),
    ("numeric-uid-gid", 'n'), ("no-group", 'G'), ("hide-control-chars", 'q'), ("reverse", 'r'),
    ("size", 's'), ("width=", 'w'), ("almost-all", 'A'), ("ignore-backups", 'B'),
    ("classify?", 'F'), ("file-type", '3'), ("si", '*'), ("dereference-command-line", 'H'),
    ("dereference-command-line-symlink-to-dir", 'H'), ("hide=", '4'), ("ignore=", 'I'),
    ("indicator-style=", '5'), ("dereference", 'L'), ("literal", 'N'), ("quote-name", 'Q'),
    ("quoting-style=", '6'), ("recursive", 'R'), ("format=", '7'), ("show-control-chars", '8'),
    ("sort=", '9'), ("tabsize=", 'T'), ("time=", '!'), ("time-style=", '#'), ("zero", '$'),
    ("color?", '%'), ("hyperlink?", '&'), ("block-size=", '('), ("context", 'Z'), ("author", ')')]
  failure := 2

/-- The form of a listing. -/
inductive ListForm where
  /-- A line for every name. -/
  | single
  /-- A line for every name, with all that is known of the node. -/
  | long
  /-- Names with commas between them. -/
  | commas
  /-- Columns, filled one after another. -/
  | columns
  /-- Columns, filled row by row. -/
  | rows
  deriving DecidableEq, Repr

/-- The order of a listing. -/
inductive ListOrder where
  /-- By name. -/
  | name
  /-- As it comes. -/
  | none
  /-- The newest first. -/
  | time
  /-- The biggest first. -/
  | size
  /-- By what comes after the last point. -/
  | ending
  /-- By name, with the numbers in it. -/
  | version
  /-- The shortest name first. -/
  | width
  deriving DecidableEq, Repr

/-- **Manner** of a listing. -/
structure ListManner where
  /-- The form. -/
  form : ListForm
  /-- The order. -/
  order : ListOrder
  /-- The options. -/
  arguments : Arguments
  /-- How times are written, for new ones and for old ones. -/
  timeFormats : Raw × Raw
  /-- How wide a line may be, or zero if there is no limit. -/
  width : Nat

/-- The choices of an option whose value is a word, by their letters. -/
def listChoices : Char → List (String × List String)
  | '9' => [("U", ["none"]), ("t", ["time"]), ("S", ["size"]), ("X", ["extension"]),
    ("v", ["version"]), ("w", ["width"])]
  | '7' => [("l", ["verbose", "long"]), ("m", ["commas"]), ("x", ["horizontal", "across"]),
    ("C", ["vertical"]), ("1", ["single-column"])]
  | _ => []

/-- The letter that the value of an option stands for. -/
def listChoice (option : Char) (name : String) (r : Raw) : Procedure Char := do
  let choices := listChoices option
  let found := choices.filter fun (_, words) => words.any fun word => r.isPrefixOf word.toList
  match found, r with
  | [(letter, _)], _ :: _ => return letter.toList.headD ' '
  | _, _ => do
    tell ("invalid argument " ++ Quote.curly r ++ " for " ++ Quote.curly name)
    let line (words : List String) : Raw :=
      "  - ".toList ++ ", ".toList.intercalate (words.map (Quote.curly ·.toList)) ++ ['\n']
    complain ("Valid arguments are:\n".toList ++ choices.flatMap fun (_, words) => line words)
    complain (helpHint (← get).name)
    quit 1

/-- The formats of times in a style, for new ones and for old ones. -/
def timeStyle (r : Raw) : Procedure (Raw × Raw) := do
  let bare := if "posix-".toList.isPrefixOf r then r.drop 6 else r
  match r, String.ofList bare with
  | '+' :: format, _ =>
    match format.splitOn '\n' with
    | old :: new :: _ => return (new, old)
    | _ => return (format, format)
  | _, "full-iso" => return ("%Y-%m-%d %H:%M:%S.%N %z", "%Y-%m-%d %H:%M:%S.%N %z")
  | _, "long-iso" => return ("%Y-%m-%d %H:%M", "%Y-%m-%d %H:%M")
  | _, "iso" => return ("%m-%d %H:%M", "%Y-%m-%d ")
  | _, "locale" => return ("%b %e %H:%M", "%b %e  %Y")
  | _, _ => do
    tell ("invalid argument " ++ Quote.curly r ++ " for " ++ Quote.curly "time style")
    complain ("Valid arguments are:\n  - [posix-]full-iso\n  - [posix-]long-iso\n"
      ++ "  - [posix-]iso\n  - [posix-]locale\n"
      ++ "  - +FORMAT (e.g., +%H:%M) for a 'date'-style format\n").toList
    complain (helpHint (← get).name)
    quit 2

/-- The manner that options ask for. -/
def listManner (a : Arguments) : Procedure ListManner := do
  let given ← a.given.mapM fun (c, value) => do
    if c = '9' then return (← listChoice c "--sort" value, [])
    if c = '7' then return (← listChoice c "--format" value, [])
    return (if c = '0' then 'l' else c, value)
  let arguments := { a with given }
  let form := match arguments.lastOf? "1lmgnoxC" with
    | some 'm' => ListForm.commas
    | some 'x' => .rows
    | some 'C' => .columns
    | some '1' =>
      if arguments.has 'l' || arguments.has 'g' || arguments.has 'n' || arguments.has 'o' then .long
      else .single
    | some _ => .long
    | none => .single
  let order := match arguments.lastOf? "fUStXvw" with
    | some 'S' => ListOrder.size
    | some 't' => .time
    | some 'X' => .ending
    | some 'v' => .version
    | some 'w' => .width
    | some _ => .none
    | none => if form ≠ .long && (arguments.has 'c' || arguments.has 'u') then .time else .name
  let style := match a.value? '#' with
    | some r => r
    | none => if a.has '0' then "full-iso" else "locale"
  let width ← match a.value? 'w', (← valueOf? "COLUMNS").bind Raw.toNat? with
    | some r, _ =>
      match Raw.toNat? r with
      | some n => pure n
      | none => refuse 2 ("invalid line width: " ++ Quote.curly r)
    | none, some n => pure n
    | none, none => pure 80
  return { form, order, arguments, timeFormats := ← timeStyle style, width }

/-! ## Nodes -/

/-- A node in a listing. -/
structure Listed where
  /-- Its name. -/
  name : Raw
  /-- The node. -/
  node : FileTree
  /-- Whether nothing but the name is known. -/
  isHidden : Bool

/-- The size that a node is listed with. -/
def sizeOf : FileTree → Nat
  | .file f => f.content.size
  | .link target => target.text.utf8ByteSize
  | .directory _ _ => 4096
  | .pipe _ | .device _ => 0

/-- How many blocks of 1024 bytes a node takes. -/
def blocksOf : FileTree → Nat
  | .file f => (f.content.size + 4095) / 4096 * 4
  | .directory _ _ => 4
  | .link _ | .pipe _ | .device _ => 0

/-- When a node was changed last. -/
def timeOf (node : FileTree) : Int :=
  ((node.attributes?).map (·.time)).getD Attributes.start

/-- What comes after the last point of a name, with it. -/
def endingOf (name : Raw) : Raw :=
  if name.contains '.' then '.' :: (name.reverse.takeWhile (· ≠ '.')).reverse else []

/-- Nodes in the order of a listing. -/
def inOrder (m : ListManner) (nodes : List Listed) : List Listed :=
  let byName (nodes : List Listed) : List Listed :=
    nodes.mergeSort fun x y => Raw.isAtMost x.name y.name
  let sorted := match m.order with
    | .none => nodes
    | .name => byName nodes
    | .time => (byName nodes).mergeSort fun x y => timeOf y.node ≤ timeOf x.node
    | .size => (byName nodes).mergeSort fun x y => sizeOf y.node ≤ sizeOf x.node
    | .ending => (byName nodes).mergeSort fun x y => Raw.isAtMost (endingOf x.name) (endingOf y.name)
    | .version => (byName nodes).mergeSort fun x y => Version.order x.name y.name != .gt
    | .width =>
      (byName nodes).mergeSort fun x y => Raw.wideLength x.name ≤ Raw.wideLength y.name
  let sorted := if m.arguments.has 'r' && m.order ≠ .none then sorted.reverse else sorted
  if m.arguments.has '2' then
    let isDirectory (l : Listed) : Bool := l.node matches .directory _ _
    sorted.filter isDirectory ++ sorted.filter (!isDirectory ·)
  else sorted

/-! ## Names -/

/-- A name in the way that options ask for. -/
def shownName (a : Arguments) (name : Raw) : Raw :=
  let style := match a.value? '6', a.lastOf? "QNb" with
    | some r, _ => String.ofList r
    | none, some 'Q' => "c"
    | none, some 'b' => "escape"
    | none, _ => "literal"
  let escaped (quotes : Bool) : Raw := (Raw.widen name).flatMap fun c =>
    if c = '\\' then ['\\', '\\']
    else if c = '"' && quotes then ['\\', '"']
    else if c = ' ' && !quotes then ['\\', ' ']
    else if Quote.isVisible c then Raw.narrowOne c
    else (Raw.narrowOne c).flatMap Quote.escapeOf
  match style with
  | "c" => '"' :: escaped true ++ ['"']
  | "escape" => escaped false
  | "shell" | "shell-escape" => Quote.asNeeded name
  | "shell-always" | "shell-escape-always" => Quote.always name
  | "locale" => Quote.curly name
  | _ =>
    if a.lastOf? "q8" = some 'q' then
      (Raw.widen name).flatMap fun c => if Quote.isVisible c then Raw.narrowOne c else ['?']
    else name

/-- The mark for the kind of a node, if one is asked for. -/
def kindMark (a : Arguments) (node : FileTree) : Raw :=
  let style := match a.value? '5', a.lastOf? "Fp3" with
    | some r, _ => String.ofList r
    | none, some 'F' => "classify"
    | none, some '3' => "file-type"
    | none, some _ => "slash"
    | none, none => "none"
  match node with
  | .directory _ _ => if style = "none" then [] else ['/']
  | .link _ => if style = "classify" || style = "file-type" then ['@'] else []
  | .pipe _ => if style = "classify" || style = "file-type" then ['|'] else []
  | .file f => if style = "classify" && f.isExecutable then ['*'] else []
  | .device _ => []

/-- A text with blanks before it, so that it is at least so wide. -/
def rightward (width : Nat) (r : Raw) : Raw :=
  List.replicate (width - Raw.wideLength r) ' ' ++ r

/-- A text with blanks after it, so that it is at least so wide. -/
def leftward (width : Nat) (r : Raw) : Raw :=
  r ++ List.replicate (width - Raw.wideLength r) ' '

/-- A size in the units that people read, with a letter for the unit. -/
def humanSize (base n : Nat) : Raw :=
  let units := if base = 1024 then "KMGTPE" else "kMGTPE"
  let rec grow : (fuel : Nat) → List Char → (n unit : Nat) → Raw
    | 0, _, n, _ => Raw.ofNat n
    | _, [], n, _ => Raw.ofNat n
    | fuel + 1, c :: more, n, unit =>
      let unit := unit * base
      if n < unit * base || more.isEmpty then
        let tenths := (10 * n + unit - 1) / unit
        if tenths < 100 then Raw.ofNat (tenths / 10) ++ '.' :: Raw.ofNat (tenths % 10) ++ [c]
        else
          let whole := (n + unit - 1) / unit
          if whole = base && !more.isEmpty then grow fuel more n unit else Raw.ofNat whole ++ [c]
      else grow fuel more n unit
  if n < base then Raw.ofNat n else grow 10 units.toList n 1

/-- A size as it is listed. -/
def shownSize (a : Arguments) (n : Nat) : Raw :=
  match a.lastOf? "h*" with
  | some 'h' => humanSize 1024 n
  | some _ => humanSize 1000 n
  | none => Raw.ofNat n

/-- A number of blocks as it is listed. -/
def shownBlocks (a : Arguments) (n : Nat) : Raw :=
  match a.lastOf? "h*" with
  | some 'h' => if n = 0 then ['0'] else humanSize 1024 (1024 * n)
  | some _ => if n = 0 then ['0'] else humanSize 1000 (1024 * n)
  | none =>
    match (a.value? '(').bind Raw.toNat? with
    | some (size + 1) => Raw.ofNat ((1024 * n + size) / (size + 1))
    | _ => Raw.ofNat n

/-! ## The long form -/

/-- What the long form says of a node, part by part: its permissions, the number of
    its names, who owns it, its size and when it was changed. -/
structure LongParts where
  /-- The kind and the permissions. -/
  mode : Raw
  /-- The number of names. -/
  links : Raw
  /-- The owner and the group. -/
  owners : List Raw
  /-- The size. -/
  size : Raw
  /-- The time. -/
  time : Raw

/-- How many names a node has. -/
def linkCount (tree : FileTree) : FileTree → Nat
  | .file f =>
    match f.kinship with
    | none => 1
    | some n => ((tree.nodes []).filter fun (_, node) => match node with
        | .file g => g.kinship = some n
        | _ => false).length
  | .directory _ entries => 2 + (entries.filter fun (_, node) => node matches .directory _ _).length
  | .link _ | .pipe _ | .device _ => 1

/-- The letter and the permissions of a node. -/
def modeLetters : FileTree → Raw
  | .directory a _ => 'd' :: Mode.letters a.permissions
  | .file f => '-' :: Mode.letters f.attributes.permissions
  | .link _ => "lrwxrwxrwx"
  | .pipe _ => "prw-r--r--"
  | .device _ => "crw-rw-rw-"

/-- The parts of the long form for a node. -/
def longParts (m : ListManner) (tree : FileTree) (now : Moment) (l : Listed) : LongParts :=
  let a := m.arguments
  let owner : List Raw := if a.has 'g' then [] else ["root"]
  let group : List Raw := if a.has 'o' || a.has 'G' then [] else ["root"]
  if l.isHidden then
    { mode := "-?????????", links := "?", owners := (owner ++ group).map fun _ => "?"
      size := "?", time := "           ?" }
  else
    let moment := Moment.ofNanoseconds (timeOf l.node)
    let isNew := moment.total ≤ now.total
      && now.total - 31556952 / 2 * Moment.secondSize < moment.total
    let (new, old) := m.timeFormats
    { mode := modeLetters l.node
      links := Raw.ofNat (linkCount tree l.node)
      owners := owner ++ group
      size := shownSize a (sizeOf l.node)
      time := moment.format "UTC" (if isNew then new else old) }

/-- Lines of the long form. -/
def longLines (m : ListManner) (tree : FileTree) (now : Moment) (nodes : List Listed) : List Raw :=
  let a := m.arguments
  let parts := nodes.map fun l => (l, longParts m tree now l)
  let widest (f : LongParts → Raw) : Nat := parts.foldl (fun w (_, p) => max w (f p).length) 0
  let ownersWidth := parts.foldl (fun widths (_, p) =>
    (widths ++ List.replicate (p.owners.length - widths.length) 0).zipWith
      (fun w (r : Raw) => max w r.length) p.owners) ([] : List Nat)
  let blocks (l : Listed) : Raw := shownBlocks a (blocksOf l.node)
  let blocksWidth := nodes.foldl (fun w l => max w (blocks l).length) 0
  parts.map fun (l, p) =>
    let start := if a.has 's' then rightward blocksWidth (blocks l) ++ [' '] else []
    let owners := (p.owners.zip ownersWidth).flatMap fun (r, w) => leftward w r ++ [' ']
    let target : Raw := match l.node with
      | .link target => " -> ".toList ++ shownName a (Raw.ofText target.text)
      | _ => []
    let mark := match l.node with
      | .link _ => []
      | node => kindMark a node
    start ++ p.mode ++ ' ' :: rightward (widest (·.links)) p.links ++ ' ' :: owners
      ++ rightward (widest (·.size)) p.size ++ ' ' :: p.time ++ ' ' :: shownName a l.name
      ++ mark ++ target

/-! ## Columns -/

/-- The widths of columns for items, if there are so many columns and the items fill
    them in rows or one after another. -/
def columnWidths (byRows : Bool) (widths : List Nat) (columns : Nat) : List Nat :=
  let count := widths.length
  let height := (count + columns - 1) / columns
  (List.range columns).map fun column =>
    let items := widths.zipIdx.filter fun (_, i) =>
      if byRows then i % columns = column else i / height = column
    let widest := items.foldl (fun w (n, _) => max w n) 0
    max 3 (if column + 1 = columns then widest else widest + 2)

/-- The greatest number of columns, at most `n`, that fit on a line. -/
def columnsFor (byRows : Bool) (widths : List Nat) (width : Nat) : (n : Nat) → Nat
  | 0 => 1
  | n + 1 =>
    if n = 0 then 1
    else if (columnWidths byRows widths (n + 1)).foldl (· + ·) 0 < width then n + 1
    else columnsFor byRows widths width n

/-- What leads from one place on a line to another, with at most `n` characters. -/
def indentation (tab : Nat) : (n : Nat) → (start finish : Nat) → Raw
  | 0, _, _ => []
  | n + 1, start, finish =>
    if finish ≤ start then []
    else if tab ≠ 0 && (start + 1) / tab < finish / tab then
      '\t' :: indentation tab n (start + tab - start % tab) finish
    else ' ' :: indentation tab n (start + 1) finish

/-- A row of items in columns. -/
def columnRow (tab : Nat) (items : List Raw) (widths : List Nat) : Raw :=
  let rec go : (place : Nat) → List Raw → List Nat → Raw
    | _, [], _ => []
    | _, [r], _ => r
    | _, r :: _, [] => r
    | place, r :: rest, w :: widths =>
      r ++ indentation tab w (place + Raw.wideLength r) (place + w) ++ go (place + w) rest widths
  go 0 items widths ++ ['\n']

/-- Items in columns. -/
def inColumns (byRows : Bool) (tab width : Nat) (items : List Raw) : Raw :=
  let widths := items.map Raw.wideLength
  let most := min items.length ((width + 2) / 3)
  let columns := if width = 0 then items.length else columnsFor byRows widths width most
  if columns = 0 then []
  else
    let columnWidths := columnWidths byRows widths columns
    let height := (items.length + columns - 1) / columns
    (List.range height).flatMap fun row =>
      let here := items.zipIdx.filter fun (_, i) =>
        if byRows then i / columns = row else i % height = row
      columnRow tab (here.map (·.1)) columnWidths

/-- Items with commas between them, on lines that are at most so wide. -/
def withCommas (width : Nat) (items : List Raw) : Raw :=
  match items with
  | [] => []
  | first :: rest =>
    let (r, _) := rest.foldl (fun (r, place) item =>
      let size := Raw.wideLength item
      if width = 0 || place + 2 + size + 2 ≤ width + 2 && place + size + 2 < width then
        (r ++ ", ".toList ++ item, place + 2 + size)
      else (r ++ ",\n".toList ++ item, size)) (first, Raw.wideLength first)
    r ++ ['\n']

/-! ## Listing -/

/-- Writes the names of nodes. -/
def writeNames (m : ListManner) (nodes : List Listed) : Procedure Unit := do
  let a := m.arguments
  let finish : Raw := if a.has '$' then ['\x00'] else ['\n']
  let blocks (l : Listed) : Raw := shownBlocks a (blocksOf l.node)
  let blocksWidth := nodes.foldl (fun w l => max w (blocks l).length) 0
  let item (aligned : Bool) (l : Listed) : Raw :=
    (if a.has 's' then rightward (if aligned then blocksWidth else 0) (blocks l) ++ [' '] else [])
      ++ shownName a l.name ++ kindMark a l.node
  let tab := ((a.value? 'T').bind Raw.toNat?).getD 8
  match m.form with
  | .long =>
    write ((longLines m (← get).machine.tree (← presentTime) nodes).flatMap (· ++ finish))
  | .single => write (nodes.flatMap fun l => item true l ++ finish)
  | .commas => write (withCommas m.width (nodes.map (item false)))
  | .columns => write (inColumns false tab m.width (nodes.map (item true)))
  | .rows => write (inColumns true tab m.width (nodes.map (item true)))
where
  /-- The moment that it is now. -/
  presentTime : Procedure Moment := do
    return .ofNanoseconds (← get).machine.time

/-- The nodes of a directory that are listed. -/
def visibleNodes (m : ListManner) (isOpen : Bool) (a : Attributes)
    (entries : List (String × FileTree)) : List Listed :=
  let arguments := m.arguments
  let nodes := entries.map fun (name, node) =>
    ({ name := Raw.ofText name, node, isHidden := !isOpen } : Listed)
  let isAll : Bool := (arguments.lastOf? "aAf").any fun c => c = 'a' || c = 'f'
  let shown := if isAll || arguments.has 'A' then nodes
    else nodes.filter (·.name.head? ≠ some '.')
  let ignored := arguments.values 'I'
    ++ (if arguments.has 'B' then ["*~".toList] else [])
    ++ (if isAll || arguments.has 'A' then [] else arguments.values '4')
  let patterns := ignored.map FilePattern.ofRaw
  let shown := shown.filter fun l => !patterns.any (·.acceptsRaw l.name)
  let self (name : Raw) : Listed := { name, node := .directory a [], isHidden := false }
  if isAll then self ['.'] :: self ['.', '.'] :: shown else shown

/-- What a name in a directory stands for where links are followed. -/
def followed (m : ListManner) (directory : Raw) (l : Listed) : Procedure Listed := do
  if m.arguments.has 'L' && (l.node matches .link _) then
    match ← find (within directory l.name) with
    | .ok node => return { l with node }
    | .error _ => return l
  return l

/-- Lists directories, each under its name if there are `several`, and those in
    them at most `n` levels further down if asked to. The answer is a status. -/
def listDirectories (m : ListManner) (several : Bool) : (n : Nat) → (isFirst : Bool) →
    (isTop : Bool) → List Raw → Procedure Nat
  | 0, _, _, _ => return 0
  | n + 1, isFirst, isTop, directories => do
    let a := m.arguments
    let (_, status) ← directories.foldlM (fun (isFirst, status) directory => do
      match ← find directory with
      | .ok (.directory attributes entries) => do
        if !attributes.isReadable then
          let _ ← refuseFile "cannot open directory" directory .denied
          return (isFirst, if isTop then 2 else max status 1)
        let looksAt := m.form = .long || a.has 's' || a.has 'F' || m.order = .time || m.order = .size
        let isOpen := attributes.isPassable || !looksAt
        let nodes ← (visibleNodes m isOpen attributes entries).mapM (followed m directory)
        let nodes := inOrder m nodes
        let hidden := nodes.filter (·.isHidden)
        hidden.forM fun l => do
          let _ ← refuseFile "cannot access" (within directory l.name) .denied
        if !isFirst then write ['\n']
        if several || a.has 'R' then write (directory ++ ":\n".toList)
        if m.form = .long || a.has 's' then
          let total := nodes.foldl (fun n l => if l.isHidden then n else n + blocksOf l.node) 0
          write ("total ".toList ++ shownBlocks a total ++ ['\n'])
        writeNames m nodes
        let status := if hidden.isEmpty then status else max status 1
        if a.has 'R' then
          let below := nodes.filter fun l =>
            (l.node matches .directory _ _) && l.name ≠ ['.'] && l.name ≠ ['.', '.']
          let inner ← listDirectories m several n false false
            (below.map fun l => within directory l.name)
          return (false, max status inner)
        return (false, status)
      | _ => return (isFirst, status)) (isFirst, 0)
    return status

/-- Lists files and the names in directories. -/
def ls (arguments : List Raw) : Procedure Nat := do
  let a ← readArguments lsOptions arguments
  let m ← listManner a
  let a := m.arguments
  let operands := if a.operands.isEmpty then [['.']] else a.operands
  let (nodes, status) ← operands.foldlM (fun (nodes, status) r => do
    let named ← findName r
    let staysAtLink := a.has 'd' || m.form = .long || a.has 'F'
    let found ← if staysAtLink && !a.has 'L' && !a.has 'H' then
        match named with
        | .ok (.link _) => if r.getLast? = some '/' then find r else pure named
        | other => pure other
      else find r
    let found : Except FileFault FileTree := match found, named with
      | .error _, .ok node => .ok node
      | .ok node, .ok (.link target) =>
        let isFollowed := a.has 'L' || a.has 'H' || (node matches .directory _ _)
        .ok (if isFollowed then node else .link target)
      | found, _ => found
    match found with
    | .ok node => return (nodes ++ [({ name := r, node, isHidden := false } : Listed)], status)
    | .error fault => do
      let _ ← refuseFile "cannot access" r fault
      return (nodes, 2)) (([], 0) : List Listed × Nat)
  let isDirectory (l : Listed) : Bool := !a.has 'd' && (l.node matches .directory _ _)
  let files := inOrder m (nodes.filter (!isDirectory ·))
  let directories := inOrder m (nodes.filter isDirectory)
  writeNames m files
  let listing ← listDirectories m (1 < operands.length) 4096 files.isEmpty true
    (directories.map (·.name))
  return max status listing

end Utility

end MapAudit.Script
