import MapAudit.Script.Utility.Input

/-! # Utilities on lines

    These write files, or parts of them, or what can be counted in them. A file
    that cannot be read is complained about, and the others are still looked at.
-/

namespace MapAudit.Script

namespace Utility

open Procedure

/-! ## Whole files -/

/-- A character as it is written where unprintable ones are shown. -/
def visible (n : Nat) : Raw :=
  if n < 32 then ['^', Char.ofNat (n + 64)]
  else if n < 127 then [Char.ofNat n]
  else ['^', '?']

/-- What is made of a text before it is written. -/
structure Rendering where
  /-- Whether lines have numbers. -/
  numbersAll : Bool
  /-- Whether lines that are not empty have numbers. -/
  numbersFilled : Bool
  /-- Whether of several empty lines in a row just one is written. -/
  squeezes : Bool
  /-- Whether the ends of lines are shown. -/
  showsEnds : Bool
  /-- Whether tabs are shown. -/
  showsTabs : Bool
  /-- Whether what cannot be printed is shown. -/
  showsHidden : Bool

namespace Rendering

/-- A character as it is written. -/
def character (s : Rendering) (c : Char) : Raw :=
  if c = '\t' then (if s.showsTabs then ['^', 'I'] else ['\t'])
  else if !s.showsHidden then [c]
  else if c.toNat < 128 then visible c.toNat
  else 'M' :: '-' :: visible (c.toNat - 128)

/-- A line as it is written, without its end. -/
def content (s : Rendering) (isEnded : Bool) (l : Raw) : Raw :=
  if isEnded && s.showsEnds && !s.showsHidden && l.getLast? = some '\r' then
    l.dropLast.flatMap s.character ++ ['^', 'M']
  else l.flatMap s.character

/-- Where the numbering of lines stands. -/
structure Position where
  /-- The number of the next line that gets one. -/
  number : Nat
  /-- Number of empty lines just before. -/
  empties : Nat

/-- A line as it is written, perhaps with its end, and the position after it. -/
def line (s : Rendering) (p : Position) (l : Raw) : Raw × Position :=
  let (bare, isEnded) := withoutEnd '\n' l
  let isEmpty := isEnded && bare.isEmpty
  let empties := if isEmpty then p.empties + 1 else 0
  if s.squeezes && isEmpty && 0 < p.empties then ([], { p with empties })
  else
    let isNumbered := if s.numbersFilled then !isEmpty else s.numbersAll
    let start := if isNumbered then padded 6 p.number ++ ['\t'] else []
    let finish : Raw :=
      if isEnded then (if s.showsEnds then ['$', '\n'] else ['\n']) else []
    (start ++ s.content isEnded bare ++ finish,
      { number := if isNumbered then p.number + 1 else p.number, empties })

/-- Lines as they are written, and the position after them. -/
def lines (s : Rendering) (p : Position) (ls : List Raw) : Raw × Position :=
  let (shown, p) := ls.foldl (fun (shown, p) l =>
    let (r, p) := s.line p l
    (r :: shown, p)) (([], p) : List Raw × Position)
  (shown.reverse.flatten, p)

/-- Whether a text is written as it is. -/
def isPlain (s : Rendering) : Bool :=
  !(s.numbersAll || s.numbersFilled || s.squeezes || s.showsEnds || s.showsTabs || s.showsHidden)

end Rendering

/-- The options of `cat`. -/
def catOptions : OptionTable where
  letters := "benstuvAET"
  names := [("number-nonblank", 'b'), ("number", 'n'), ("squeeze-blank", 's'),
    ("show-nonprinting", 'v'), ("show-ends", 'E'), ("show-tabs", 'T'), ("show-all", 'A')]

/-- Whether what is read from a channel is what the output goes to, so that there
    would be no end of it. -/
def isOwnOutput (i : Nat) : Procedure Bool := do
  let m := (← get).machine
  match m.channel i, (← channelOf? 1).map m.channel with
  | .file source readOffset _, some (.file target offset access) =>
    let size := ((m.fileAt? target).map (·.content.size)).getD 0
    return areSame m source target && readOffset < (if access.appends then size else offset)
  | _, _ => return false

/-- How much is read at a time where nothing is done with it. -/
def greatPortion : Nat := 131072

/-- Writes files one after another. -/
def cat (arguments : List Raw) : Procedure Nat := do
  let a ← readArguments catOptions arguments
  let rendering : Rendering := {
    numbersAll := a.has 'n'
    numbersFilled := a.has 'b'
    squeezes := a.has 's'
    showsEnds := a.has 'e' || a.has 'E' || a.has 'A'
    showsTabs := a.has 't' || a.has 'T' || a.has 'A'
    showsHidden := a.has 'e' || a.has 't' || a.has 'v' || a.has 'A' }
  let start : Rendering.Position × Raw := ({ number := 1, empties := 0 }, [])
  let (state, status) ← (filesOf a.operands).foldlM (fun (state, status) file => do
    let copied ← withOperand file fun i => do
      if ← isOwnOutput i then
        tell (Quote.asNeeded file ++ ": input file is output file".toList)
        return (state, false)
      if rendering.isPlain then
        eachPortion i greatPortion () fun _ r => do
          write r
          flush
          return ((), true)
        return (state, true)
      let state ← eachPortion i greatPortion state fun (position, before) r => do
        let (ended, part) := endedParts '\n' (before ++ r)
        let (shown, position) := rendering.lines position ended
        write shown
        return ((position, part), true)
      return (state, true)
    match copied with
    | .ok (state, isFine) => return (state, if isFine then status else 1)
    | .error fault => do
      tellFile file fault
      return (state, 1)) (start, 0)
  let (position, part) := state
  if !part.isEmpty then write (rendering.line position part).1
  return status

/-- The options of `tee`. -/
def teeOptions : OptionTable where
  letters := "aip"
  names := [("append", 'a'), ("ignore-interrupts", 'i'), ("output-error?", 'p')]

/-- Writes the input to files and as output. -/
def tee (arguments : List Raw) : Procedure Nat := do
  let a ← readArguments teeOptions arguments
  if a.has 'i' then onSelf fun p => { p with ignored := 2 :: p.ignored }
  if a.has 'p' then onSelf fun p => { p with ignored := Signal.pipe :: p.ignored }
  let mode : OpenMode := if a.has 'a' then .append else .write
  let opened ← a.operands.mapM fun file => do
    match ← openFile mode file with
    | .ok i => do
      hold i
      return some (file, i)
    | .error fault => do
      tellFile file fault
      return none
  let sinks := opened.filterMap fun sink => sink
  let failed := opened.any Option.isNone
  match ← channelOf? 0 with
  | none => do
    tell "read error: Bad file descriptor"
    modify fun s => { s with lacksInput := true }
    return 1
  | some i => do
    let (_, failed) ← eachPortion i greatPortion (sinks, failed) fun (sinks, failed) r => do
      write r
      flush
      let left ← sinks.filterM fun (file, sink) => do
        match ← pour sink r with
        | none => return true
        | some fault => do
          tell (Quote.asNeeded file ++ ": ".toList ++ fault.text)
          return false
      return ((left, failed || left.length < sinks.length), true)
    return if failed then 1 else 0

/-! ## Parts of files -/

/-- What a suffix of a number multiplies it with. -/
def scale? (suffix : Raw) : Option Nat :=
  let power (base n : Nat) : Nat := (List.replicate n base).foldl (· * ·) 1
  let steps := "KMGTPEZY".toList
  match suffix with
  | [] => some 1
  | ['b'] => some 512
  | ['k'] => some 1024
  | [c] => if steps.contains c then some (power 1024 (steps.idxOf c + 1)) else none
  | [c, 'B'] =>
    let c := if c = 'k' then 'K' else c
    if steps.contains c then some (power 1000 (steps.idxOf c + 1)) else none
  | [c, 'i', 'B'] => if steps.contains c then some (power 1024 (steps.idxOf c + 1)) else none
  | _ => none

/-- The number that a text says, perhaps with a suffix. -/
def amount? (r : Raw) : Option Nat := do
  let digits := r.takeWhile Char.isDigit
  return (← Raw.toNat? digits) * (← scale? (r.drop digits.length))

/-- **Portion** of a file: so many lines or bytes at an end of it, or all but so
    many, or from a number on. -/
structure Portion where
  /-- Whether bytes are counted. -/
  inBytes : Bool
  /-- The number. -/
  count : Nat
  /-- Whether there was a mark before the number that turns its meaning. -/
  isTurned : Bool

/-- Reads a portion. -/
def readPortion (mark : Char) (inBytes : Bool) (r : Raw) : Procedure Portion := do
  let isTurned : Bool := r.head? = some mark
  let digits := match r with
    | '-' :: rest | '+' :: rest => rest
    | r => r
  match amount? digits with
  | some count => return { inBytes, count, isTurned }
  | none =>
    let what : Raw := if inBytes then "bytes" else "lines"
    let shown := if r.head? = some '-' then digits else r
    refuse 1 ("invalid number of " ++ what ++ ": " ++ Quote.curly shown)

/-- The units of a text that portions count. -/
def units (inBytes : Bool) (finish : Char) (r : Raw) : List Raw :=
  if inBytes then r.map fun c => [c]
  else
    let (ended, last) := endedParts finish r
    if last.isEmpty then ended else ended ++ [last]

/-- The first argument of an old form, with a number behind the dash. -/
def oldPortion? (marks : List Char) (arguments : List Raw) : Option (List Raw) :=
  match arguments with
  | (mark :: c :: more) :: rest =>
    if marks.contains mark && c.isDigit then
      let digits := (c :: more).takeWhile Char.isDigit
      let sign : Raw := if mark = '+' then ['+'] else []
      match (c :: more).drop digits.length with
      | [] | ['l'] => some (('-' :: 'n' :: sign ++ digits) :: rest)
      | ['c'] => some (('-' :: 'c' :: sign ++ digits) :: rest)
      | _ => none
    else none
  | _ => none

/-- Writes portions of files, each under its name if there are several. Where there is no
    input, it is said what `failed`. -/
def writePortions (failed : Raw) (a : Arguments) (writeFrom : Nat → Procedure Unit) :
    Procedure Nat := do
  let files := filesOf a.operands
  let isNamed : Bool := match a.lastOf? "qv" with
    | some 'v' => true
    | some _ => false
    | none => 1 < files.length
  let title (isFirst : Bool) (file : Raw) : Procedure Unit := do
    if isNamed then
      let name : Raw := if file = ['-'] then "standard input" else file
      write ((if isFirst then [] else ['\n']) ++ "==> ".toList ++ name ++ " <==\n".toList)
  let (_, status) ← files.foldlM (fun (isFirst, status) file => do
    let shown : Raw := if file = ['-'] then "standard input" else file
    let written ← withOperand file fun i => do
      title isFirst file
      writeFrom i
    match written with
    | .ok () => return (false, status)
    | .error .isDirectory => do
      title isFirst file
      tell ("error reading " ++ Quote.always shown ++ ": Is a directory".toList)
      return (false, 1)
    | .error .noStream => do
      title isFirst file
      tell (failed ++ ' ' :: Quote.always shown ++ ": ".toList ++ faultText .noStream)
      return (false, 1)
    | .error fault => do
      tell ("cannot open " ++ Quote.always shown ++ " for reading: " ++ faultText fault)
      return (isFirst, 1)) ((true, 0) : Bool × Nat)
  return status

/-- The options of `head`. -/
def headOptions : OptionTable where
  letters := "c:n:qvz"
  names := [("bytes=", 'c'), ("lines=", 'n'), ("quiet", 'q'), ("silent", 'q'), ("verbose", 'v'),
    ("zero-terminated", 'z')]

/-- The portion that options ask for. -/
def portionOf (mark : Char) (a : Arguments) : Procedure Portion :=
  a.given.foldlM (fun portion (c, value) =>
    if c = 'n' || c = 'c' then readPortion mark (c = 'c') value else return portion)
    { inBytes := false, count := 10, isTurned := false }

/-- Writes the first units of a channel. -/
def writeFirst (portion : Portion) (finish : Char) (i : Nat) : Procedure Unit := do
  if portion.isTurned then
    let all := units portion.inBytes finish ((← drain i).toOption.getD [])
    write (all.take (all.length - portion.count)).flatten
  else if portion.count = 0 then return ()
  else if portion.inBytes then
    stepwise portion.count fun left => do
      match ← pull i (min left 8192) with
      | .error _ | .ok [] => return .done ()
      | .ok r => do
        write r
        return if left ≤ r.length then .done () else .more (left - r.length)
  else
    let _ ← eachLine i finish portion.count fun left l => do
      write l
      return (left - 1, 1 < left)

/-- Writes the first lines of files. -/
def head (arguments : List Raw) : Procedure Nat := do
  let a ← readArguments headOptions ((oldPortion? ['-'] arguments).getD arguments)
  let portion ← portionOf '-' a
  writePortions "error reading" a (writeFirst portion (if a.has 'z' then '\x00' else '\n'))

/-- The options of `tail`. -/
def tailOptions : OptionTable where
  letters := "c:n:fFqs:vz"
  names := [("bytes=", 'c'), ("follow?", 'f'), ("lines=", 'n'), ("max-unchanged-stats=", 'M'),
    ("pid=", 'P'), ("quiet", 'q'), ("retry", 'R'), ("silent", 'q'), ("sleep-interval=", 's'),
    ("verbose", 'v'), ("zero-terminated", 'z')]

/-- Writes the last units of a channel, or those from a number on. -/
def writeLast (portion : Portion) (finish : Char) (i : Nat) : Procedure Unit := do
  if portion.isTurned then
    if portion.inBytes then
      let _ ← eachPortion i 8192 (portion.count - 1) fun skipped r => do
        write (r.drop skipped)
        return (skipped - r.length, true)
    else
      let _ ← eachLine i finish (portion.count - 1) fun skipped l => do
        if skipped = 0 then write l
        return (skipped - 1, true)
  else
    let all := units portion.inBytes finish ((← drain i).toOption.getD [])
    write (all.drop (all.length - portion.count)).flatten

/-- How long a program waits that follows a file. -/
def followPause : Nat := 1000000000

/-- Writes what is added to a file from now on. -/
def follow (i : Nat) : Procedure Unit :=
  stepwise () fun _ => do
    match ← pull i 8192 with
    | .error _ => return .done ()
    | .ok [] => do
      if (← get).machine.channel i matches .pipe _ _ then return .done ()
      flush
      rest followPause .nothing
      return .more ()
    | .ok r => do
      write r
      return .more ()

/-- Writes the last lines of files, or those from a number on. -/
def tail (arguments : List Raw) : Procedure Nat := do
  let a ← readArguments tailOptions ((oldPortion? ['-', '+'] arguments).getD arguments)
  let portion ← portionOf '+' a
  writePortions "cannot fstat" a fun i => do
    writeLast portion (if a.has 'z' then '\x00' else '\n') i
    if a.has 'f' || a.has 'F' then follow i

/-! ## Counting -/

/-- The options of `wc`. -/
def wcOptions : OptionTable where
  letters := "clLmw"
  names := [("bytes", 'c'), ("chars", 'm'), ("lines", 'l'), ("words", 'w'), ("files0-from=", 'F'),
    ("max-line-length", 'L'), ("total=", 'T')]

/-- Whether a character of a wide text is printed. -/
def isShown (c : Char) : Bool :=
  !Raw.isMark c && Text.isPrinted c

/-- Whether a character separates words. -/
def separatesWords (c : Char) : Bool :=
  if c.toNat < 0x80 then c = ' ' || ('\t' ≤ c && c ≤ '\r')
  else Text.isPrinted c && (Text.isGap c || [0xA0, 0x2007, 0x202F, 0x2060].contains c.toNat)

/-- Number of words in a wide text. What is not printed is not a word by itself. -/
def wordCount (w : List Char) : Nat :=
  let (count, isOpen) := w.foldl (fun (count, isOpen) c =>
    if separatesWords c then ((if isOpen then count + 1 else count), false)
    else (count, isOpen || isShown c)) ((0, false) : Nat × Bool)
  if isOpen then count + 1 else count

/-- The width of the widest line of a wide text. -/
def greatestWidth (w : List Char) : Nat :=
  let (greatest, here) := w.foldl (fun (greatest, here) c =>
    if c = '\n' || c = '\r' || c = '\x0c' then (max greatest here, 0)
    else if c = '\t' then (greatest, here + 8 - here % 8)
    else if Raw.isMark c then (greatest, here)
    else (greatest, here + Text.columns c)) ((0, 0) : Nat × Nat)
  max greatest here

/-- The size of a file that counts are written for; there is none when it is not
    known. -/
def knownSize? (file : Raw) : Procedure (Option Nat) := do
  if file = ['-'] then
    match ← channelOf? 0 with
    | none => return none
    | some i =>
      let m := (← get).machine
      match m.channel i with
      | .file place _ _ => return (m.fileAt? place).map (·.content.size)
      | _ => return none
  else match ← find file with
    | .ok (.file f) => return some f.content.size
    | .ok _ => return none
    | .error _ => return some 0

/-- Writes the numbers of lines, words and bytes of files. -/
def wc (arguments : List Raw) : Procedure Nat := do
  let a ← readArguments wcOptions arguments
  let asked := "lwmcL".toList.filter fun c =>
    if a.given.any (fun (d, _) => d ≠ 'F' && d ≠ 'T') then a.has c else "lwc".toList.contains c
  let files := filesOf a.operands
  let sizes ← files.mapM knownSize?
  let width := if files.length = 1 && asked.length = 1 then 1
    else
      let total := sizes.foldl (fun n size => n + size.getD 0) 0
      max (Raw.ofNat total).length (if sizes.any Option.isNone then 7 else 1)
  let counts (r : Raw) : List Nat := asked.map fun c => match c with
    | 'l' => r.count '\n'
    | 'w' => wordCount (Raw.widen r)
    | 'm' => (Raw.widen r).countP (!Raw.isMark ·)
    | 'L' => greatestWidth (Raw.widen r)
    | _ => r.length
  let row (numbers : List Nat) (name : Raw) : Procedure Unit :=
    let shown := [' '].intercalate (numbers.map (padded width))
    write ((if name.isEmpty then shown else shown ++ ' ' :: name) ++ ['\n'])
  let (totals, status) ← files.foldlM (fun (totals, status) file => do
    let name := if a.operands.isEmpty then [] else file
    match ← readOperand file with
    | .ok r => do
      row (counts r) name
      let sums := (asked.zip (totals.zip (counts r))).map fun (c, n, m) =>
        if c = 'L' then max n m else n + m
      return (sums, status)
    | .error fault => do
      let shown : Raw := if fault = .noStream then "'standard input'" else Quote.asNeeded file
      tell (shown ++ ": ".toList ++ faultText fault)
      if fault = .isDirectory || fault = .noStream then row (counts []) name
      return (totals, 1)) ((asked.map fun _ => 0, 0) : List Nat × Nat)
  if 1 < files.length then row totals "total"
  return status

/-! ## Rearranging -/

/-- The options of `tac`. -/
def tacOptions : OptionTable where
  letters := "brs:"
  names := [("before", 'b'), ("regex", 'r'), ("separator=", 's')]

/-- Writes the lines of files, the last one first. -/
def tac (arguments : List Raw) : Procedure Nat := do
  let a ← readArguments tacOptions arguments
  let isFine ← withFiles a.operands (fun file fault => match fault with
    | .isDirectory => tell (Quote.asNeeded file ++ ": read error: Invalid argument".toList)
    | .noStream => tell "'standard input': read error: Bad file descriptor"
    | fault => tell ("failed to open " ++ Quote.always file ++ " for reading: " ++ faultText fault))
    fun file => write (linesWithEnds file.content).reverse.flatten
  return if isFine then 0 else 1

/-- The options of `rev`. -/
def revOptions : OptionTable where
  letters := "hV"
  names := []

/-- Writes the lines of files, each from its end to its start. -/
def rev (arguments : List Raw) : Procedure Nat := do
  let a ← readArguments revOptions arguments
  let (_, isFine) ← throughLines a.operands '\n'
    (fun file fault => tell ("cannot open " ++ file ++ ": " ++ faultText fault))
    () fun _ l => do
      let (bare, isEnded) := withoutEnd '\n' l
      write (bare.reverse ++ if isEnded then ['\n'] else [])
  return if isFine then 0 else 1

/-- The options of `nl`. -/
def nlOptions : OptionTable where
  letters := "b:d:f:h:i:l:n:ps:v:w:"
  names := [("body-numbering=", 'b'), ("section-delimiter=", 'd'), ("footer-numbering=", 'f'),
    ("header-numbering=", 'h'), ("line-increment=", 'i'), ("join-blank-lines=", 'l'),
    ("number-format=", 'n'), ("no-renumber", 'p'), ("number-separator=", 's'),
    ("starting-line-number=", 'v'), ("number-width=", 'w')]

/-- A number in the form that `nl` is asked for. -/
def numberShown (form : Raw) (width n : Nat) : Raw :=
  let digits := Raw.ofNat n
  match String.ofList form with
  | "ln" => digits ++ List.replicate (width - digits.length) ' '
  | "rz" => List.replicate (width - digits.length) '0' ++ digits
  | _ => padded width n

/-- Writes the lines of files with numbers. -/
def nl (arguments : List Raw) : Procedure Nat := do
  let a ← readArguments nlOptions arguments
  let number (letter : Char) (usual : Nat) : Nat := ((a.value? letter).bind Raw.toNat?).getD usual
  let width := number 'w' 6
  let separator := (a.value? 's').getD ['\t']
  let style := (a.value? 'b').getD ['t']
  let counted (l : Raw) : Bool := match style with
    | ['a'] => true
    | ['n'] => false
    | _ => !l.isEmpty
  let (_, isFine) ← throughLines a.operands '\n' tellFile (number 'v' 1) fun n l => do
    let bare := (withoutEnd '\n' l).1
    if counted bare then
      write (numberShown ((a.value? 'n').getD []) width n ++ separator ++ bare ++ ['\n'])
      return n + number 'i' 1
    else
      write (List.replicate (width + separator.length) ' ' ++ bare ++ ['\n'])
      return n
  return if isFine then 0 else 1

/-- The options of `fold`. -/
def foldOptions : OptionTable where
  letters := "bsw:"
  names := [("bytes", 'b'), ("spaces", 's'), ("width=", 'w')]

/-- A line in pieces that are at most so wide, in at most `n` steps. -/
def foldLine (width : Nat) (atSpaces : Bool) : (n : Nat) → Raw → List Raw
  | 0, l => [l]
  | n + 1, l =>
    if l.length ≤ width then [l]
    else
      let piece := l.take width
      let upToSpace := (piece.reverse.dropWhile (· ≠ ' ')).reverse
      let piece := if atSpaces && !upToSpace.isEmpty then upToSpace else piece
      piece :: foldLine width atSpaces n (l.drop piece.length)

/-- Writes files with their lines cut in pieces. -/
def fold (arguments : List Raw) : Procedure Nat := do
  let (old, arguments) := match arguments with
    | ('-' :: c :: more) :: rest =>
      if c.isDigit then (Raw.toNat? (c :: more), rest) else (none, arguments)
    | arguments => (none, arguments)
  let a ← readArguments foldOptions arguments
  let width ← match a.value? 'w' with
    | none => pure (old.getD 80)
    | some r =>
      match Raw.toNat? r with
      | some (n + 1) => pure (n + 1)
      | some 0 =>
        refuse 1 ("invalid number of columns: " ++ Quote.curly r
          ++ ": Numerical result out of range".toList)
      | none => refuse 1 ("invalid number of columns: " ++ Quote.curly r)
  let (_, isFine) ← throughLines a.operands '\n' tellFile () fun _ l => do
    let (bare, isEnded) := withoutEnd '\n' l
    write (['\n'].intercalate (foldLine width (a.has 's') bare.length bare)
      ++ if isEnded then ['\n'] else [])
  return if isFine then 0 else 1

/-- The options of `paste`. -/
def pasteOptions : OptionTable where
  letters := "d:sz"
  names := [("delimiters=", 'd'), ("serial", 's'), ("zero-terminated", 'z')]

/-- The delimiters that a list of them says. -/
def delimitersOf : Raw → List Raw
  | '\\' :: c :: rest =>
    (match c with
      | 'n' => ['\n']
      | 't' => ['\t']
      | '0' => []
      | c => [c]) :: delimitersOf rest
  | c :: rest => [c] :: delimitersOf rest
  | [] => []

/-- Texts with delimiters between them, which are taken from a list again and
    again. -/
def joinCyclic (delimiters : Array Raw) : (i : Nat) → List Raw → Raw
  | _, [] => []
  | _, [r] => r
  | i, r :: rest =>
    r ++ (delimiters[i % delimiters.size]?).getD [] ++ joinCyclic delimiters (i + 1) rest

/-- A column of lines: the source that they come from, by its place among the
    sources. Columns may have a source in common. -/
abbrev Column := Nat

/-- The next row of columns of lines: a line of each, or nothing where there is none
    left. -/
def nextRow (finish : Char) : List Column → Array Source → Procedure (List (Option Raw) × Array Source)
  | [], sources => return ([], sources)
  | column :: rest, sources => do
    match sources[column]? with
    | none => nextRow finish rest sources
    | some source => do
      let (l, source) ← source.next?
      let (others, sources) ← nextRow finish rest (sources.setIfInBounds column source)
      return ((l.map fun l => (withoutEnd finish l).1) :: others, sources)

/-- Opens the sources of columns. The input is one source however often it is
    named. -/
def openColumns (finish : Char) (files : List Raw) : Procedure (List Column × Array Source) := do
  let (columns, sources, _) ← files.foldlM (fun (columns, sources, input) file => do
    match file, input with
    | ['-'], some column => return (columns ++ [column], sources, input)
    | file, _ =>
      match ← openOperand file with
      | .ok i => do
        let column := sources.size
        return (columns ++ [column], sources.push (.ofChannel i finish),
          if file = ['-'] then some column else input)
      | .error fault => do
        tellFile file fault
        quit 1)
    (([], #[], none) : List Column × Array Source × Option Column)
  return (columns, sources)

/-- Writes the lines of files side by side. -/
def paste (arguments : List Raw) : Procedure Nat := do
  let a ← readArguments pasteOptions arguments
  let delimiters := match delimitersOf ((a.value? 'd').getD ['\t']) with
    | [] => [[]]
    | several => several
  let finish := if a.has 'z' then '\x00' else '\n'
  let files := filesOf a.operands
  if a.has 's' then
    let isFine ← withFiles files tellFile fun file =>
      write (joinCyclic delimiters.toArray 0 (partsOf finish file.content) ++ [finish])
    return if isFine then 0 else 1
  let (columns, sources) ← openColumns finish files
  let _ ← stepwise sources fun sources => do
    let (row, sources) ← nextRow finish columns sources
    if row.all Option.isNone || (← get).outputFault.isSome then return .done ()
    write (joinCyclic delimiters.toArray 0 (row.map (·.getD [])) ++ [finish])
    return .more sources
  return 0

end Utility

end MapAudit.Script
