import MapAudit.Script.Editing.Basic
import MapAudit.Script.Regex.Search
import MapAudit.Script.Utility.Input
import MapAudit.Script.Utility.Names

/-! # Running edit scripts

    The lines of the files are taken one by one. For each of them the edits are
    carried out in turn; then the work space is written, and after it what was left
    for the end.

    Files can be taken together or one by one, and the output can take the place of
    the file that the lines come from. A line is read when it is needed, so that a
    script can be done before the writer of its input is.

    What edits work on is wide text; it is made raw again where it is written.
-/

namespace MapAudit.Script

namespace Editing

open Utility

/-- What is written after a line. -/
inductive Waiting where
  /-- A text. -/
  | text (r : Raw)
  /-- A file. -/
  | file (name : Raw)
  /-- The next line of a file. -/
  | lineOf (name : Raw)
  deriving DecidableEq, Repr

/-- Where a range of lines stands. -/
inductive RangeState where
  /-- It has not begun. -/
  | before
  /-- It goes on, up to a line if its end has a number. -/
  | inside (finish : Nat)
  /-- It has ended. -/
  | past
  deriving DecidableEq, Repr

/-- Where the ranges of a program stand before the first line. -/
def startRanges (program : Program) : Array RangeState :=
  program.edits.map fun (g, _) => match g.first, g.finish with
    | some (.line 0), some _ => .inside 0
    | _, _ => .before

/-- A file that is written by edits. -/
structure Sink where
  /-- The number of the channel, if it is not the output. -/
  channel : Option Nat
  /-- Whether the last line lacks its end. -/
  owes : Bool

/-- How a script is run. -/
structure Manner where
  /-- Whether lines are not written unless an edit says so. -/
  isQuiet : Bool
  /-- Whether each file has lines of its own. -/
  isSeparate : Bool
  /-- Whether the output takes the place of a file, and what the name of the file is
      changed to then. -/
  inPlace : Option Raw
  /-- What ends a line. -/
  lineEnd : Char
  /-- The width of lists. -/
  width : Nat
  /-- Carries out a command, and gives its output. -/
  perform : Raw → Procedure Raw

/-- A run of a script. -/
structure Session where
  /-- The program. -/
  program : Program
  /-- How it is run. -/
  manner : Manner
  /-- The work space. -/
  space : Raw := []
  /-- Whether the line in it had an end. -/
  isEnded : Bool := true
  /-- The store. -/
  store : Raw := []
  /-- Whether the last line that was put into it had an end. -/
  isStoreEnded : Bool := true
  /-- The number of the line. -/
  number : Nat := 0
  /-- Whether something was replaced. -/
  hasReplaced : Bool := false
  /-- What is written after the line. -/
  waiting : List Waiting := []
  /-- Where the ranges of the edits stand. -/
  ranges : Array RangeState
  /-- What was looked for last. -/
  lastSearch : Option Search := none
  /-- Where the lines of the file come from, if one is open. -/
  source : Option Source := none
  /-- The name of the file. -/
  file : Raw := ['-']
  /-- The files that are left. -/
  files : List Raw
  /-- Whether the last line of the output lacks its end. -/
  owes : Bool := false
  /-- What takes the place of the file, last part first. -/
  collected : Option (List Raw) := none
  /-- The files that are written by edits. -/
  sinks : List (Raw × Sink) := []
  /-- Where lines come from that are read by edits, by the names of the files. -/
  sources : List (Raw × Option Source) := []
  /-- The exit status. -/
  status : Nat := 0

/-- Part of a run. -/
abbrev Run := StateT Session Procedure

namespace Run

/-! ## Output -/

/-- Writes a raw text to the output. -/
def writeRaw (r : Raw) : Run Unit := do
  let s ← get
  match s.collected with
  | some parts => set { s with collected := some (r :: parts) }
  | none => Procedure.write r

/-- Writes a text to the output. -/
def write (r : Raw) : Run Unit :=
  writeRaw (Raw.narrow r)

/-- Ends the last line of the output. -/
def settle : Run Unit := do
  if (← get).owes then
    write [(← get).manner.lineEnd]
    modify fun s => { s with owes := false }

/-- Writes a text after a line that has an end. -/
def writeText (r : Raw) : Run Unit := do
  settle
  write r

/-- Writes a line that has an end if the one that was read has. -/
def writeLine (r : Raw) : Run Unit := do
  settle
  let s ← get
  write (if s.isEnded then r ++ [s.manner.lineEnd] else r)
  modify fun s => { s with owes := !s.isEnded }

/-- Writes a line to a file. -/
def writeLineTo (name r : Raw) : Run Unit := do
  let s ← get
  match s.sinks.lookup name with
  | none => return ()
  | some sink => do
    let start := if sink.owes then [s.manner.lineEnd] else []
    let finish := if s.isEnded then [s.manner.lineEnd] else []
    let r := Raw.narrow (start ++ r ++ finish)
    match sink.channel with
    | none => Procedure.write r
    | some i => do
      let _ ← Procedure.pour i r
    modify fun s =>
      { s with sinks := s.sinks.map fun (key, sink) =>
        (key, if key = name then { sink with owes := !s.isEnded } else sink) }

/-- Opens the files that are written by edits. -/
def openSinks : Run Unit := do
  (← get).program.files.forM fun name => do
    let add (channel : Option Nat) : Run Unit :=
      modify fun s => { s with sinks := (name, { channel, owes := false }) :: s.sinks }
    if ((← get).sinks.lookup name).isSome then return ()
    match String.ofList name with
    | "/dev/stdout" => add none
    | "/dev/stderr" => do add (← Procedure.channelOf? 2)
    | _ => do
      let file := Raw.narrow name
      match ← Procedure.openFile .write file with
      | .error fault => refuse 4 ("couldn't open file " ++ file ++ ": " ++ faultText fault)
      | .ok i => do
        Procedure.hold i
        add (some i)

/-! ## Input -/

/-- Puts the output in the place of the file that was gone through. -/
def finishFile : Run Unit := do
  let s ← get
  match s.manner.inPlace, s.collected with
  | some suffix, some parts => do
    let content := Raw.toBytes parts.reverse.flatten
    match ← Procedure.locateName s.file with
    | .error _ => pure ()
    | .ok location => do
      let m := (← getThe Shell).machine
      let permissions := match m.tree.get? location with
        | some (.file f) => f.attributes.permissions
        | _ => 0o644
      if !suffix.isEmpty then
        let kept := if suffix.contains '*'
          then suffix.flatMap fun c => if c = '*' then s.file else [c] else s.file ++ suffix
        match ← Procedure.locateName kept with
        | .ok target => Procedure.onMachine (·.moveOver location target)
        | .error fault => do
          tell ("cannot rename ".toList ++ s.file ++ ": ".toList ++ faultText fault)
          Procedure.flush
          throw (.exit 4)
      else Procedure.onMachine (·.remove location)
      Procedure.onMachine fun m =>
        m.put location (.file { content, attributes := { permissions, time := m.time }, kinship := none })
    modify fun s => { s with collected := none, owes := false }
  | _, _ => pure ()

/-- Lets go of the file that is open. -/
def closeSource : Run Unit := do
  match (← get).source with
  | some source => do
    source.close
    Procedure.letGo source.channel
    modify fun s => { s with source := none }
  | none => return ()

/-- Opens one of some files, the first that can be read. The answer says whether
    there was one. -/
def openNext : List Raw → Run Bool
  | [] => return false
  | file :: rest => do
    closeSource
    finishFile
    modify fun s => { s with files := rest }
    let isEdited := (← get).manner.inPlace.isSome
    match ← openOperand file with
    | .ok i => do
      let s ← get
      if isEdited then
        if !(← isOpenAround file) then
          refuse 4 "couldn't open temporary file ./sedA1b2C3: Permission denied"
      set { s with
        file
        source := some (Source.ofChannel i s.manner.lineEnd)
        number := if s.manner.isSeparate then 0 else s.number
        ranges := if s.manner.isSeparate then startRanges s.program else s.ranges
        collected := if isEdited then some [] else none }
      return true
    | .error .isDirectory => do
      if isEdited then
        refuse 4 ("couldn't edit " ++ file ++ ": not a regular file")
      else
        let shown : Raw := if file = ['-'] then "stdin" else file
        refuse 4 ("read error on " ++ shown ++ ": Is a directory")
    | .error .noStream => refuse 4 ("read error on stdin: " ++ faultText .noStream)
    | .error fault => do
      tell ("can't read " ++ file ++ ": " ++ faultText fault)
      modify fun s => { s with status := max s.status 2 }
      openNext rest
where
  /-- Whether files can be made beside one. -/
  isOpenAround (file : Raw) : Run Bool := do
    match ← Procedure.locateName file with
    | .ok location => return (← getThe Shell).machine.tree.isOpenAbove location
    | .error _ => return false

/-- Opens files, at most `n` of them, until there is a line. The answer says whether
    there is one. -/
def findLine : (n : Nat) → Run Bool
  | 0 => return false
  | n + 1 => do
    let s ← get
    let hasLine ← match s.source with
      | some source => do
        let source ← source.fill
        set { s with source := some source }
        pure !source.ahead.isEmpty
      | none => pure false
    if hasLine then return true
    if ← openNext (← get).files then findLine n else return false

/-- Whether the line that was read is the last one. -/
def isLast : Run Bool := do
  let s ← get
  match s.source with
  | some source => do
    let source ← source.fill
    set { s with source := some source }
    if !source.ahead.isEmpty then return false
    if s.manner.isSeparate then return true
    return !(← findLine (s.files.length + 1))
  | none => return !(← findLine (s.files.length + 1))

/-- Writes what was left for the end of a line. -/
def flush : Run Unit := do
  let s ← get
  set { s with waiting := [] }
  s.waiting.forM fun w => do
    match w with
    | .text r => writeText r
    | .file name => do
      settle
      match ← readOperand (if name = "/dev/stdin".toList then ['-'] else Raw.narrow name) with
      | .ok content => writeRaw content
      | .error _ => pure ()
    | .lineOf name => do
      let s ← get
      let source ← match s.sources.lookup name with
        | some source => pure source
        | none => do
          match ← openOperand (Raw.narrow name) with
          | .ok i => pure (some (Source.ofChannel i s.manner.lineEnd))
          | .error _ => pure none
      let left ← match source with
        | none => pure none
        | some source => do
          match ← source.next? with
          | (some l, source) => do
            settle
            writeRaw (if (withoutEnd s.manner.lineEnd l).2 then l else l ++ [s.manner.lineEnd])
            pure (some source)
          | (none, source) => pure (some source)
      modify fun s => { s with sources := (name, left) :: s.sources.filter (·.1 ≠ name) }

/-- Reads the next line into the work space, or behind what is in there. The answer
    says whether there was one. -/
def readLine (isBehind : Bool) : Run Bool := do
  flush
  let s ← get
  if !(← findLine (s.files.length + 1)) then return false
  modify fun s => match s.source with
    | some source =>
      match source.ahead with
      | [] => s
      | l :: ahead =>
        let (bare, isEnded) := withoutEnd s.manner.lineEnd l
        let bare := Raw.widen bare
        { s with
          space := if isBehind then s.space ++ bare else bare
          isEnded
          source := some { source with ahead }
          number := s.number + 1
          hasReplaced := false }
    | none => s
  return true

/-! ## Searching -/

/-- The search that is meant. -/
def meant (search : Search) : Run Search := do
  match search.regex with
  | some _ => do
    modify fun s => { s with lastSearch := some search }
    return search
  | none =>
    match (← get).lastSearch with
    | some last => return last
    | none => refuse 1 "-e expression #1, char 0: no previous regular expression"

/-- Whether the work space has a match. -/
def hasMatch (search : Search) : Run Bool := do
  let search ← meant search
  let space := (← get).space
  return search.regex.any fun e => e.isIn search.ignoresCase space

/-- Whether the line has an address. -/
def isAt (a : Address) : Run Bool := do
  let number := (← get).number
  match a with
  | .line n => return number = n
  | .every first step => return first ≤ number && (number - first) % step = 0
  | .last => isLast
  | .matching search => hasMatch search

/-- Sets where the range of an edit stands. -/
def setRange (i : Nat) (r : RangeState) : Run Unit :=
  modify fun s => { s with ranges := s.ranges.setIfInBounds i r }

/-- Whether a range begins at the line. -/
def beginsRange (i : Nat) (first : Address) (finish : RangeEnd) : Run Bool := do
  let s ← get
  let number := s.number
  let state := s.ranges[i]?.getD .before
  let begins ← match first with
    | .line n => pure (state ≠ .past && n ≤ number)
    | first => isAt first
  if !begins then return false
  let upTo (n : Nat) : Run Bool := do
    if number < n then
      setRange i (.inside n)
      return true
    setRange i .past
    match first with
    | .line k => return number = k || number ≤ n
    | _ => return true
  match finish with
  | .line n => upTo n
  | .after count => upTo (number + count)
  | .multiple n => upTo (if n = 0 then number else (number / n + 1) * n)
  | .last => do
    setRange i (if ← isLast then .past else .inside 0)
    return true
  | .matching _ => do
    setRange i (.inside 0)
    return true

/-- Whether the line is in the range of an edit. -/
def isInRange (i : Nat) (first : Address) (finish : RangeEnd) : Run Bool := do
  let s ← get
  let close (isOver : Bool) : Run Unit := if isOver then setRange i .past else return ()
  match s.ranges[i]?.getD .before with
  | .inside n =>
    match finish with
    | .last => do
      close (← isLast)
      return true
    | .matching search => do
      close (← hasMatch search)
      return true
    | _ => do
      close (n ≤ s.number)
      return s.number ≤ n
  | _ => beginsRange i first finish

/-- Whether an edit is for the line. -/
def isChosen (i : Nat) (g : Guard) : Run Bool := do
  let isMeant ← match g.first, g.finish with
    | none, _ => pure true
    | some first, none => isAt first
    | some first, some finish => isInRange i first finish
  return isMeant != g.isNegated

/-! ## Substitution -/

/-- A text with its letters changed: the first one by `once` and the others by
    `always`. -/
def recased (once always : Casing) (r : Raw) : Raw :=
  let apply (c : Casing) (d : Char) : Char :=
    match c with
    | .upper | .upperNext => Text.toCapital d
    | .lower | .lowerNext => Text.toSmall d
    | .none => d
  match r with
  | [] => []
  | d :: rest => apply (if once = .none then always else once) d :: rest.map (apply always)

/-- What is put in the place of a match. -/
def filled (f : Regex.Found) (once always : Casing) : List Part → Raw
  | [] => []
  | .casing .none :: rest => filled f once .none rest
  | .casing .upper :: rest => filled f once .upper rest
  | .casing .lower :: rest => filled f once .lower rest
  | .casing c :: rest => filled f c always rest
  | .text r :: rest => recased once always r ++ filled f .none always rest
  | .group n :: rest =>
    let r := if n = 0 then f.text else (f.groups.lookup n).getD []
    if r.isEmpty then filled f once always rest
    else recased once always r ++ filled f .none always rest

/-- A text from a place on in which matches are replaced, and whether one was. The
    matches so far are counted, and the last one ended at an offset. -/
def replaced (e : Regex) (ignoresCase : Bool) (s : Substitution) :
    (n : Nat) → (count : Nat) → (lastEnd : Option Nat) → Place → Raw × Bool
  | 0, _, _, p => (p.rest, false)
  | n + 1, count, lastEnd, p =>
    match e.searchAt? ignoresCase p with
    | none => (p.rest, false)
    | some f =>
      let start := p.skip f.before.length
      if f.text.isEmpty && lastEnd = some start.offset then
        match start.rest, start.next? with
        | c :: _, some q =>
          let (rest, isChanged) := replaced e ignoresCase s n count none q
          (f.before ++ c :: rest, isChanged)
        | _, _ => (f.before, false)
      else
        let count := count + 1
        let after := start.skip f.text.length
        let isMeant : Bool := s.number ≤ count
        let here := if isMeant then filled f .none .none s.replacement else f.text
        if isMeant && !s.isGlobal then (f.before ++ here ++ after.rest, true)
        else
          let (rest, isChanged) := replaced e ignoresCase s n count (some after.offset) after
          (f.before ++ here ++ rest, isMeant || isChanged)

/-- Carries out the work space as a command, whose output takes its place. -/
def executeSpace : Run Unit := do
  let s ← get
  let r ← s.manner.perform (Raw.narrow s.space)
  modify fun s => { s with space := Raw.widen (withoutEnd s.manner.lineEnd r).1 }

/-- Carries out a substitution. -/
def substitute (s : Substitution) : Run Unit := do
  let search ← meant s.search
  match search.regex with
  | none => return ()
  | some e => do
    let space := (← get).space
    let (result, isChanged) :=
      replaced e search.ignoresCase s (2 * space.length + 3) 0 none (.atStart space)
    if isChanged then
      modify fun session => { session with space := Raw.rejoin result, hasReplaced := true }
      if s.prints && s.printsFirst && s.executes then writeLine result
      if s.executes then executeSpace
      if s.prints && !(s.printsFirst && s.executes) then writeLine (← get).space
      match s.file with
      | some name => writeLineTo name (← get).space
      | none => pure ()

/-! ## Edits -/

/-- A character as it is shown in a list. -/
def shownCharacter (c : Char) : Raw :=
  match c with
  | '\\' => "\\\\"
  | '\x07' => "\\a"
  | '\x08' => "\\b"
  | '\x0c' => "\\f"
  | '\n' => "\\n"
  | '\r' => "\\r"
  | '\t' => "\\t"
  | '\x0b' => "\\v"
  | c =>
    if ' ' ≤ c && c ≤ '~' then [c]
    else
      let digits := Nat.toDigits 8 c.toNat
      '\\' :: List.replicate (3 - digits.length) '0' ++ digits

/-- A text in lines of a width, so that all of it can be seen. -/
def listed (width : Nat) (r : Raw) : Raw :=
  let (shown, _) := (Raw.narrow r).foldl (fun (shown, used) c =>
    let here := shownCharacter c
    if 0 < width && width - 1 < used + here.length then (shown ++ ['\\', '\n'] ++ here, here.length)
    else (shown ++ here, used + here.length)) (([], 0) : Raw × Nat)
  shown ++ ['$', '\n']

/-- What becomes of the work space after the edits. -/
inductive Outcome where
  /-- It is written. -/
  | finished
  /-- It is given up. -/
  | deleted
  /-- The edits begin again with what is left in it. -/
  | again
  /-- The script ends. -/
  | quit (status : Nat)
  deriving DecidableEq, Repr

/-- Changes the work space. -/
def reshape (f : Raw → Raw) : Run Unit :=
  modify fun s => { s with space := f s.space }

/-- The first line of a text. -/
def firstLine (lineEnd : Char) (r : Raw) : Raw :=
  r.takeWhile (· ≠ lineEnd)

/-- Leaves something for the end of the line. -/
def leave (w : Waiting) : Run Unit :=
  modify fun s => { s with waiting := s.waiting ++ [w] }

/-- What comes after an edit. -/
inductive Sequel where
  /-- The edit at a place in the program. -/
  | edit (place : Nat)
  /-- What the edits come to. -/
  | outcome (o : Outcome)
  deriving DecidableEq, Repr

/-- How long a jump takes. -/
def jumpCost : Nat := 1000

/-- Carries out the edit at a place in the program. -/
def step (place : Nat) : Run Sequel := do
    match (← get).program.edits[place]? with
    | none => return .outcome .finished
    | some (g, e) => do
      let isChosen ← isChosen place g
      let goOn : Run Sequel := return .edit (place + 1)
      match isChosen, e with
      | false, .block finish => return .edit finish
      | false, _ | true, .block _ | true, .nothing => goOn
      | true, e => do
        let s ← get
        let lineEnd := s.manner.lineEnd
        match e with
        | .block _ | .nothing => goOn
        | .number => do
          writeText (Raw.ofNat s.number ++ ['\n'])
          goOn
        | .fileName => do
          writeText (Raw.widen s.file ++ ['\n'])
          goOn
        | .append r => do
          leave (.text r)
          goOn
        | .insert r => do
          writeText r
          goOn
        | .change r => do
          let isOver := match s.ranges[place]?, g.finish with
            | some (.inside _), some _ => false
            | _, _ => true
          if isOver then writeText r
          return .outcome .deleted
        | .jump rule label => do
          let isMade := match rule with
            | .always => true
            | .ifReplaced => s.hasReplaced
            | .unlessReplaced => !s.hasReplaced
          if rule ≠ .always then modify fun s => { s with hasReplaced := false }
          if isMade then
            Procedure.breathe jumpCost
            return .edit ((s.program.labels.lookup label).getD s.program.edits.size)
          else goOn
        | .delete => return .outcome .deleted
        | .deleteFirst => do
          if !s.space.contains lineEnd then return .outcome .deleted
          reshape fun r => r.drop ((firstLine lineEnd r).length + 1)
          return .outcome .again
        | .recall => do
          modify fun s => { s with space := s.store, isEnded := s.isStoreEnded }
          goOn
        | .recallBehind => do
          modify fun s =>
            { s with space := s.space ++ lineEnd :: s.store, isEnded := s.isStoreEnded }
          goOn
        | .keep => do
          modify fun s => { s with store := s.space, isStoreEnded := s.isEnded }
          goOn
        | .keepBehind => do
          modify fun s =>
            { s with store := s.store ++ lineEnd :: s.space, isStoreEnded := s.isEnded }
          goOn
        | .exchange => do
          modify fun s =>
            { s with
              store := s.space
              isStoreEnded := s.isEnded
              space := s.store
              isEnded := s.isStoreEnded }
          goOn
        | .empty => do
          reshape fun _ => []
          goOn
        | .list width => do
          writeText (listed (width.getD s.manner.width) s.space)
          goOn
        | .next => do
          if ← isLast then return .outcome .finished
          if !s.manner.isQuiet then writeLine s.space
          let _ ← readLine false
          goOn
        | .nextBehind => do
          if ← isLast then return .outcome .finished
          reshape fun r => r ++ [lineEnd]
          let _ ← readLine true
          goOn
        | .print => do
          writeLine s.space
          goOn
        | .printFirst => do
          writeText (firstLine lineEnd s.space ++ [lineEnd])
          goOn
        | .quit prints status => do
          if prints then
            if !s.manner.isQuiet then writeLine s.space
            flush
          return .outcome (.quit status)
        | .readFile file => do
          leave (.file file)
          goOn
        | .readLine file => do
          leave (.lineOf file)
          goOn
        | .writeFile file => do
          writeLineTo file s.space
          goOn
        | .writeFirst file => do
          writeLineTo file (firstLine lineEnd s.space)
          goOn
        | .execute [] => do
          executeSpace
          goOn
        | .execute command => do
          let r ← s.manner.perform (Raw.narrow command)
          settle
          writeRaw r
          goOn
        | .substitute substitution => do
          substitute substitution
          goOn
        | .transliterate pairs => do
          reshape fun r => r.map fun c => (pairs.lookup c).getD c
          goOn

/-- Carries out the edits of the program. -/
def edits : Run Outcome := fun session =>
  Procedure.stepwise (0, session) fun (place, session) => do
    match ← (step place).run session with
    | (.edit next, session) => return .more (next, session)
    | (.outcome o, session) => return .done (o, session)

/-- Goes through a line. `isFresh` says that it has to be read first, and so does the
    answer for the next one. At the end, the answer is the status that an edit gave,
    if one did. -/
def cycle (isFresh : Bool) : Run (Except (Option Nat) Bool) := do
  let hasLine ← if isFresh then readLine false else pure true
  if !hasLine then return .error none
  match ← edits with
  | .finished => do
    let s ← get
    if !s.manner.isQuiet then writeLine s.space
    flush
    return .ok true
  | .deleted => do
    flush
    return .ok true
  | .again => do
    flush
    return .ok false
  | .quit status => return .error (some status)

/-- Goes through the lines. -/
def cycles : Run (Option Nat) := fun session =>
  Procedure.stepwise (true, session) fun (isFresh, session) => do
    match ← (cycle isFresh).run session with
    | (.ok isFresh, session) => return .more (isFresh, session)
    | (.error status, session) => return .done (status, session)

/-- Runs the program to its end. -/
def all : Run Nat := do
  openSinks
  let status ← cycles
  closeSource
  finishFile
  let s ← get
  return if s.status ≠ 0 then s.status else status.getD 0

end Run

/-- **Run** of a program on files. -/
def Program.run (program : Program) (manner : Manner) (files : List Raw) : Procedure Nat := do
  let (status, _) ← Run.all.run {
    program
    manner := { manner with isQuiet := manner.isQuiet || program.isQuiet }
    ranges := startRanges program
    files }
  return status

end Editing

end MapAudit.Script
