import MapAudit.Script.Builtin.Options
import MapAudit.Script.Cursor
import MapAudit.Script.Calendar
import MapAudit.Script.Expansion

/-! # Reading into variables

    `read` takes a line from the input and gives its fields to variables, the last
    of which gets all that is left. `getopts` gives the options among arguments to
    a variable, one after another.
-/

namespace MapAudit.Script

/-! ## Fields of a line -/

/-- A character of a line, and whether a backslash stood before it. -/
abbrev LineChar := Char × Bool

namespace LineChar

/-- Whether a character is a blank that separates fields. -/
def isGap (separators : Raw) (c : LineChar) : Bool :=
  !c.2 && separators.contains c.1 && (c.1 = ' ' || c.1 = '\t' || c.1 = '\n')

/-- Whether a character separates fields. -/
def isSeparator (separators : Raw) (c : LineChar) : Bool :=
  !c.2 && separators.contains c.1

/-- A line without the blanks at its end. -/
def trimEnd (separators : Raw) (l : List LineChar) : List LineChar :=
  (l.reverse.dropWhile (isGap separators)).reverse

/-- The first field of a line, and what comes after the separator that ends it. -/
def cutField (separators : Raw) (l : List LineChar) : List LineChar × List LineChar :=
  let field := l.takeWhile (!isSeparator separators ·)
  let rest := (l.drop field.length).dropWhile (isGap separators)
  match rest with
  | c :: after =>
    if isSeparator separators c then (field, after.dropWhile (isGap separators))
    else (field, rest)
  | [] => (field, [])

/-- The field that takes what is left of a line. A separator at its end counts
    only if there are others. -/
def lastField (separators : Raw) (l : List LineChar) : List LineChar :=
  let (field, rest) := cutField separators l
  if rest.isEmpty then field else trimEnd separators l

/-- The fields of a line for so many variables. -/
def fieldsFor (separators : Raw) : (count : Nat) → List LineChar → List Raw
  | 0, _ => []
  | 1, l => [(lastField separators l).map (·.1)]
  | n + 2, l =>
    let (field, rest) := cutField separators l
    field.map (·.1) :: fieldsFor separators (n + 1) rest

/-- All fields of a line, at most `n`. -/
def allFields (separators : Raw) : (n : Nat) → List LineChar → List Raw
  | 0, _ => []
  | _ + 1, [] => []
  | n + 1, c :: l =>
    let (field, rest) := cutField separators (c :: l)
    field.map (·.1) :: allFields separators n rest

/-- Takes a line from a text: its characters, how many characters of the text were
    taken, and whether the line was ended. Backslashes count unless the line is
    `plain`, and at most `n` characters are taken into the line. -/
def takeLine (plain : Bool) (stop : Char) : (n : Nat) → Raw → List LineChar × Nat × Bool
  | 0, _ => ([], 0, true)
  | _ + 1, [] => ([], 0, false)
  | n + 1, '\\' :: rest =>
    if plain then keep n '\\' false rest 1
    else match rest with
      | [] => ([], 1, false)
      | '\n' :: rest =>
        let (l, taken, ended) := takeLine plain stop n rest
        (l, taken + 2, ended)
      | c :: rest => keep n c true rest 2
  | n + 1, c :: rest =>
    if c = stop then ([], 1, true)
    else if c = '\x00' then
      let (l, taken, ended) := takeLine plain stop n rest
      (l, taken + 1, ended)
    else keep n c false rest 1
where
  /-- Takes a character and what follows it. -/
  keep (n : Nat) (c : Char) (isEscaped : Bool) (rest : Raw) (size : Nat) :
      List LineChar × Nat × Bool :=
    let (l, taken, ended) := takeLine plain stop n rest
    ((c, isEscaped) :: l, taken + size, ended)

end LineChar

namespace Procedure

/-- Refuses a name that variables cannot have. -/
def refuseName {α : Type} (r : Raw) : Procedure α := do
  if ← isRich then
    warn ("\x60" ++ r ++ "': not a valid identifier")
    throw (.fault 1)
  else refuse (r ++ ": bad variable name")

/-- Gives fields to variables. -/
def giveFields : List Raw → List Raw → Procedure Unit
  | [], _ => return ()
  | name :: names, fields => do
    assignAt (← slotOf name) false (fields.headD [])
    giveFields names fields.tail

/-- Gives a variable a list of texts. -/
def setList (name : Raw) (texts : List Raw) : Procedure Unit :=
  setValue name (.list (texts.zipIdx.map fun (r, i) => (i, r)))

/-- The number that an option says. -/
def numberOption (o : Options) (letter : Char) : Option Nat :=
  (o.value? letter).bind Raw.toNat?

/-- What was read of a line. -/
structure LineSoFar where
  /-- The characters. -/
  characters : List LineChar
  /-- Whether the line was ended. -/
  isEnded : Bool
  /-- Whether the time was over before that. -/
  isLate : Bool

/-- Waits until something can be read from a channel. The answer says whether that
    was so before a deadline. -/
def awaitInput (i : Nat) (deadline : Option Nat) : Procedure Bool := do
  match (← get).machine.channel i, deadline with
  | .pipe number _, some t => do
    rest 0 (.input number (some t))
    let m := (← get).machine
    return 0 < (m.pipe number).size || !m.hasWriter number
  | _, _ => return true

/-- Reads a line from a channel. -/
def readLineOf (i : Nat) (plain : Bool) (stop : Char) (count : Option Nat) (isExact : Bool)
    (deadline : Option Nat) : Procedure LineSoFar :=
  stepwise [] fun (done : Raw) => do
    let taken (r : Raw) : List LineChar × Bool :=
      if isExact then (r.map fun c => (c, false), some r.length = count)
      else
        let (l, _, ended) := LineChar.takeLine plain stop (count.getD (r.length + 1)) r
        (l, ended)
    let (here, _) := taken done
    let limit := match count with
      | some n => n - here.length
      | none => 1000000000
    if !(← awaitInput i deadline) then
      return .done { characters := here, isEnded := false, isLate := true }
    let r ← if isExact then pure (((← pull i limit).toOption).getD []) else pullUpTo i stop limit
    let (l, isEnded) := taken (done ++ r)
    if isEnded || r.isEmpty then
      return .done { characters := l, isEnded, isLate := false }
    else return .more (done ++ r)

/-- Reads a line into variables. -/
def read (arguments : List Raw) : Procedure Nat := do
  let rich ← isRich
  let o ← if rich then readOptions "ers" "adinNptu" arguments else readOptions "r" "p" arguments
  if !rich && o.operands.isEmpty then refuse "arg count"
  match o.operands.find? fun r => !(if rich then isSlotName r else Reader.isName r) with
  | some r => refuseName r
  | none => pure ()
  let stream := (numberOption o 'u').getD 0
  match ← channelOf? stream with
  | none => do
    if o.has 'u' then
      warn (Raw.ofNat stream ++ ": invalid file descriptor: Bad file descriptor")
      return 1
    if rich then warn ("read error: " ++ Raw.ofNat stream ++ ": Bad file descriptor")
    giveFields o.operands []
    return 1
  | some i => do
    let stop : Char := match o.value? 'd' with
      | none => '\n'
      | some [] => '\x00'
      | some (c :: _) => c
    let count := (numberOption o 'n').orElse fun _ => numberOption o 'N'
    let deadline ← match o.value? 't' with
      | none => pure none
      | some r =>
        match Duration.ofDecimal? r with
        | some d => pure (some ((← get).machine.now + d))
        | none => do
          warn (r ++ ": invalid timeout specification")
          throw (.fault 1)
    if deadline = some (← get).machine.now then
      return if ← awaitInput i deadline then 0 else 1
    let line ← readLineOf i (o.has 'r') stop count (o.has 'N') deadline
    let l := line.characters
    let blanks ← separators
    let body := l.dropWhile (LineChar.isGap blanks)
    match o.value? 'a' with
    | some name => setList name (LineChar.allFields blanks (l.length + 1) body)
    | none =>
      if o.operands.isEmpty then setVariable "REPLY" (l.map (·.1))
      else if o.has 'N' then giveFields o.operands [l.map (·.1)]
      else giveFields o.operands (LineChar.fieldsFor blanks o.operands.length body)
    return if line.isLate then 142 else if line.isEnded then 0 else 1

/-- Reads lines into a list. A text is run as commands after every so many of them, with
    the number of the element and the line as arguments. -/
def mapfile (run : Raw → Procedure Unit) (arguments : List Raw) : Procedure Nat := do
  let o ← readOptions "t" "dnOsuCc" arguments
  let stream := (numberOption o 'u').getD 0
  let stop : Char := match o.value? 'd' with
    | none => '\n'
    | some [] => '\x00'
    | some (c :: _) => c
  let most := match numberOption o 'n' with
    | some (n + 1) => some (n + 1 + (numberOption o 's').getD 0)
    | _ => none
  let read ← match ← channelOf? stream with
    | none => pure []
    | some i => stepwise [] fun (done : List Raw) => do
      if some done.length = most then return .done done.reverse
      let l ← stepwise [] fun (l : Raw) => do
        let r ← pullUpTo i stop portionSize
        let l := l ++ r
        if r.isEmpty || l.getLast? = some stop then return .done l else return .more l
      if l.isEmpty then return .done done.reverse
      else if l.getLast? = some stop then return .more (l :: done)
      else return .done (l :: done).reverse
  let lines := read.map fun l => if o.has 't' && l.getLast? = some stop then l.dropLast else l
  let lines := lines.drop ((numberOption o 's').getD 0)
  let name := o.operands.headD "MAPFILE"
  let origin := (numberOption o 'O').getD 0
  if let some callback := o.value? 'C' then
    let quantum := max 1 ((numberOption o 'c').getD 5000)
    lines.zipIdx.forM fun (l, i) => do
      if (i + 1) % quantum = 0 then
        run (callback ++ ' ' :: Raw.ofNat (origin + i) ++ ' ' :: Quote.reusable l)
  match numberOption o 'O' with
  | none => setList name lines
  | some origin => lines.zipIdx.forM fun (l, i) => do
    setAt { name, key := some (Key.number (origin + i : Nat)) } l
  return 0

/-! ## Options of scripts -/

/-- What looking for the next option comes to. -/
structure NextOption where
  /-- The letter of the option, or a question mark. -/
  letter : Char
  /-- The value of the option. -/
  value : Option Raw
  /-- The number of the argument to be looked at next. -/
  index : Nat
  /-- How many characters of the argument before were looked at; none when it is
      done with. -/
  offset : Nat
  /-- Whether there are no options any more. -/
  isDone : Bool
  /-- What is wrong with the option. -/
  complaint : Option String

/-- What a letter means in a description of options: whether it is known, and
    whether it has a value. -/
def optionKind (description : Raw) (c : Char) : Option Bool :=
  match description with
  | [] => none
  | d :: ':' :: rest => if d = c && c ≠ ':' then some true else optionKind rest c
  | d :: rest => if d = c && c ≠ ':' then some false else optionKind rest c

/-- Looks for the next option among arguments. -/
def nextOption (description : Raw) (arguments : List Raw) (index offset : Nat) : NextOption :=
  let done (index : Nat) : NextOption :=
    { letter := '?', value := none, index, offset := 0, isDone := true, complaint := none }
  let current := if offset = 0 then [] else ((arguments[index - 2]?).getD []).drop offset
  let here : Option (Raw × Nat × Nat) :=
    if !current.isEmpty then some (current, index, offset)
    else match arguments[index - 1]? with
      | some ['-', '-'] => none
      | some ('-' :: c :: rest) => some (c :: rest, index + 1, 1)
      | _ => none
  match here with
  | none => done (if arguments[index - 1]? = some ['-', '-'] then index + 1 else index)
  | some ([], index, _) => done index
  | some (c :: more, index, offset) =>
    let isSilent := description.head? = some ':'
    let next := if more.isEmpty then 0 else offset + 1
    match optionKind (if isSilent then description.drop 1 else description) c with
    | none =>
      { letter := '?', value := if isSilent then some [c] else none, index, offset := next
        isDone := false, complaint := if isSilent then none else some "illegal option" }
    | some false =>
      { letter := c, value := none, index, offset := next, isDone := false, complaint := none }
    | some true =>
      if !more.isEmpty then
        { letter := c, value := some more, index, offset := 0, isDone := false, complaint := none }
      else match arguments[index - 1]? with
        | some r =>
          { letter := c, value := some r, index := index + 1, offset := 0, isDone := false
            complaint := none }
        | none =>
          { letter := if isSilent then ':' else '?', value := if isSilent then some [c] else none
            index, offset := 0, isDone := false
            complaint := if isSilent then none else some "option requires an argument" }

/-- Gives the next option among arguments to a variable. -/
def getopts (arguments : List Raw) : Procedure Nat := do
  let rich ← isRich
  match arguments with
  | description :: name :: others => do
    let s ← get
    let all := if others.isEmpty then s.arguments else others
    let shown := (Raw.toNat? ((← valueOf? "OPTIND").getD [])).getD 1
    let index := max 1 shown + (if rich && s.optionOffset ≠ 0 then 1 else 0)
    let next := nextOption description all index s.optionOffset
    let letter := if next.isDone then '?' else next.letter
    match next.complaint with
    | none => pure ()
    | some said => do
      let c := ((all[next.index - 2]?).getD []).drop (if s.optionOffset = 0 then 1 else s.optionOffset)
      let c := c.take 1
      if rich then complain (s.name ++ ": " ++ said.toList ++ " -- " ++ c ++ ['\n'])
      else if said = "illegal option" then complain ("Illegal option -" ++ c ++ ['\n'])
      else complain ("No arg for -" ++ c ++ " option\n")
    match next.value with
    | some r => setVariable "OPTARG" r
    | none =>
      if rich || next.complaint.isSome then unsetVariable "OPTARG"
      else if !next.isDone then setVariable "OPTARG" []
    setVariable "OPTIND" (Raw.ofNat (if rich && next.offset ≠ 0 then next.index - 1 else next.index))
    if !Reader.isName name then refuseName name
    setVariable name [letter]
    modify fun s => { s with optionOffset := next.offset }
    return if next.isDone then 1 else 0
  | _ =>
    if rich then
      tellUsage
      return 2
    else refuse "Usage: getopts optstring var [arg...]"

end Procedure

end MapAudit.Script
