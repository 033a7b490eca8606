import MapAudit.Script.Execution.Conditions

/-! # Running commands

    Commands are run one after another. A command that fails ends the shell if the
    option says so, unless its outcome is tested.
-/

namespace MapAudit.Script

namespace Procedure

/-! ## Loops -/

/-- Does something as a round of a loop. The answer is its status, and whether
    there is another round. -/
def round (p : Procedure (Nat × Bool)) : Procedure (Nat × Bool) :=
  tryCatch p fun stop => match stop with
    | .leaveLoops 1 goesOn => return (0, goesOn)
    | .leaveLoops (n + 2) goesOn => throw (.leaveLoops (n + 1) goesOn)
    | stop => throw stop

/-- Runs a loop. -/
def looping {σ : Type} (start : σ) (step : σ → Procedure (Nat × Option σ)) : Procedure Nat := do
  let before := (← get).loops
  modify fun s => { s with loops := before + 1 }
  let restore : Procedure Unit := modify fun s => { s with loops := before }
  let rounds : Procedure Nat := stepwise start fun state => do
    match ← step state with
    | (status, none) => return .done status
    | (_, some next) => return .more next
  let status ← tryCatch rounds fun stop => do
    restore
    throw stop
  restore
  return status

/-- Runs commands as long as a condition has an outcome. -/
def runLoop (e : Engine) (stance : Stance) (outcome : Bool) (condition body : List Command) :
    Procedure Nat :=
  looping 0 fun last => do
    let (status, goesOn) ← round do
      if ((← e.run .tested condition) == 0) == outcome then return (← e.run stance.followed body, true)
      else return (last, false)
    return (status, if goesOn then some status else none)

/-- Runs commands for every text of a list. -/
def runEach (e : Engine) (stance : Stance) (line : Nat) (name : Raw) (words : List Word)
    (written : Raw) (body : List Command) : Procedure Nat := do
  modify fun s => { s with line }
  let texts ← expandArguments e [] words
  let rich ← isRich
  if rich && !Reader.isName name then refuseName name
  looping (texts, 0) fun (texts, last) => do
    match texts with
    | [] => return (last, none)
    | r :: rest => do
      if rich then
        announce e line ("for " ++ name ++ " in " ++ written)
        trace e ("for " ++ name ++ " in " ++ written)
      tryCatch (do
        setVariable name r
        let (status, goesOn) ← round do return (← e.run stance.followed body, true)
        return (status, if goesOn then some (rest, status) else none)) fun stop =>
        match stop with
        | .discard n => do
          if (← lookUp? name).any (·.isReadOnly) then return (n, none) else throw stop
        | stop => throw stop

/-- Text that goes from one column to another. -/
def columnGap : (n : Nat) → (start stop : Nat) → Raw
  | 0, _, _ => []
  | n + 1, start, stop =>
    if stop ≤ start then []
    else if start / 8 < stop / 8 then '\t' :: columnGap n (start / 8 * 8 + 8) stop
    else ' ' :: columnGap n (start + 1) stop

/-- The texts that are offered, with their numbers, in columns of a screen that is so
    wide. -/
def menu (width : Nat) (texts : List Raw) : Raw :=
  let count := texts.length
  let digits := (Raw.ofNat count).length
  let longest := texts.foldl (fun n r => max n (Raw.wideLength r)) 0
  let columnWidth := longest + digits + 4
  let columns := max 1 (width / columnWidth)
  let rows := (count + columns - 1) / columns
  let columns := (count + rows - 1) / rows
  let (rows, columns) := if rows = 1 then (columns, 1) else (rows, columns)
  let entry (column i : Nat) : Raw :=
    let number := Raw.ofNat (i + 1)
    let size := if column = 0 then (Raw.ofNat rows).length else digits
    List.replicate (size - number.length) ' ' ++ number ++ ") ".toList ++ (texts[i]?).getD []
  (List.range rows).flatMap fun row =>
    ((List.range columns).flatMap fun column =>
      let i := row + column * rows
      if count ≤ i then []
      else
        let r := entry column i
        let start := column * columnWidth
        r ++ (if i + rows < count then
            columnGap columnWidth (start + Raw.wideLength r) (start + columnWidth) else []))
      ++ ['\n']

/-- Asks for the number of a text among those that are offered. The answer is empty
    where there is none with the number, and there is none at the end of the input. At
    most `n` times nothing is answered. -/
def pick (texts : List Raw) : (n : Nat) → (showsMenu : Bool) → Procedure (Option Raw)
  | 0, _ => return none
  | n + 1, showsMenu => do
    let width := ((← valueOf? "COLUMNS".toList).bind Raw.toNat?).getD 80
    if showsMenu then complain (menu width texts)
    complain ((← valueOf? "PS3".toList).getD "#? ".toList)
    if (← read []) ≠ 0 then
      write ['\n']
      flush
      return none
    let reply := (← valueOf? "REPLY".toList).getD []
    if reply.isEmpty then pick texts n true
    else
      match plainNumber? reply with
      | some k => return some (if k < 1 then [] else (texts[k.toNat - 1]?).getD [])
      | none => return some []

/-- Runs commands for every text that is picked. -/
def runOffer (e : Engine) (stance : Stance) (line : Nat) (name : Raw) (words : List Word)
    (written : Raw) (body : List Command) : Procedure Nat := do
  modify fun s => { s with line }
  let texts ← expandArguments e [] words
  if !Reader.isName name then refuseName name
  announce e line ("select " ++ name ++ " in " ++ written)
  trace e ("select " ++ name ++ " in " ++ written)
  if texts.isEmpty then return 0
  looping true fun showsMenu => do
    match ← pick texts 1000 showsMenu with
    | none => return (1, none)
    | some r => do
      setVariable name r
      let (status, goesOn) ← round do return (← e.run stance.followed body, true)
      let isEmpty := (← valueOf? "REPLY".toList) = some []
      return (status, if goesOn then some isEmpty else none)

/-- Runs commands as long as an expression is true. -/
def runCount (e : Engine) (stance : Stance) (line : Nat) (start test next : Word)
    (written : List Raw) (body : List Command) : Procedure Nat := do
  modify fun s => { s with line }
  let compute (w : Word) (i : Nat) : Procedure Int := do
    let r ← expandText e w
    let shown := r.dropWhile Expression.isBlank
    trace e ("(( " ++ (if shown.isEmpty then ['1'] else shown) ++ " ))")
    announce e line ("((".toList ++ written.getD i [] ++ "))".toList)
    if r.all Expression.isBlank then return 1 else computingAs "((" (computeText r)
  containing do
    let _ ← compute start 0
    looping 0 fun last => do
      if (← compute test 1) = 0 then return (last, none)
      let (status, goesOn) ← round do return (← e.run stance.followed body, true)
      if !goesOn then return (status, none)
      let _ ← compute next 2
      return (status, some status)

/-! ## Choices -/

/-- Whether a text matches one of some patterns. -/
def matchesAny (e : Engine) (r : Raw) : List Word → Procedure Bool
  | [] => return false
  | w :: rest => do
    if ← isMatchedBy e false r w then return true else matchesAny e r rest

/-- Runs the commands of the first patterns that a text matches, or of the next
    ones if they `follow`. -/
def runArms (e : Engine) (stance : Stance) (r : Raw) : (follow : Bool) → (last : Nat) → List Arm →
    Procedure Nat
  | _, last, [] => return last
  | follow, last, (patterns, _, body, stop) :: rest => do
    if follow || (← matchesAny e r patterns) then
      let status ← e.run (if stop = .leave then stance else stance.followed) body
      match stop with
      | .leave => return status
      | .runOn => runArms e stance r true status rest
      | .lookOn => runArms e stance r false status rest
    else runArms e stance r false last rest

/-! ## Processes -/

/-- Lets a new process read and write what it is to. A process that nobody waits for
    ignores the signals of a terminal, and reads nothing if it is to read nothing
    else. -/
def connect (source sink : Option Nat) (others : List Nat) (isAwaited : Bool) :
    Procedure Unit := do
  match source with
  | some i => do
    joinStream 0 i
    letGo i
  | none => if !isAwaited then setStream 0 (.device .null)
  match sink with
  | some i => do
    joinStream 1 i
    letGo i
  | none => pure ()
  others.forM letGo
  if !isAwaited then onSelf fun p => { p with ignored := [2, 3] ++ p.ignored }

/-- Takes note of a stage that is about to be started. In the plain dialect the program
    that a stage of several calls is remembered. -/
def announceStage (e : Engine) (isOfSeveral : Bool) : Command → Procedure Unit
  | .simple line written assignments words several => do
    let s ← get
    if ← isRich then
      modify fun s => { s with line }
      announce e line (Command.simple line written assignments words several).text
    else if isOfSeveral then
      match words.head? with
      | some [.plain name] =>
        let isOther := isBuiltinName s.dialect name || (s.functions.lookup name).isSome
        if Reader.isName name && !isOther then keepAtHand name
      | _ => return ()
  | .subshell line _ _ => do
    if ← isRich then modify fun s => { s with line }
  | _ => return ()

/-- Runs a stage as all that a process does. Nothing more is noted about one with
    words. -/
def runStage (e : Engine) (stance : Stance) (c : Command) : Procedure Nat :=
  let final := { stance with isFinal := true }
  match c with
  | .simple line _ assignments words redirections =>
    runSimple e final line assignments words redirections
  | c => e.run final [c]

/-- Starts the stages of a pipeline, each as a process of its own, which reads what
    the one before writes. The answer has the numbers of the processes, and the
    status of the last stage if the shell ran that itself. -/
def startStages (e : Engine) (stance : Stance) (isAwaited runsLast : Bool) :
    (source : Option Nat) → List Command → Procedure (List Nat × Option Nat)
  | _, [] => return ([], none)
  | source, [c] => do
    let isOfSeveral := source.isSome
    let (children, status) ← if runsLast then do
        let status ← keepingStreams [0] do
          match source with
          | some i => joinStream 0 i
          | none => pure ()
          e.run stance.followed [c]
        pure ([], some status)
      else do
        announceStage e isOfSeveral c
        let child ← start e (connect source none [] isAwaited) (runStage e stance c)
        pure ([child], none)
    (source.toList).forM letGo
    return (children, status)
  | source, c :: rest => do
    let (next, sink) ← makePipe
    hold next
    hold sink
    announceStage e true c
    let child ← start e (connect source (some sink) [next] isAwaited) (runStage e stance c)
    letGo sink
    (source.toList).forM letGo
    let (children, status) ← startStages e stance isAwaited runsLast (some next) rest
    return (child :: children, status)

/-- Runs a pipeline. -/
def runPipeline (e : Engine) (stance : Stance) (stages : List Command) : Procedure Nat := do
  let runsLast := (← get).isOn "lastpipe"
  let (children, last) ← startStages e stance true runsLast none stages
  let statuses ← children.mapM fun child => do return (← awaitForeground child).status
  let statuses := statuses ++ last.toList
  modify fun s => { s with stageStatuses := statuses }
  if (← get).isOn "pipefail" then
    return (statuses.reverse.find? (· ≠ 0)).getD 0
  return statuses.getLast?.getD 0

/-- Runs a command that is not waited for. -/
def runBackground (e : Engine) (c : Command) : Procedure Nat := do
  let stages := match c with
    | .pipeline stages => stages
    | c => [c]
  let (children, _) ← startStages e .usual false false none stages
  let shown := match (← get).dialect with
    | .sh => (List.replicate (children.length - 1) " | ".toList).flatten
    | .bash => c.text
  addJob children shown
  return 0

/-- Starts a command that goes on beside the shell, with pipes to and from it. A variable
    is given the numbers of the streams that lead there. -/
def runCoprocess (e : Engine) (line : Nat) (name : Raw) (c : Command) : Procedure Nat := do
  modify fun s => { s with line }
  if !Reader.isName name then
    warn ("\x60" ++ name ++ "': not a valid identifier")
    return 1
  if let some other := (← get).companions.head? then
    warn ("warning: execute_coproc: coproc [" ++ Raw.ofNat other.process ++ ':' :: other.name
      ++ "] still exists")
  let (source, theirSink) ← makePipe
  let (theirSource, sink) ← makePipe
  [source, theirSink, theirSource, sink].forM hold
  let child ← start e (do
    joinStream 0 theirSource
    joinStream 1 theirSink
    [source, theirSink, theirSource, sink].forM letGo) (e.run .final [c])
  let taken := (← get).streams.map (·.1)
  let free := ((List.range 60).map (63 - ·)).filter (!taken.contains ·)
  let streams := [free.getD 0 9, free.getD 3 8]
  joinStream (streams.getD 0 9) source
  joinStream (streams.getD 1 8) sink
  [source, theirSink, theirSource, sink].forM letGo
  addJob [child] (Command.coprocess line name c).text
  let here : Companion := { name, process := child, streams }
  setValue name (.list (streams.zipIdx.map fun (n, i) => (i, Raw.ofNat n)))
  setVariable here.processName (Raw.ofNat child)
  modify fun s => { s with companions := here :: s.companions }
  return 0

/-- Forgets the commands beside the shell that have ended, with their streams and
    variables. -/
def dismissCompanions : Procedure Unit := do
  if (← get).companions.isEmpty then return ()
  let _ ← takeNote
  let s ← get
  let isOver (c : Companion) : Bool :=
    (s.jobs.find? (·.process = c.process)).all (·.ending.isSome)
  (s.companions.filter isOver).forM fun c => do
    c.streams.forM closeStream
    unsetVariable c.name
    unsetVariable c.processName
  modify fun s => { s with companions := s.companions.filter (!isOver ·) }

/-! ## Time -/

/-- A number of nanoseconds in seconds, with at most three places. -/
def secondsText (places nanoseconds : Nat) : Raw :=
  let thousandths := nanoseconds / 1000000
  let fraction := Raw.ofNat (1000 + thousandths % 1000) |>.drop 1
  Raw.ofNat (thousandths / 1000) ++ (if places = 0 then [] else '.' :: fraction.take places)

/-- A number of nanoseconds in minutes and seconds. -/
def minutesText (places nanoseconds : Nat) : Raw :=
  let minute := 60000000000
  Raw.ofNat (nanoseconds / minute) ++ 'm' :: secondsText places (nanoseconds % minute) ++ ['s']

/-- The text of a format for how long something took. -/
def timingText (nanoseconds : Nat) : Raw → Raw
  | '%' :: '%' :: rest => '%' :: timingText nanoseconds rest
  | '%' :: 'P' :: rest => "0.00".toList ++ timingText nanoseconds rest
  | '%' :: p :: 'l' :: c :: rest =>
    if p.isDigit && "RUS".toList.contains c then
      minutesText (min 3 (p.toNat - 48)) (if c = 'R' then nanoseconds else 0)
        ++ timingText nanoseconds rest
    else '%' :: timingText nanoseconds (p :: 'l' :: c :: rest)
  | '%' :: p :: c :: rest =>
    if p.isDigit && "RUS".toList.contains c then
      secondsText (min 3 (p.toNat - 48)) (if c = 'R' then nanoseconds else 0)
        ++ timingText nanoseconds rest
    else if p = 'l' && "RUS".toList.contains c then
      minutesText 3 (if c = 'R' then nanoseconds else 0) ++ timingText nanoseconds rest
    else if "RUS".toList.contains p then
      secondsText 3 (if p = 'R' then nanoseconds else 0) ++ timingText nanoseconds (c :: rest)
    else '%' :: timingText nanoseconds (p :: c :: rest)
  | '%' :: c :: rest =>
    if "RUS".toList.contains c then
      secondsText 3 (if c = 'R' then nanoseconds else 0) ++ timingText nanoseconds rest
    else '%' :: timingText nanoseconds (c :: rest)
  | c :: rest => c :: timingText nanoseconds rest
  | [] => []

/-- Runs commands and tells how long they took. -/
def runTimed (e : Engine) (stance : Stance) (inShort : Bool) (body : List Command) :
    Procedure Nat := do
  let start := (← get).machine.now
  let status ← e.run stance.followed body
  let usual : Raw := "\nreal\t%3lR\nuser\t%3lU\nsys\t%3lS".toList
  let format ← if inShort then pure "real %2R\nuser %2U\nsys %2S".toList
    else pure ((← valueOf? "TIMEFORMAT".toList).getD usual)
  if !format.isEmpty then
    complain (timingText ((← get).machine.now - start) format ++ ['\n'])
  return status

/-! ## Commands -/

/-- Runs commands with their streams redirected. -/
def runRedirected (e : Engine) (stance : Stance) (line : Nat) (body : List Command)
    (redirections : List Redirection) : Procedure Nat := do
  if redirections.isEmpty then e.run stance body
  else keepingStreams (redirections.flatMap Redirection.streams) do
    modify fun s => { s with line }
    if ← prepareStreams e redirections then e.run stance.followed body else redirectionStatus

/-- Keeps the status of a command that is a pipeline by itself. -/
def asOnlyStage (p : Procedure Nat) : Procedure Nat := do
  let status ← p
  modify fun s => { s with stageStatuses := [status] }
  return status

/-- Runs a command, and says whether its failure may end the shell. -/
def runOne (e : Engine) (stance : Stance) : Command → Procedure (Nat × Bool)
  | .simple line written assignments words redirections => do
    if ← isRich then
      announce e line (Command.simple line written assignments words redirections).text
    return (← asOnlyStage (runSimple e stance line assignments words redirections), true)
  | .redirected line body redirections => do
    return (← runRedirected e stance line body redirections, false)
  | .subshell line body redirections => do
    modify fun s => { s with line }
    let inside : Procedure Nat := do
      if ← prepareStreams e redirections then e.run { stance with isFinal := true } body
      else redirectionStatus
    let hasTraps ← hasTraps
    if stance.isFinal && !hasTraps then
      modify fun s => { s with nesting := s.nesting + 1 }
      return (← inside, true)
    else
      if ← isRich then
        let text := (Command.subshell line body redirections).text
        modify fun s => { s with command := text }
      return (← asOnlyStage (waiting e inside), true)
  | .background c => do return (← runBackground e c, true)
  | .coprocess line name c => do return (← runCoprocess e line name c, true)
  | .choice condition body otherwise => do
    if (← e.run .tested condition) = 0 then return (← e.run stance body, false)
    else return (← e.run stance otherwise, false)
  | .each line name words written body => do
    return (← runEach e stance line name words written body, false)
  | .offer line name words written body => do
    return (← runOffer e stance line name words written body, false)
  | .loop outcome condition body => do
    return (← runLoop e stance outcome condition body, false)
  | .select line w written arms => do
    modify fun s => { s with line }
    announce e line ("case " ++ written ++ " in ")
    let r ← expandText e w
    if ← isRich then trace e ("case " ++ written ++ " in")
    return (← runArms e stance r false 0 arms, false)
  | .pipeline stages => do return (← runPipeline e stance stages, true)
  | .define line name body => do
    let old := (← get).functions.lookup name
    if old.any (·.isReadOnly) then
      warn (name ++ ": readonly function")
      return (1, false)
    modify fun s =>
      let f : Definition := {
        body, source := s.source, line, isExported := old.any (·.isExported), isReadOnly := false }
      { s with functions := (name, f) :: s.functions.filter (·.1 ≠ name) }
    return (0, false)
  | .negation c => do return (if (← e.run .tested [c]) = 0 then 1 else 0, false)
  | .timed inShort body => do return (← runTimed e stance inShort body, false)
  | .both first second => do
    let status ← e.run .tested [first]
    if status = 0 then return (← e.run stance [second], false) else return (status, false)
  | .either first second => do
    let status ← e.run .tested [first]
    if status = 0 then return (0, false) else return (← e.run stance [second], false)
  | .ask line written c => do
    modify fun s => { s with line }
    announce e line written
    return (← containing do return if ← holds e false c then 0 else 1, true)
  | .compute line w written => do
    modify fun s => { s with line }
    announce e line written
    let r ← expandText e w
    trace e ("(( " ++ r ++ " ))")
    return (← containing do
      return if (← computingAs "((" (computeText r)) = 0 then 1 else 0, true)
  | .count line start test next written body => do
    return (← runCount e stance line start test next written body, false)

/-- **Running** commands one after another. Where they are tested, no failure ends
    the shell. -/
def runAll (e : Engine) (stance : Stance) : List Command → Procedure Nat
  | [] => return 0
  | c :: rest => do
    if ← hasOption 'n' then return (← get).status
    let (status, isChecked) ← closingConduits do
      runOne e (if rest.isEmpty then stance else stance.followed) c
    modify fun s => { s with status }
    noticeSignals e
    dismissCompanions
    if isChecked && status ≠ 0 && !stance.isTested then
      onOccasion e Signal.failure
      if ← hasOption 'e' then throw (.exit status)
    if rest.isEmpty then return status else runAll e stance rest

end Procedure

end MapAudit.Script
