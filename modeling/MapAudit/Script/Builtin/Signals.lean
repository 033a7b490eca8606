import MapAudit.Script.Builtin.Variables
import MapAudit.Script.Jobs

/-! # Builtin commands on signals and processes

    `trap` says what is done on a signal or at the end of the shell, `kill` sends
    signals, and `wait` waits for jobs. A signal that a shell ignores from its start
    stays ignored.
-/

namespace MapAudit.Script

namespace Signal

/-- The signal that a word names in a provision. -/
def ofWord? (d : Dialect) (r : Raw) : Option Signal :=
  let upper := r.map Char.toUpper
  if upper = "EXIT" then some 0
  else match d with
    | .sh => ofRaw? r
    | .bash =>
      if upper = "ERR" then some failure
      else if upper = "DEBUG" then some step
      else if upper = "RETURN" then some departure
      else if "SIG".toList.isPrefixOf upper then ofName? (upper.drop 3)
      else ofRaw? r

/-- The name of a signal as it is listed. -/
def listedName (d : Dialect) (s : Signal) : Raw :=
  if s = 0 then "EXIT"
  else if s = failure then "ERR"
  else if s = step then "DEBUG"
  else if s = departure then "RETURN"
  else match name? s with
    | none => Raw.ofNat s
    | some name =>
      match d with
      | .sh => name
      | .bash => "SIG" ++ name

end Signal

namespace Procedure

/-! ## Names -/

/-- The name of a signal as it is listed alone. In the plain dialect a few have just their
    numbers. -/
def shownName? (d : Dialect) (signal : Signal) : Option Raw :=
  match d with
  | .bash => if signal = 0 then some "EXIT".toList else signal.name?
  | .sh =>
    if [16, 32, 33].contains signal then some (Raw.ofNat signal) else signal.name?

/-- The names of all signals, from the first one on, as they are listed. -/
def signalNames (d : Dialect) : List Raw :=
  (List.range' 1 Signal.greatest).map fun signal => (shownName? d signal).getD []

/-- The names of all signals with their numbers, five of them in a line. -/
def signalColumns : Raw :=
  let entries := (signalNames .bash).zipIdx.filter (!·.1.isEmpty)
  let shown := entries.zipIdx.map fun ((name, i), k) =>
    let n := Raw.ofNat (i + 1)
    List.replicate (2 - n.length) ' ' ++ n ++ ") SIG".toList ++ name
      ++ [if k % 5 = 4 then '\n' else '\t']
  shown.flatten ++ ['\n']

/-! ## Provisions -/

/-- Writes the provisions for signals, in the order of some signals if those are
    given. -/
def listTraps (signals : Option (List Signal)) : Procedure Nat := do
  let s ← get
  let traps := match s.dialect, s.formerTraps with
    | .sh, _ | .bash, [] => s.traps
    | .bash, former => former
  let sorted := match signals with
    | none => traps.mergeSort fun a b => a.1 ≤ b.1
    | some signals => signals.filterMap fun signal => (traps.lookup signal).map fun r => (signal, r)
  sorted.forM fun (signal, action) =>
    let shown := match s.dialect with
      | .sh => Quote.alternating action
      | .bash => Quote.single action
    write ("trap -- " ++ shown ++ ' ' :: signal.listedName s.dialect ++ ['\n'])
  return 0

/-- Changes the provisions for signals. -/
def setTraps (action : Option Raw) (signals : List Raw) : Procedure Nat := do
  let s ← get
  forEach signals fun r => do
    match Signal.ofWord? s.dialect r with
    | none => do
      match s.dialect with
      | .sh => complain ("trap: " ++ r ++ ": bad trap\n")
      | .bash => warn (r ++ ": invalid signal specification")
      return 1
    | some signal => do
      let s ← get
      let staysIgnored := s.self.ignored.contains signal && s.traps.lookup signal ≠ some []
      if staysIgnored && s.dialect = .bash then return 0
      modify fun s =>
        let others := s.traps.filter (·.1 ≠ signal)
        let s := { s with formerTraps := [] }
        match action with
        | some action => { s with traps := others ++ [(signal, action)] }
        | none => { s with traps := others }
      if signal ≠ 0 && !staysIgnored then onSelf fun p =>
        let ignored := p.ignored.filter (· ≠ signal)
        let caught := p.caught.filter (· ≠ signal)
        match action with
        | none => { p with ignored, caught }
        | some [] => { p with ignored := signal :: ignored, caught }
        | some _ => { p with ignored, caught := signal :: caught }
      return 0

/-- Says what is done on signals. -/
def trap (arguments : List Raw) : Procedure Nat := do
  let d := (← get).dialect
  let o ← readOptions (if d = .bash then "lp" else "") "" arguments
  if o.has 'l' then
    write signalColumns
    return 0
  else if o.has 'p' then
    listTraps (if o.operands.isEmpty then none
      else some (o.operands.filterMap (Signal.ofWord? d)))
  else match o.operands with
    | [] => listTraps none
    | [r] =>
      if d = .bash && (Signal.ofWord? d r).isNone then
        tellUsage
        return 2
      else setTraps none [r]
    | action :: signals =>
      if action = ['-'] then setTraps none signals
      else if (Raw.toNat? action).isSome then setTraps none (action :: signals)
      else setTraps (some action) signals

/-! ## Sending signals -/

/-- Sends a signal to a process or, if the number is not positive, to the processes
    of a group. The answer says whether there is any. -/
def send (signal : Signal) (target : Int) : Procedure Bool := do
  let s ← get
  let isMeant (p : Nat) (process : Process) : Bool :=
    if target = 0 then process.group = s.self.group
    else if target < 0 then (process.group : Int) = -target
    else (p : Int) = target
  let found := s.machine.processes.filter fun (p, process) => isMeant p process
  if signal ≠ 0 then
    onMachine fun m => found.foldl (fun m (p, _) => m.signal p signal) m
    breathe 0
  return !found.isEmpty

/-- Refuses a call, in the plain dialect. -/
def refuseKill {α : Type} : Procedure α :=
  refuse ("Usage: kill [-s sigspec | -signum | -sigspec] [pid | job]... or\n"
    ++ "kill -l [exitstatus]")

/-- The processes that an operand names, or their groups. There is no answer for
    one that makes no sense. -/
def targetsOf (r : Raw) : Procedure (Option (List Int)) := do
  let s ← get
  match s.dialect, r with
  | .sh, '%' :: _ =>
    match s.jobOf? r with
    | some job => return some [-((job.processes.head?.map (·.1)).getD 0 : Int)]
    | none => refuse ("No such job: " ++ r)
  | .sh, '-' :: digits => return some [-((← demandNumber digits) : Int)]
  | .sh, digits => return some [((← demandNumber digits) : Int)]
  | .bash, '%' :: _ =>
    match s.jobOf? r with
    | some job => return some (job.processes.map fun (p, _) => (p : Int))
    | none => do
      warn (r ++ ": no such job")
      return none
  | .bash, r =>
    match wholeNumber? r with
    | some n => return some [n]
    | none => do
      warn (r ++ ": arguments must be process or job IDs")
      return none

/-- Writes the names of signals. -/
def listSignals (operands : List Raw) : Procedure Nat := do
  let d := (← get).dialect
  match d, operands with
  | .sh, [] => do
    write (Raw.unlines (['0'] :: signalNames .sh))
    return 0
  | .bash, [] => do
    write signalColumns
    return 0
  | .sh, r :: _ => do
    let n ← demandNumber r
    match if n = 0 then none else shownName? .sh (if 128 < n then n - 128 else n) with
    | some name => do
      write (name ++ ['\n'])
      return 0
    | none => refuse ("invalid signal number or exit status: " ++ r)
  | .bash, operands =>
    forEach operands fun r => do
      let shown : Option Raw := match Raw.toNat? r with
        | some n => shownName? .bash (if 128 ≤ n then n - 128 else n)
        | none => (Signal.ofWord? .bash r).map Raw.ofNat
      match shown with
      | some shown => do
        write (shown ++ ['\n'])
        return 0
      | none => do
        warn (r ++ ": invalid signal specification")
        return 1

/-- Sends a signal to processes. In the plain dialect all of them must be there, in
    the richer one any of them. -/
def sendAll (signal : Signal) (operands : List Raw) : Procedure Nat := do
  let rich ← isRich
  let answers ← operands.mapM fun r => do
    match ← targetsOf r with
    | none => return false
    | some targets => do
      let sent ← targets.mapM (send signal)
      if sent.any fun there => there then return true
      if rich then warn ("(" ++ r ++ ") - No such process") else warn "No such process\n"
      return false
  let isDone := if rich then answers.any fun there => there else answers.all fun there => there
  return if isDone then 0 else 1

/-- Sends signals, in the plain dialect. -/
def plainKill (arguments : List Raw) : Procedure Nat := do
  match arguments with
  | [] => refuseKill
  | first :: rest => do
    let direct := match first with
      | '-' :: name => Signal.ofWord? .sh name
      | _ => none
    match direct with
    | some signal => if rest.isEmpty then refuseKill else sendAll signal rest
    | none => do
      let o ← readOptions "l" "s" arguments
      let signal ← match o.value? 's' with
        | none => pure 15
        | some r =>
          match Signal.ofRaw? r with
          | some signal => pure signal
          | none => refuse ("invalid signal number or name: " ++ r)
      if o.has 'l' then listSignals o.operands
      else if o.operands.isEmpty then refuseKill
      else sendAll signal o.operands

/-- Sends signals, in the richer dialect. -/
def richKill (arguments : List Raw) : Procedure Nat := do
  let named (r : Raw) (operands : List Raw) : Procedure Nat := do
    match Signal.ofWord? .bash r with
    | none => do
      warn (r ++ ": invalid signal specification")
      return 1
    | some signal =>
      if operands.isEmpty then
        tellUsage
        return 2
      else sendAll signal operands
  match arguments with
  | ['-', 'l'] :: operands | ['-', 'L'] :: operands => listSignals operands
  | ['-', 's'] :: r :: operands | ['-', 'n'] :: r :: operands => named r operands
  | ['-', '-'] :: operands => named "TERM" operands
  | ('-' :: r) :: operands => named r operands
  | operands => named "TERM" operands

/-- Sends signals. -/
def kill (arguments : List Raw) : Procedure Nat := do
  if ← isRich then richKill arguments else plainKill arguments

/-! ## Jobs -/

/-- The job that an operand of `wait` names. -/
def awaited? (r : Raw) : Procedure (Option Job) := do
  let s ← get
  match r with
  | '%' :: _ => return s.jobOf? r
  | r => return (Raw.toNat? r).bind fun n => s.jobs.find? (·.process = n)

/-- The status of a shell whose wait ended because of a signal. -/
def interruption : Procedure Nat := do
  let self := (← get).self
  return 128 + (self.pending.find? self.caught.contains).getD 0

/-- Waits for some jobs in the plain dialect. The status is that of the last one
    that there is. -/
def plainWait : (last : Nat) → List Raw → Procedure Nat
  | last, [] => return last
  | last, r :: rest => do
    if r.head? ≠ some '%' then
      let _ ← demandNumber r
    match ← awaited? r with
    | none =>
      if r.head? = some '%' then refuse ("No such job: " ++ r) else plainWait last rest
    | some job =>
      match ← awaitJob job with
      | none => interruption
      | some ending => do
        markWaitedFor job
        plainWait ending.status rest

/-- Waits for some jobs in the richer dialect. The status is that of the last
    one. -/
def richWait : (last : Nat) → List Raw → Procedure Nat
  | last, [] => return last
  | _, r :: rest => do
    match ← awaited? r with
    | none => do
      if r.head? = some '%' then
        warn (r ++ ": no such job")
        richWait 127 rest
      else if (Raw.toNat? r).isSome then
        warn ("pid " ++ r ++ " is not a child of this shell")
        richWait 127 rest
      else
        warn ("\x60" ++ r ++ "': not a pid or valid job spec")
        richWait 1 rest
    | some job =>
      match ← awaitJob job with
      | none => interruption
      | some ending => do
        markWaitedFor job
        richWait ending.status rest

/-- Waits for the first one of some jobs that is over and was not waited for, in the
    richer dialect. -/
def waitForNext (holder : Option Raw) (operands : List Raw) : Procedure Nat := do
  let meant ← operands.mapM awaited?
  let isMeant (job : Job) : Bool :=
    !job.isWaitedFor && (operands.isEmpty || meant.any fun m => (m.map (·.process)) = some job.process)
  let isOver (job : Job) : Bool := isMeant job && job.ending.isSome
  match ← awaitJobs (fun jobs => jobs.any isOver || !jobs.any isMeant) with
  | none => interruption
  | some () => do
    match (← get).jobs.find? isOver with
    | none => return 127
    | some job => do
      match holder with
      | some name => setVariable name (Raw.ofNat job.process)
      | none => pure ()
      markWaitedFor job
      return (job.ending.map (·.status)).getD 127

/-- Waits for jobs. -/
def wait (arguments : List Raw) : Procedure Nat := do
  let rich ← isRich
  let o ← readOptions (if rich then "fn" else "") (if rich then "p" else "") arguments
  if o.has 'n' then waitForNext (o.value? 'p') o.operands
  else if o.operands.isEmpty then
    match ← awaitJobs fun _ => false with
    | none => interruption
    | some () => do
      (← get).jobs.forM markWaitedFor
      return 0
  else if rich then richWait 0 o.operands
  else plainWait 127 o.operands

/-- Lists jobs. -/
def jobs (arguments : List Raw) : Procedure Nat := do
  let rich ← isRich
  let o ← readOptions (if rich then "lnprs" else "lp") "" arguments
  let l : JobList := { onlyNumbers := o.has 'p', withNumbers := o.has 'l' }
  let hasState (job : Job) : Bool :=
    if o.has 'r' then job.ending.isNone else !o.has 's'
  if o.operands.isEmpty then
    listJobs l hasState
    return 0
  forEach o.operands fun r => do
    let _ ← takeNote
    match (← get).jobOf? r with
    | some job => do
      listJobs l fun j => j.number = job.number && hasState j
      return 0
    | none =>
      if rich then
        warn (r ++ ": no such job")
        return 1
      else refuse ("No such job: " ++ r)

/-- Forgets jobs, which go on all the same. -/
def disown (arguments : List Raw) : Procedure Nat := do
  let o ← readOptions "ahr" "" arguments
  let _ ← takeNote
  let leave (isMeant : Job → Bool) : Procedure Unit :=
    if o.has 'h' then return ()
    else modify fun s => { s with jobs := s.jobs.filter fun job => !isMeant job }
  if o.operands.isEmpty && (o.has 'a' || o.has 'r') then
    leave fun job => o.has 'a' || job.ending.isNone
    return 0
  forEach (if o.operands.isEmpty then [['%']] else o.operands) fun r => do
    let s ← get
    let job? := match r with
      | '%' :: _ => s.jobOf? r
      | r => (Raw.toNat? r).bind fun n => s.jobs.find? (·.process = n)
    match job? with
    | some job => do
      leave (·.number = job.number)
      return 0
    | none => do
      warn ((if o.operands.isEmpty then "current".toList else r) ++ ": no such job")
      return 1

/-- Stops the shell, which is only possible where jobs can be told to go on. -/
def suspend (arguments : List Raw) : Procedure Nat := do
  let _ ← readOptions "f" "" arguments
  warn "cannot suspend: no job control"
  return 1

/-- Leaves a shell that somebody logged in to, which none is here. -/
def logout : Procedure Nat := do
  warn "not login shell: use \x60exit'"
  return 1

/-- Goes on with a job that was stopped: there is none. -/
def resume (arguments : List Raw) : Procedure Nat := do
  if ← isRich then
    warn "no job control"
    return 1
  match arguments, (← get).jobs with
  | [], [] => refuse "No current job"
  | [], _ => refuse "job (null) not created under job control"
  | r :: _, _ =>
    if ((← get).jobOf? r).isSome then refuse "job (null) not created under job control"
    else refuse ("No such job: " ++ r)

end Procedure

end MapAudit.Script
