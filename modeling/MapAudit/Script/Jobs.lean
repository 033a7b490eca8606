import MapAudit.Script.Streams
import MapAudit.Text.Search

/-! # Jobs

    A job is a command that the shell did not wait for. Its processes go on beside
    the shell, which can list jobs, wait for them and send them signals. A word
    that begins with a percent sign names a job.
-/

namespace MapAudit.Script

namespace Job

/-- The number of a job's last stage, which stands for the job. -/
def process (job : Job) : Nat :=
  (job.processes.getLast?.map (·.1)).getD 0

/-- How a job ended, once all of its processes have: as the last stage did. -/
def ending (job : Job) : Option Ending :=
  if job.processes.all (·.2.isSome) then (job.processes.getLast?).bind (·.2) else none

/-- What became of a job, in words. -/
def stateText (d : Dialect) (job : Job) : Raw :=
  match job.ending with
  | none => "Running".toList
  | some (.exited 0) => "Done".toList
  | some (.exited n) =>
    match d with
    | .sh => "Done(".toList ++ Raw.ofNat n ++ [')']
    | .bash => "Exit ".toList ++ Raw.ofNat n
  | some (.killed s) => s.message

end Job

namespace Shell

/-- The jobs that have numbers, the last started last. -/
def numberedJobs (s : Shell) : List Job :=
  s.jobs.filter (0 < ·.number)

/-- Whether the shell has started a process and not forgotten it. -/
def isParentOf (s : Shell) (p : Nat) : Bool :=
  match s.machine.processes.lookup p with
  | some process => process.parent = s.process
  | none => false

/-- The job that a word names. -/
def jobOf? (s : Shell) (r : Raw) : Option Job :=
  match r with
  | '%' :: rest =>
    match rest with
    | [] | ['%'] | ['+'] => s.numberedJobs.getLast?
    | ['-'] => s.numberedJobs.reverse[1]?
    | '?' :: part => s.numberedJobs.find? fun job => Text.contains part job.text
    | rest =>
      match Raw.toNat? rest with
      | some n => s.numberedJobs.find? (·.number = n)
      | none => s.numberedJobs.find? fun job => rest.isPrefixOf job.text
  | _ => none

/-- The number of a new job. In the plain dialect, that of a job which is over and
    was waited for is used again. -/
def nextJobNumber (s : Shell) : Nat :=
  match s.dialect with
  | .bash => s.jobs.foldl (fun n job => max n (job.number + 1)) 1
  | .sh =>
    let taken := (s.jobs.filter fun job => !(job.ending.isSome && job.isWaitedFor)).map (·.number)
    ((List.range (s.jobs.length + 1)).map (· + 1)).find? (!taken.contains ·) |>.getD 1

end Shell

namespace Procedure

/-! ## What became of jobs -/

/-- Takes note of how processes of jobs ended. The answer has those that were not
    known before, each with the number that stands for its job. -/
def takeNote : Procedure (List (Nat × Ending)) := do
  let s ← get
  if s.jobs.all (·.ending.isSome) then return []
  let endingOf? (p : Nat) : Option Ending :=
    if s.isParentOf p then (s.machine.process p).ending else none
  let noted (job : Job) : Job :=
    { job with processes := job.processes.map fun (p, known) =>
        (p, known.orElse fun _ => endingOf? p) }
  let news := s.jobs.flatMap fun job => job.processes.filterMap fun (p, known) =>
    if known.isSome then none else (endingOf? p).map fun ending => (p, job.process, ending)
  modify fun s => { s with jobs := s.jobs.map noted }
  if !news.isEmpty then onMachine fun m => news.foldl (fun m (p, _) => m.forget p) m
  return news.map fun (_, job, ending) => (job, ending)

/-- Says that a signal ended a process which was waited for. -/
def tellEnding (ending : Ending) : Procedure Unit := do
  match ending with
  | .killed s => if !s.isQuiet && !(← isRich) then complain (s.message ++ ['\n'])
  | .exited _ => return ()

/-- Waits for a process that was started in the foreground, and says so if a signal
    ended it. -/
def awaitForeground (child : Nat) : Procedure Ending := do
  let ending ← await child
  let _ ← takeNote
  tellEnding ending
  return ending

/-- Lets go of the job whose number is used for the next one. -/
def vacate : Procedure Unit :=
  modify fun s =>
    let number := s.nextJobNumber
    { s with jobs := s.jobs.filter (·.number ≠ number) }

/-- Adds a job. -/
def addJob (processes : List Nat) (text : Raw) : Procedure Unit :=
  modify fun s =>
    let job : Job := {
      number := s.nextJobNumber
      processes := processes.map (·, none)
      text
      isWaitedFor := false }
    { s with
      background := some job.process
      jobs := s.jobs.filter (·.number ≠ job.number) ++ [job] }

/-- Marks a job as one that was waited for. In the richer dialect it loses its
    number. -/
def markWaitedFor (job : Job) : Procedure Unit :=
  modify fun s =>
    { s with jobs := s.jobs.map fun j =>
        if j.process ≠ job.process then j
        else match s.dialect with
          | .sh => { j with isWaitedFor := true }
          | .bash => { j with isWaitedFor := true, number := 0 } }

/-- Waits until a job is over. There is no answer if a signal comes first that the
    shell has made provisions for. -/
def awaitJob (job : Job) : Procedure (Option Ending) :=
  stepwise () fun _ => do
    let news ← takeNote
    news.forM fun (p, ending) => if p = job.process then tellEnding ending else return ()
    let s ← get
    match (s.jobs.find? (·.process = job.process)).map (·.ending) with
    | none => return .done (some (.exited 127))
    | some (some ending) => return .done (some ending)
    | some none =>
      if s.self.hasNews then return .done none
      let running := job.processes.map (·.1) |>.filter s.isParentOf
      if running.isEmpty then return .done (some (.exited 127))
      awaitAny (s.jobs.flatMap fun j => (j.processes.map (·.1)).filter s.isParentOf) none true
      return .more ()

/-- Waits until all jobs are over, or one of them is. There is no answer if a
    signal comes first that the shell has made provisions for. -/
def awaitJobs (isEnough : List Job → Bool) : Procedure (Option Unit) :=
  stepwise () fun _ => do
    let _ ← takeNote
    let s ← get
    let running := s.jobs.flatMap fun job => (job.processes.map (·.1)).filter s.isParentOf
    if running.isEmpty || isEnough s.jobs then return .done (some ())
    if s.self.hasNews then return .done none
    awaitAny running none true
    return .more ()

/-! ## Listing -/

/-- The mark of a job among others, of which the last comes first: that of the last
    one, of the one before it, or none. -/
def jobMark (d : Dialect) (jobs : List Job) (job : Job) : Char :=
  match jobs with
  | [] => ' '
  | last :: before =>
    let next : Option Job := match d with
      | .sh => before.head?
      | .bash => (before.find? (·.ending.isNone)).orElse fun _ => before.head?
    if job.number = last.number then '+'
    else if next.any (·.number = job.number) then '-'
    else ' '

/-- How a job is listed. -/
structure JobList where
  /-- Only the numbers of processes. -/
  onlyNumbers : Bool
  /-- The numbers of processes too. -/
  withNumbers : Bool

/-- The line about a job in a list. -/
def jobLine (d : Dialect) (l : JobList) (mark : Char) (job : Job) : Raw :=
  let state := job.stateText d
  let first := (job.processes.head?.map (·.1)).getD 0
  if l.onlyNumbers then Raw.ofNat first ++ ['\n']
  else match d with
  | .sh =>
    let start := '[' :: Raw.ofNat job.number ++ "] ".toList ++ [mark, ' ']
      ++ (if l.withNumbers then Raw.ofNat first ++ [' '] else []) ++ state
    start ++ List.replicate (33 - start.length) ' ' ++ job.text ++ ['\n']
  | .bash =>
    '[' :: Raw.ofNat job.number ++ [']', mark]
      ++ (if l.withNumbers then ' ' :: Raw.ofNat first ++ [' '] else "  ".toList)
      ++ state ++ List.replicate (24 - state.length) ' ' ++ job.text
      ++ (if job.ending.isNone then " &".toList else []) ++ ['\n']

/-- The lines about some jobs of those that have numbers. In the plain dialect the
    last job comes first, and one that is over counts no more once it is shown. -/
def jobLines (d : Dialect) (l : JobList) (isMeant : Job → Bool) (jobs : List Job) : Raw :=
  let line (among : List Job) (job : Job) : Raw := jobLine d l (jobMark d among job) job
  let shown : Raw × List Job → Job → Raw × List Job := fun (out, left) job =>
    if !isMeant job then (out, left)
    else (out ++ line left job,
      if job.ending.isSome then left.filter (·.number ≠ job.number) else left)
  match d with
  | .sh => (jobs.reverse.foldl shown ([], jobs.reverse)).1
  | .bash => (jobs.filter isMeant).flatMap (line jobs.reverse)

/-- Writes the lines about some jobs. Those that are over lose their numbers then,
    and in the plain dialect they are forgotten. -/
def listJobs (l : JobList) (isMeant : Job → Bool) : Procedure Unit := do
  let _ ← takeNote
  let s ← get
  write (jobLines s.dialect l isMeant s.numberedJobs)
  modify fun s =>
    let isGone (job : Job) : Bool := job.ending.isSome && isMeant job
    { s with jobs := match s.dialect with
        | .sh => s.jobs.filter (!isGone ·)
        | .bash => s.jobs.map fun job => if isGone job then { job with number := 0 } else job }

end Procedure

end MapAudit.Script
