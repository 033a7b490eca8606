import MapAudit.Run.Basic
import MapAudit.World.Basic

/-! # Interleavings

    The tasks of a run are launched together, and one of them works at a time.
    A task works until it asks a request that takes the world some time; then it
    waits, and another task may take its turn. Requests that are waited for take
    effect in any order.

    The run takes the results of tasks that have ended, in any order. The first
    error ends the run: all other tasks are dropped. Directories that a dropped
    task holds are removed at once. What a dropped task waits for still takes
    effect later, except for a program, which is stopped.

    An interleaving is the state of all that, and a turn is one thing that can
    happen next. Every list of turns that can happen is a possible schedule.
-/

namespace MapAudit

/-- The directories that a task is responsible for after a request. -/
def Request.holding (held : List Path) : Request → List Path
  | .hold p => p :: held
  | .release p => held.filter (· ≠ p)
  | _ => held

/-- Whether a request takes effect although nobody waits for it any more. -/
def Request.outlivesTask : Request → Bool
  | .launch _ _ _ => false
  | r => r.suspends

/-- How far a task is. -/
inductive Progress where
  /-- The task can go on. -/
  | ready (a : Activity (Except RunError Report))
  /-- The task waits for an answer. -/
  | waiting (r : Request) (next : r.Answer → Activity (Except RunError Report))
  /-- The task has ended, and its result has not been taken. -/
  | ended (result : Except RunError Report)
  /-- The result of the task has been taken, or the task was dropped. -/
  | gone

/-- A launched task. -/
structure Launched where
  /-- How far it is. -/
  progress : Progress
  /-- The directories that it is responsible for. -/
  held : List Path

namespace Launched

/-- A task at work, up to the next request that it has to wait for. -/
def work (host : Host) : Activity (Except RunError Report) → List Path → World → Launched × World
  | .done result, held, w => ({ progress := .ended result, held }, w)
  | .ask r next, held, w =>
    if r.suspends then ({ progress := .waiting r next, held }, w)
    else
      let (answer, w) := w.perform host r
      work host (next answer) (r.holding held) w

/-- **Dropping** a task: what is left of its requests, and the world after the
    directories that it holds are removed. -/
def drop (host : Host) (launched : Launched) (w : World) : List Request × World :=
  let left := match launched.progress with
    | .waiting r _ => if r.outlivesTask then [r] else []
    | _ => []
  (left, launched.held.foldl (fun w p => (w.perform host (.discard p)).2) w)

/-- A task that is gone. -/
def taken : Launched where
  progress := .gone
  held := []

end Launched

/-- **Interleaving** of the tasks of a run. -/
structure Interleaving where
  /-- The world. -/
  world : World
  /-- The tasks, by their slots. -/
  tasks : List Launched
  /-- Requests of dropped tasks that have yet to take effect. -/
  orphans : List Request
  /-- The reports taken so far, each with its slot, in the order of taking. -/
  reports : List (Nat × Report)
  /-- The error that ended the run. -/
  error : Option RunError

/-- **Turn**: what can happen next in a run. -/
inductive Turn where
  /-- A task that can go on does so. -/
  | work (slot : Nat)
  /-- What a task waits for takes effect, and the task gets its answer. -/
  | answer (slot : Nat)
  /-- The run takes the result of a task that has ended. -/
  | take (slot : Nat)
  /-- What a dropped task waited for takes effect. -/
  | settle (index : Nat)
  deriving DecidableEq, Repr

namespace Interleaving

/-- The start of a run whose tool is ready. -/
def start (config : Config) (tool : Path) (w : World) : Interleaving where
  world := w
  tasks := (Task.ofConfig config).map fun task =>
    { progress := .ready (task.perform config tool).run, held := [] }
  orphans := []
  reports := []
  error := none

/-- Drops tasks one after another. -/
def dropAll (host : Host) : List Launched → World → List Request × World
  | [], w => ([], w)
  | launched :: rest, w =>
    let (left, w) := launched.drop host w
    let (more, w) := dropAll host rest w
    (left ++ more, w)

/-- The run when an error ends it. -/
def fail (host : Host) (s : Interleaving) (e : RunError) : Interleaving :=
  let (left, w) := dropAll host s.tasks s.world
  { s with
    world := w
    tasks := s.tasks.map fun _ => .taken
    orphans := s.orphans ++ left
    error := some e }

/-- **Step** of a run, if the turn can happen. -/
def step? (host : Host) (s : Interleaving) : Turn → Option Interleaving
  | .work slot =>
    match s.tasks[slot]? with
    | some { progress := .ready a, held } =>
      let (launched, w) := Launched.work host a held s.world
      some { s with world := w, tasks := s.tasks.set slot launched }
    | _ => none
  | .answer slot =>
    match s.tasks[slot]? with
    | some { progress := .waiting r next, held } =>
      let (answer, w) := s.world.perform host r
      let launched : Launched := { progress := .ready (next answer), held }
      some { s with world := w, tasks := s.tasks.set slot launched }
    | _ => none
  | .take slot =>
    match s.tasks[slot]? with
    | some { progress := .ended result, held := _ } =>
      let rest := { s with tasks := s.tasks.set slot .taken }
      match result with
      | .ok report => some { rest with reports := s.reports ++ [(slot, report)] }
      | .error e => some (rest.fail host e)
    | _ => none
  | .settle index =>
    match s.orphans[index]? with
    | some r =>
      some { s with world := (s.world.perform host r).2, orphans := s.orphans.eraseIdx index }
    | none => none

/-- The state after a schedule, if all its turns can happen. -/
def after? (host : Host) (s : Interleaving) : List Turn → Option Interleaving
  | [] => some s
  | turn :: rest => (s.step? host turn).bind fun s => s.after? host rest

/-- Whether a task is gone. -/
def isGone (launched : Launched) : Bool :=
  match launched.progress with
  | .gone => true
  | _ => false

/-- **Result** of a run that is over: an error ended it, or all results are
    taken. -/
def result? (s : Interleaving) : Option (Except RunError Summary) :=
  match s.error with
  | some e => some (.error e)
  | none =>
    if s.tasks.all isGone then some (.ok (.collect s.tasks.length s.reports)) else none

end Interleaving

namespace Run

/-- **Possible end** of a run in a world: some schedule leads to the result, and
    everything that was asked of the world has taken effect. -/
inductive Ends (host : Host) (config : Config) (w : World) :
    Except RunError Summary → World → Prop where
  /-- Without a tool no task is launched. -/
  | unready {e : BuildError} {w' : World}
      (failed : (readyTool config).run.run host w = (.error e, w')) :
      Ends host config w (.error (.build e)) w'
  /-- With a tool the tasks run in some order. -/
  | scheduled {tool : Path} {ready : World} {turns : List Turn} {s : Interleaving}
      {result : Except RunError Summary}
      (found : (readyTool config).run.run host w = (.ok tool, ready))
      (played : (Interleaving.start config tool ready).after? host turns = some s)
      (ended : s.result? = some result)
      (settled : s.orphans = []) :
      Ends host config w result s.world

end Run

end MapAudit
