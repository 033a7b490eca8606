import MapAudit.Script.Machine

/-! # Courses of processes

    A process does something on the machine and gives it back: to rest until it has
    what it needs, to split in two, or because it is over. The machine then goes on
    with the process that is behind all others in time, so that processes run side
    by side, each on a clock of its own.

    A process that is sent a signal without provisions for it ends where it rests.
-/

namespace MapAudit.Script

/-- **Need**: what a process rests for. -/
inductive Need where
  /-- Nothing: it just lets others do something. -/
  | nothing
  /-- The time that it has got to. -/
  | time (t : Nat)
  /-- Something to be read in a pipe, or a deadline. -/
  | input (pipe : Nat) (deadline : Option Nat)
  /-- Room in a pipe. -/
  | room (pipe : Nat)
  /-- Somebody at the other end of a pipe. -/
  | partner (pipe : Nat) (isReader : Bool)
  /-- The end of one of some processes, or a deadline. A process that `minds` goes on
      when there is a signal that it has made provisions for. -/
  | child (processes : List Nat) (deadline : Option Nat) (minds : Bool)
  deriving DecidableEq, Repr

/-- **Course** of a process from where it gets the machine. -/
inductive Course where
  /-- It is over. -/
  | over (m : Machine) (ending : Ending)
  /-- It rests after something that took so much time. -/
  | rest (m : Machine) (cost : Nat) (need : Need) (next : Machine → Course)
  /-- It splits in two. Both get the number of the second one. -/
  | split (m : Machine) (next : (isSecond : Bool) → (second : Nat) → Machine → Course)

/-- **Thread**: what is done up to a result, given what is done with it. -/
def Thread (α : Type) : Type :=
  (α → Course) → Course

instance : Monad Thread where
  pure a := fun next => next a
  bind t f := fun next => t fun a => f a next

/-- A process at rest. -/
structure Sleeper where
  /-- Its number. -/
  process : Nat
  /-- What it needs. -/
  need : Need
  /-- How it goes on. -/
  next : Machine → Course

namespace Machine

/-- The time at which a process can go on, if nothing else happens. -/
def wakeTime? (m : Machine) (s : Sleeper) : Option Nat :=
  let p := m.process s.process
  let now := some (max p.clock m.now)
  if p.fatal?.isSome then now
  else match s.need with
    | .nothing => some p.clock
    | .time t => some (max p.clock t)
    | .input n deadline =>
      if 0 < (m.pipe n).size || !m.hasWriter n then now else deadline
    | .room n => if 4096 ≤ m.room n || !m.hasReader n then now else none
    | .partner n isReader => if (if isReader then m.hasReader n else m.hasWriter n) then now else none
    | .child children deadline minds =>
      if children.any (!m.isAlive ·) || (minds && p.hasNews) then now else deadline

/-- The process that is behind all others, of those that can go on, with its time. -/
def firstToWake? (m : Machine) (sleepers : List Sleeper) : Option (Nat × Sleeper) :=
  sleepers.foldl (fun best s =>
    match m.wakeTime? s, best with
    | none, best => best
    | some t, none => some (t, s)
    | some t, some (t', s') => if t < t' then some (t, s) else some (t', s')) none

/-- The machine at the time when a process goes on. -/
def wake (m : Machine) (t p : Nat) : Machine :=
  let now := max m.now t
  { m with now }.onProcess p fun process => { process with clock := now }

/-- How long it takes until a process that was started does something. -/
def startDelay : Nat := 300000

/-- How long it takes to start a process. -/
def splitCost : Nat := 100000

/-- Goes on with processes for at most `n` steps, until the machine `isDone`. -/
def advance (isDone : Machine → Bool) : (n : Nat) → Machine → List Sleeper → Machine
  | 0, m, _ => m
  | n + 1, m, sleepers =>
    if isDone m then m
    else match m.firstToWake? sleepers with
      | none => m
      | some (t, s) =>
        let others := sleepers.filter (·.process ≠ s.process)
        let m := m.wake t s.process
        match (m.process s.process).fatal? with
        | some signal => advance isDone n (m.finish s.process (.killed signal)) others
        | none =>
          match s.next m with
          | .over m ending => advance isDone n (m.finish s.process ending) others
          | .rest m cost need next =>
            let m := m.onProcess s.process fun p => { p with clock := p.clock + cost }
            advance isDone n m (others ++ [{ s with need, next }])
          | .split m next =>
            let (child, m) := m.spawn s.process
            let m := m.onProcess s.process fun p => { p with clock := p.clock + splitCost }
            let m := m.onProcess child fun p => { p with clock := p.clock + startDelay }
            advance isDone n m (others ++ [
              { process := s.process, need := .nothing, next := next false child },
              { process := child, need := .nothing, next := next true child }])

end Machine

end MapAudit.Script
