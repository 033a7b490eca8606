import MapAudit.Files.Access
import MapAudit.Script.Signal

/-! # Machines

    Scripts and the programs they start share a machine: the files, the pipes, the
    channels that streams lead to, and the processes.

    A channel is an end of a pipe, a place in a file, a directory or a device. Many
    processes can have streams that lead to one channel: they share the place in
    the file. A pipe can be read as long as something is in it or somebody could
    still write to it; it can be written as long as somebody could read it, and
    takes only so much at a time.

    A file that loses its last name is kept for the channels that lead to it. A
    process whose working directory is removed is nowhere from then on.
-/

namespace MapAudit.Script

/-! ## Channels -/

/-- **Access** that a channel gives. -/
structure Access where
  /-- Whether it can be read. -/
  reads : Bool
  /-- Whether it can be written. -/
  writes : Bool
  /-- Whether what is written goes to the end. -/
  appends : Bool
  deriving DecidableEq, Repr

namespace Access

/-- Access for reading. -/
def reading : Access where
  reads := true
  writes := false
  appends := false

/-- Access for writing. -/
def writing : Access where
  reads := false
  writes := true
  appends := false

end Access

/-- **File place**: where an open file is. -/
inductive FilePlace where
  /-- It has a name, which stands at a location. -/
  | named (location : Location)
  /-- It has no name any more, but a number. -/
  | lost (number : Nat)
  deriving DecidableEq, Repr

/-- **Channel**: what a stream leads to. -/
inductive Channel where
  /-- An end of the pipe with a number, or both ends of it. -/
  | pipe (number : Nat) (access : Access)
  /-- A place in a file. -/
  | file (place : FilePlace) (offset : Nat) (access : Access)
  /-- A directory, which can only be looked at. -/
  | directory (location : Location)
  /-- A device. -/
  | device (d : Device)
  deriving DecidableEq, Repr

/-- **Pipe**. -/
structure Pipe where
  /-- What can be read first. -/
  front : Raw
  /-- What was written after that, in parts, the last one first. -/
  back : List Raw
  /-- How much is in it. -/
  size : Nat
  /-- Whether somebody outside of the machine takes all that is written. -/
  isDrained : Bool

namespace Pipe

/-- An empty pipe. -/
def empty : Pipe where
  front := []
  back := []
  size := 0
  isDrained := false

/-- How much a pipe takes. -/
def capacity : Nat := 65536

/-- The pipe after a text was written to it. -/
def push (p : Pipe) (r : Raw) : Pipe :=
  { p with back := r :: p.back, size := p.size + r.length }

/-- All that is in a pipe. -/
def content (p : Pipe) : Raw :=
  if p.back.isEmpty then p.front else p.front ++ p.back.reverse.flatten

/-- Takes at most so much from a pipe. -/
def pull (p : Pipe) (limit : Nat) : Raw × Pipe :=
  let all := p.content
  let (r, rest) := all.splitAt limit
  (r, { p with front := rest, back := [], size := p.size - r.length })

/-- Takes what is in a pipe up to a character, or at most so much. -/
def pullUpTo (p : Pipe) (stop : Char) (limit : Nat) : Raw × Pipe :=
  let whole (p : Pipe) : Raw × Pipe :=
    let before := (p.front.take limit).takeWhile (· ≠ stop)
    let (r, rest) := p.front.splitAt (min limit (before.length + 1))
    (r, { p with front := rest, size := p.size - r.length })
  let (r, rest) := whole p
  if r.getLast? = some stop || r.length = limit || p.back.isEmpty then (r, rest)
  else whole { p with front := p.content, back := [] }

end Pipe

/-! ## Processes -/

/-- How a process ended. -/
inductive Ending where
  /-- It exited with a status. -/
  | exited (status : Nat)
  /-- A signal ended it. -/
  | killed (s : Signal)
  deriving DecidableEq, Repr

namespace Ending

/-- The status that stands for an ending. -/
def status : Ending → Nat
  | .exited n => n % 256
  | .killed s => 128 + s

end Ending

/-- **Process**: what the machine knows of it. -/
structure Process where
  /-- The number of the process that started it. -/
  parent : Nat
  /-- The number of the process that its group is named for. -/
  group : Nat
  /-- The directory that relative paths start from. -/
  directory : Location
  /-- The numbers of the channels that streams lead to. -/
  streams : List (Nat × Nat)
  /-- Where streams led before, as it is kept for later. -/
  kept : List (List (Nat × Nat))
  /-- The signals that it was sent and has not noticed yet. -/
  pending : List Signal
  /-- The signals that it ignores. -/
  ignored : List Signal
  /-- The signals that it has made other provisions for. -/
  caught : List Signal
  /-- The time that it has got to, in nanoseconds. -/
  clock : Nat
  /-- The permissions that new files do not get. -/
  mask : Nat
  /-- How big the files may get that it writes. -/
  sizeLimit : Option Nat
  /-- How it ended. -/
  ending : Option Ending

namespace Process

/-- A process that nothing is known of. -/
def blank : Process where
  parent := 1
  group := 1
  directory := []
  streams := []
  kept := []
  pending := []
  ignored := []
  caught := []
  clock := 0
  mask := 0o022
  sizeLimit := none
  ending := none

/-- Whether a channel is one that a process can get at. -/
def holds (p : Process) (channel : Nat) : Bool :=
  p.streams.any (·.2 = channel) || p.kept.any fun streams => streams.any (·.2 = channel)

/-- The first signal that ends a process. -/
def fatal? (p : Process) : Option Signal :=
  p.pending.find? fun s =>
    s = Signal.kill || !(s.isHarmless || p.ignored.contains s || p.caught.contains s)

/-- Whether there is a signal that a process has made provisions for. -/
def hasNews (p : Process) : Bool :=
  p.pending.any p.caught.contains

end Process

/-- **Machine**. -/
structure Machine where
  /-- The files. -/
  tree : FileTree
  /-- The files that have no name any more. -/
  lost : Array File
  /-- The pipes. -/
  pipes : Array Pipe
  /-- The pipes with names, by the numbers of these. -/
  named : List (Nat × Nat)
  /-- The channels. -/
  channels : Array Channel
  /-- The processes by their numbers. -/
  processes : List (Nat × Process)
  /-- The number of the next process. -/
  nextProcess : Nat
  /-- The time, in nanoseconds. -/
  now : Nat

namespace Machine

/-- The machine without anything. -/
def blank : Machine where
  tree := .empty
  lost := #[]
  pipes := #[]
  named := []
  channels := #[]
  processes := []
  nextProcess := 0
  now := 0

/-- Where a process is whose working directory is not there any more. No name has a
    NUL character. -/
def nowhere : Location :=
  ["\x00"]

/-- The time of a change that is made now. -/
def time (m : Machine) : Int :=
  Attributes.start + m.now

/-! ## Processes -/

/-- The process with a number. -/
def process (m : Machine) (p : Nat) : Process :=
  (m.processes.lookup p).getD .blank

/-- Changes the process with a number. -/
def onProcess (m : Machine) (p : Nat) (f : Process → Process) : Machine :=
  { m with processes := m.processes.map fun (key, old) =>
      if key = p then (key, f old) else (key, old) }

/-- Whether a process is there that has not ended. -/
def isAlive (m : Machine) (p : Nat) : Bool :=
  match m.processes.lookup p with
  | some process => process.ending.isNone
  | none => false

/-- Starts a process that is like the one with a number. -/
def spawn (m : Machine) (p : Nat) : Nat × Machine :=
  let parent := m.process p
  let child := { parent with parent := p, pending := [] }
  (m.nextProcess, { m with
    processes := (m.nextProcess, child) :: m.processes
    nextProcess := m.nextProcess + 1 })

/-- Ends a process. Those that it started are nobody's from then on. -/
def finish (m : Machine) (p : Nat) (ending : Ending) : Machine :=
  let ended := m.onProcess p fun process =>
    { process with ending := some ending, streams := [], kept := [] }
  { ended with processes := ended.processes.filterMap fun (key, process) =>
      if process.parent = p then
        if process.ending.isSome then none else some (key, { process with parent := 1 })
      else if key = p && process.parent = 1 then none
      else some (key, process) }

/-- Forgets a process. -/
def forget (m : Machine) (p : Nat) : Machine :=
  { m with processes := m.processes.filter (·.1 ≠ p) }

/-- Sends a signal to a process. -/
def signal (m : Machine) (p : Nat) (s : Signal) : Machine :=
  m.onProcess p fun process =>
    if process.ignored.contains s && s ≠ Signal.kill then process
    else { process with pending := process.pending ++ [s] }

/-- Sends a signal to all processes of a group. -/
def signalGroup (m : Machine) (group : Nat) (s : Signal) : Machine :=
  (m.processes.filter fun (_, process) => process.group = group).foldl
    (fun m (p, _) => m.signal p s) m

/-! ## Pipes -/

/-- The channel with a number. -/
def channel (m : Machine) (i : Nat) : Channel :=
  (m.channels[i]?).getD (.device .null)

/-- Puts a channel in the place of the one with a number. -/
def setChannel (m : Machine) (i : Nat) (c : Channel) : Machine :=
  { m with channels := m.channels.setIfInBounds i c }

/-- Opens a channel, and gives its number. -/
def openChannel (m : Machine) (c : Channel) : Nat × Machine :=
  (m.channels.size, { m with channels := m.channels.push c })

/-- The pipe with a number. -/
def pipe (m : Machine) (n : Nat) : Pipe :=
  (m.pipes[n]?).getD .empty

/-- Puts a pipe in the place of the one with a number. -/
def setPipe (m : Machine) (n : Nat) (p : Pipe) : Machine :=
  { m with pipes := m.pipes.setIfInBounds n p }

/-- Makes a pipe. -/
def newPipe (m : Machine) (p : Pipe) : Nat × Machine :=
  (m.pipes.size, { m with pipes := m.pipes.push p })

/-- The number of the pipe with a name. -/
def namedPipe (m : Machine) (n : Nat) : Nat × Machine :=
  match m.named.lookup n with
  | some i => (i, m)
  | none =>
    let (i, m) := m.newPipe .empty
    (i, { m with named := (n, i) :: m.named })

/-- Whether a process could use a pipe in some way. -/
def hasEnd (m : Machine) (n : Nat) (uses : Access → Bool) : Bool :=
  m.processes.any fun (_, process) =>
    let isEnd (channel : Nat) : Bool := match m.channel channel with
      | .pipe number access => number = n && uses access
      | _ => false
    process.streams.any (isEnd ·.2) || process.kept.any fun streams => streams.any (isEnd ·.2)

/-- Whether anybody could write to a pipe. -/
def hasWriter (m : Machine) (n : Nat) : Bool :=
  m.hasEnd n (·.writes)

/-- Whether anybody could read a pipe. -/
def hasReader (m : Machine) (n : Nat) : Bool :=
  (m.pipe n).isDrained || m.hasEnd n (·.reads)

/-- How much more a pipe takes now. -/
def room (m : Machine) (n : Nat) : Nat :=
  let p := m.pipe n
  if p.isDrained then Pipe.capacity else Pipe.capacity - p.size

/-! ## Files -/

/-- The file at a place. -/
def fileAt? (m : Machine) : FilePlace → Option File
  | .named location =>
    match m.tree.get? location with
    | some (.file f) => some f
    | _ => none
  | .lost number => m.lost[number]?

/-- Puts a file at a place where one is. -/
def reviseAt (m : Machine) (place : FilePlace) (f : File) : Machine :=
  match place with
  | .named location => { m with tree := m.tree.revise location f }
  | .lost number => { m with lost := m.lost.setIfInBounds number f }

/-- A file with another content, which it gets now. -/
def rewritten (m : Machine) (f : File) (content : ByteArray) : File :=
  { f with content, attributes := { f.attributes with time := m.time } }

/-- The content of a file, with bytes written at an offset. -/
def overwrite (content : ByteArray) (offset : Nat) (bytes : ByteArray) : ByteArray :=
  if offset = content.size then content ++ bytes
  else
    let before := content.extract 0 offset
    let gap : ByteArray := ⟨(List.replicate (offset - before.size) (0 : UInt8)).toArray⟩
    before ++ gap ++ bytes ++ content.extract (offset + bytes.size) content.size

/-- The place of the first byte of a kind from a place on, or the end, at most `n`
    further on. -/
def placeOfByte (content : ByteArray) (byte : UInt8) : (n : Nat) → (i : Nat) → Nat
  | 0, i => i
  | n + 1, i =>
    match content[i]? with
    | none => i
    | some b => if b = byte then i else placeOfByte content byte n (i + 1)

/-- Takes note that what is in the directory above a location has changed. -/
def stirred (m : Machine) (location : Location) : Machine :=
  { m with tree := m.tree.adorn location.dropLast fun a => { a with time := m.time } }

/-- Puts a node at a location. -/
def put (m : Machine) (location : Location) (node : FileTree) : Machine :=
  { m with tree := m.tree.set location node }.stirred location

/-- A location after a node was moved. -/
def movedLocation (source target location : Location) : Location :=
  if source.isPrefixOf location then target ++ location.drop source.length else location

/-- Moves a node to where nothing is. -/
def move (m : Machine) (source target : Location) : Machine :=
  match m.tree.get? source with
  | none => m
  | some node =>
    let moved := { m with tree := (m.tree.erase source).set target node }
    { (moved.stirred source).stirred target with
      channels := m.channels.map fun c => match c with
        | .file (.named location) offset access =>
          .file (.named (movedLocation source target location)) offset access
        | .directory location => .directory (movedLocation source target location)
        | c => c
      processes := m.processes.map fun (p, process) =>
        (p, { process with directory := movedLocation source target process.directory }) }

/-- Where a file is known by another name than those below a location. -/
def otherName? (m : Machine) (location : Location) (f : File) : Option Location := do
  let n ← f.kinship
  let nodes := m.tree.nodes []
  let found ← nodes.find? fun (place, node) =>
    !location.isPrefixOf place && match node with
      | .file g => g.kinship = some n
      | _ => false
  return found.1

/-- A channel to where a file is after the node at a location was removed. The files
    that lost their names so far come with it. -/
def afterRemoval (m : Machine) (location : Location) (found : List (Location × Nat))
    (lost : Array File) (c : Channel) : Channel × List (Location × Nat) × Array File :=
  match c with
  | .file (.named place) offset access =>
    if location.isPrefixOf place then
      match m.tree.get? place with
      | some (.file f) =>
        match m.otherName? location f with
        | some other => (.file (.named other) offset access, found, lost)
        | none =>
          match found.lookup place with
          | some n => (.file (.lost n) offset access, found, lost)
          | none => (.file (.lost lost.size) offset access, (place, lost.size) :: found, lost.push f)
      | _ => (c, found, lost)
    else (c, found, lost)
  | c => (c, found, lost)

/-- Removes a node. -/
def remove (m : Machine) (location : Location) : Machine :=
  let (channels, _, lost) := m.channels.foldl (fun (channels, found, lost) c =>
    let (c, found, lost) := m.afterRemoval location found lost c
    (channels.push c, found, lost)) (#[], [], m.lost)
  { { m with tree := m.tree.erase location }.stirred location with
    channels
    lost
    processes := m.processes.map fun (p, process) =>
      if location.isPrefixOf process.directory then (p, { process with directory := nowhere })
      else (p, process) }

/-- Moves a node to where another one may be, which is removed. -/
def moveOver (m : Machine) (source target : Location) : Machine :=
  (if (m.tree.get? target).isSome then m.remove target else m).move source target

end Machine

end MapAudit.Script
