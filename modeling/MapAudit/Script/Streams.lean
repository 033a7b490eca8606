import MapAudit.Script.Slot

/-! # Redirecting streams

    A redirection lets a stream lead to a file, to where another stream leads, to
    a text, or nowhere any more. What a file name says is found before any stream
    is redirected. A redirection that is not possible is complained about.
-/

namespace MapAudit.Script

/-- A redirection whose words were expanded. -/
inductive StreamChange where
  /-- A stream leads to a file. -/
  | toFile (stream : Nat) (mode : OpenMode) (file : Raw)
  /-- A stream leads where another one does, which is known by a name if it does not
      lead anywhere. -/
  | copy (stream : Nat) (target : Nat) (name : Raw)
  /-- A stream leads nowhere any more. -/
  | close (stream : Nat)
  /-- A stream leads to a text. -/
  | fromText (stream : Nat) (text : Raw)
  /-- Another stream, whose number a variable is given, is redirected instead. -/
  | held (name : Raw) (change : StreamChange)
  deriving DecidableEq, Repr

/-- The same change of another stream. -/
def StreamChange.on (stream : Nat) : StreamChange → StreamChange
  | .toFile _ mode file => .toFile stream mode file
  | .copy _ target name => .copy stream target name
  | .close _ => .close stream
  | .fromText _ text => .fromText stream text
  | .held name change => .held name change

/-- The access that a mode of opening gives. -/
def OpenMode.access : OpenMode → Access
  | .read => .reading
  | .write | .replace => .writing
  | .append => { Access.writing with appends := true }
  | .both => { Access.writing with reads := true }

namespace Procedure

/-! ## Opening -/

/-- The number of a stream to a channel that a script cannot name. -/
def transient (i : Nat) : Nat :=
  1000 + i

/-- Keeps a channel open that no stream leads to. -/
def hold (i : Nat) : Procedure Unit :=
  joinStream (transient i) i

/-- Lets go of such a channel. -/
def letGo (i : Nat) : Procedure Unit :=
  closeStream (transient i)

/-- Whether a file may be opened for an access. -/
def mayOpen (a : Attributes) (access : Access) : Bool :=
  (!access.reads || a.isReadable) && (!access.writes || a.isWritable)

/-- The attributes of what is made now, with those of some permissions that new
    files get. -/
def freshAttributes (permissions : Nat) : Procedure Attributes := do
  let s ← get
  return { permissions := permissions &&& (0o7777 ^^^ s.self.mask), time := s.machine.time }

/-- Puts a node where nothing is. -/
def create (location : Location) (node : FileTree) : Procedure (Except FileFault Unit) := do
  if !(← get).machine.tree.isOpenAbove location then return .error .denied
  onMachine (·.put location node)
  return .ok ()

/-- Creates an empty file where nothing is. -/
def createFile (location : Location) : Procedure (Except FileFault Unit) := do
  let attributes ← freshAttributes 0o666
  create location (.file { content := .empty, attributes, kinship := none })

/-- Opens the file at a place. -/
def openPlace (mode : OpenMode) (place : FilePlace) (f : File) : Procedure (Except FileFault Nat) := do
  if !mayOpen f.attributes mode.access then return .error .denied
  if mode = .write || mode = .replace then onMachine fun m => m.reviseAt place (m.rewritten f .empty)
  return .ok (← openChannel (.file place 0 mode.access))

/-- Opens a pipe with a name, once there is somebody at its other end. -/
def openNamedPipe (mode : OpenMode) (n : Nat) : Procedure Nat := do
  let (number, machine) := (← get).machine.namedPipe n
  onMachine fun _ => machine
  let i ← openChannel (.pipe number mode.access)
  hold i
  if mode ≠ .both then rest 0 (.partner number (mode ≠ .read))
  letGo i
  return i

/-- Opens a directory or what no attributes are asked for. -/
def openNode (mode : OpenMode) (location : Location) : FileTree → Procedure (Except FileFault Nat)
  | .file f => openPlace mode (.named location) f
  | .directory a _ => do
    if mode ≠ .read then return .error .isDirectory
    if !a.isReadable then return .error .denied
    return .ok (← openChannel (.directory location))
  | .link _ => return .error .tooManyLinks
  | .pipe n => do return .ok (← openNamedPipe mode n)
  | .device .terminal => return .error .noDevice
  | .device (.stream n) => do
    match ← channelAt? n with
    | none => return .error .notFound
    | some (.pipe number _) => return .ok (← openChannel (.pipe number mode.access))
    | some (.file place _ _) =>
      match (← get).machine.fileAt? place with
      | some f => openPlace mode place f
      | none => return .error .notFound
    | some c => return .ok (← openChannel c)
  | .device d => do return .ok (← openChannel (.device d))

/-- **Opening** a file. The answer is the number of a channel that leads to it. -/
def openFile (mode : OpenMode) (r : Raw) : Procedure (Except FileFault Nat) := do
  let s ← get
  match s.machine.tree.locate s.directory (pathOf r) with
  | .error fault => return .error fault
  | .ok location =>
    match s.machine.tree.get? location with
    | some (.file f) => do
      if mode = .write && s.options.contains 'C' then return .error .alreadyExists
      openNode mode location (.file f)
    | some node => openNode mode location node
    | none => do
      if mode = .read then return .error .notFound
      match ← createFile location with
      | .error fault => return .error fault
      | .ok () => return .ok (← openChannel (.file (.named location) 0 mode.access))

/-- Opens a file, does something with the channel, and closes it again. -/
def withOpen {α : Type} (mode : OpenMode) (r : Raw) (p : Nat → Procedure α) :
    Procedure (Except FileFault α) := do
  match ← openFile mode r with
  | .error fault => return .error fault
  | .ok i => do
    hold i
    let a ← p i
    letGo i
    return .ok a

/-- **Reading a file**. -/
def readFile (r : Raw) : Procedure (Except FileFault Raw) := do
  match ← withOpen .read r drain with
  | .error fault => return .error fault
  | .ok answer => return answer

/-- **Writing a file**. -/
def writeFile (r content : Raw) : Procedure (Except FileFault Unit) := do
  match ← withOpen .write r fun i => pour i content with
  | .error fault => return .error fault
  | .ok _ => return .ok ()

/-! ## Redirections -/

/-- What is said about a file that cannot be opened. -/
def openingText (d : Dialect) (mode : OpenMode) (r : Raw) (fault : FileFault) : Raw :=
  match d with
  | .sh =>
    let isMissing := fault = .notFound || fault = .notDirectory || fault = .badName
    if mode = .read then
      "cannot open " ++ r ++ ": " ++ (if isMissing then "No such file".toList else faultText fault)
    else
      "cannot create " ++ r ++ ": "
        ++ (if isMissing then "Directory nonexistent".toList else faultText fault)
  | .bash =>
    if fault = .alreadyExists then r ++ ": cannot overwrite existing file"
    else r ++ ": " ++ faultText fault

/-- Redirects a stream. The answer says whether that was possible. -/
def redirectPlainly (change : StreamChange) : Procedure Bool := do
  let d := (← get).dialect
  match change with
  | .fromText stream text => do
    joinStream stream (← textChannel text)
    return true
  | .close stream => do
    closeStream stream
    return true
  | .copy stream target name =>
    match ← channelOf? target with
    | some i => do
      joinStream stream i
      return true
    | none => do
      warn (name ++ ": Bad file descriptor")
      return false
  | .toFile stream mode file => do
    match ← openFile mode file with
    | .ok i => do
      joinStream stream i
      return true
    | .error fault => do
      warn (openingText d mode file fault)
      return false
  | .held _ _ => return false

/-- The first number of a stream from a number on, below a hundred, that nothing uses. -/
def freeStream (least : Nat) : Procedure Nat := do
  let taken := (← get).streams.map (·.1)
  return ((List.range' least 100).find? (!taken.contains ·)).getD least

/-- Redirects a stream whose number a variable is given where one is named. The answer says
    whether that was possible. -/
def redirect (change : StreamChange) : Procedure Bool := do
  match change with
  | .held name change => do
    let slot ← slotOf name
    if (← lookUp? slot.name).any (·.isReadOnly) then
      warn (name ++ ": readonly variable")
      warn (name ++ ": cannot assign fd to variable")
      return false
    let stream ← freeStream 10
    if ← redirectPlainly (change.on stream) then
      setAt slot (Raw.ofNat stream)
      return true
    else return false
  | change => redirectPlainly change

/-- Redirects streams one after another, as long as that is possible. -/
def redirectAll : List StreamChange → Procedure Bool
  | [] => return true
  | change :: rest => do
    if ← redirect change then redirectAll rest else return false

end Procedure

end MapAudit.Script
