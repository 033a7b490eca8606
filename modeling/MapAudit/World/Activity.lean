import MapAudit.Files.Access
import MapAudit.Verification.Check

/-! # Requests and activities

    A request is one thing that a run asks of the world around it: something
    about files, a program to be launched, a number that nobody else gets, a
    diagnostic to be shown.

    While the world works on some of the requests, a task waits and other tasks
    go on: `suspends` says which.

    An activity is a program over requests: it is done with a result, or it asks
    a request and goes on with the answer. It says nothing about how requests
    are answered, so that the same activity can be run alone, or step by step
    among others.
-/

namespace MapAudit

/-! ## Requests -/

/-- How a program ended. -/
structure Exit where
  /-- Its exit status; there is none when a signal ended it. -/
  status : Option Nat
  /-- What it wrote to its error stream. -/
  errors : ByteArray

namespace Exit

/-- Whether the program says that it succeeded. -/
def isSuccess (e : Exit) : Bool :=
  e.status == some 0

/-- The exit status as shown in messages: minus one for a signal. -/
def code (e : Exit) : Int :=
  match e.status with
  | some n => n
  | none => -1

end Exit

/-- **Request** to the world. -/
inductive Request where
  /-- The next unused number. -/
  | takeNumber
  /-- Shows a diagnostic. -/
  | report (d : Diagnostic)
  /-- Whether there is anything at a path. -/
  | hasNode (p : Path)
  /-- Whether there is a file at a path. -/
  | hasFile (p : Path)
  /-- Whether there is an executable file at a path. -/
  | hasProgram (p : Path)
  /-- Makes a directory and those above it. -/
  | createAll (p : Path)
  /-- Removes a directory and what is in it. -/
  | removeAll (p : Path)
  /-- Writes a file. -/
  | write (p : Path) (content : ByteArray)
  /-- Reads a file. -/
  | read (p : Path)
  /-- Launches a program in a directory and waits for its end. -/
  | launch (program : Path) (arguments : List String) (directory : Path)
  /-- Takes responsibility for a directory: should the task be dropped from now
      on, the directory is removed. -/
  | hold (p : Path)
  /-- Gives up the responsibility for a directory. -/
  | release (p : Path)
  /-- Removes a directory at once, if it can be removed. -/
  | discard (p : Path)

namespace Request

/-- What a request is answered with. -/
abbrev Answer : Request → Type
  | .takeNumber => Nat
  | .report _ => Unit
  | .hasNode _ => Bool
  | .hasFile _ => Bool
  | .hasProgram _ => Bool
  | .createAll _ => Except FileFault Unit
  | .removeAll _ => Except FileFault Unit
  | .write _ _ => Except FileFault Unit
  | .read _ => Except FileFault ByteArray
  | .launch _ _ _ => Option Exit
  | .hold _ => Unit
  | .release _ => Unit
  | .discard _ => Unit

/-- Whether a task waits for the answer while other tasks go on. -/
def suspends : Request → Bool
  | .takeNumber | .report _ | .hold _ | .release _ | .discard _ => false
  | .hasFile _ | .hasProgram _ => false
  | .hasNode _ | .createAll _ | .removeAll _ | .write _ _ | .read _ | .launch _ _ _ => true

end Request

/-! ## Activities -/

/-- **Activity** with a result. -/
inductive Activity (α : Type) : Type where
  /-- The activity is done. -/
  | done (result : α)
  /-- The activity asks a request and goes on with the answer. -/
  | ask (r : Request) (next : r.Answer → Activity α)

namespace Activity

variable {α β : Type}

/-- One activity after another. -/
def bind : Activity α → (α → Activity β) → Activity β
  | .done a, f => f a
  | .ask r next, f => .ask r fun answer => (next answer).bind f

instance : Monad Activity where
  pure := .done
  bind := bind

/-- The activity that asks one request. -/
def request (r : Request) : Activity r.Answer :=
  .ask r .done

/-- Takes the next unused number. -/
def takeNumber : Activity Nat :=
  request .takeNumber

/-- Shows a diagnostic. -/
def report (d : Diagnostic) : Activity Unit :=
  request (.report d)

/-- Whether there is anything at a path. -/
def hasNode (p : Path) : Activity Bool :=
  request (.hasNode p)

/-- Whether there is a file at a path. -/
def hasFile (p : Path) : Activity Bool :=
  request (.hasFile p)

/-- Whether there is an executable file at a path. -/
def hasProgram (p : Path) : Activity Bool :=
  request (.hasProgram p)

/-- Makes a directory and those above it. -/
def createAll (p : Path) : Activity (Except FileFault Unit) :=
  request (.createAll p)

/-- Removes a directory and what is in it. -/
def removeAll (p : Path) : Activity (Except FileFault Unit) :=
  request (.removeAll p)

/-- Writes a file. -/
def write (p : Path) (content : ByteArray) : Activity (Except FileFault Unit) :=
  request (.write p content)

/-- Reads a file. -/
def read (p : Path) : Activity (Except FileFault ByteArray) :=
  request (.read p)

/-- Launches a program in a directory. There is no answer when it cannot be
    started. -/
def launch (program : Path) (arguments : List String) (directory : Path) :
    Activity (Option Exit) :=
  request (.launch program arguments directory)

/-- Takes responsibility for a directory. -/
def hold (p : Path) : Activity Unit :=
  request (.hold p)

/-- Gives up the responsibility for a directory. -/
def release (p : Path) : Activity Unit :=
  request (.release p)

/-- Removes a directory at once, if it can be removed. -/
def discard (p : Path) : Activity Unit :=
  request (.discard p)

/-- Goes on with the value of an access, or fails with the given error. -/
def orFail {ε : Type} (e : ε) (access : Activity (Except FileFault α)) :
    ExceptT ε Activity α := do
  match ← access with
  | .ok a => return a
  | .error _ => throw e

end Activity

end MapAudit
