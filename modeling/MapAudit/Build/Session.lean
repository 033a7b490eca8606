import MapAudit.Build.Artifacts

/-! # Scratch sessions

    A session makes several scratch directories, one after another, and uses
    them in any order: files are written into them, they are kept or not, and
    they are removed or dropped. Each is known by the number of its creation.
    What else happens to the files meanwhile is not the session's doing; a
    directory may be deleted behind its back.
-/

namespace MapAudit

namespace Scratch

/-- **Step** of a session. -/
inductive Step where
  /-- Creates the next directory under a root. -/
  | create (root : Path)
  /-- Says whether a directory stays. -/
  | keep (index : Nat) (keep : Bool)
  /-- Writes a file below a directory. -/
  | write (index : Nat) (f : FixtureFile)
  /-- Removes a directory. -/
  | remove (index : Nat)
  /-- Drops a directory. -/
  | drop (index : Nat)
  /-- Deletes a directory without telling the session. -/
  | delete (index : Nat)
  deriving DecidableEq, Repr

/-- What a step comes to. -/
inductive Outcome where
  /-- There is nothing to say. -/
  | nothing
  /-- A directory was created. -/
  | created (p : Path)
  /-- A directory was removed. -/
  | removed
  /-- A directory was dropped. -/
  | dropped
  /-- The step failed. -/
  | failed (e : BuildError)
  deriving DecidableEq, Repr

/-- **Session**: the directories created so far. Those that could not be created
    and those that are removed or dropped are no longer in use. -/
abbrev Session := List (Option Scratch)

namespace Session

/-- The directory with a number, if it is in use. -/
def inUse? (session : Session) (index : Nat) : Option Scratch :=
  session[index]?.join

/-- The session with another state of a directory. -/
def update (session : Session) (index : Nat) (scratch : Option Scratch) : Session :=
  session.set index scratch

/-- Performs a step. A step on a directory that is not in use does nothing. -/
def perform (session : Session) : Step → Activity (Outcome × Session)
  | .create root => do
    match ← (Scratch.create root).run with
    | .ok scratch => return (.created scratch.path, session ++ [some scratch])
    | .error e => return (.failed e, session ++ [none])
  | .keep index keep =>
    match session.inUse? index with
    | none => return (.nothing, session)
    | some scratch => do
      return (.nothing, session.update index (some (← scratch.setKeep keep)))
  | .write index f =>
    match session.inUse? index with
    | none => return (.nothing, session)
    | some scratch => do
      let _ ← (Artifacts.writeFile scratch.path f).run
      return (.nothing, session)
  | .remove index =>
    match session.inUse? index with
    | none => return (.nothing, session)
    | some scratch => do
      match ← scratch.remove.run with
      | .ok () => return (.removed, session.update index none)
      | .error e => return (.failed e, session.update index none)
  | .drop index =>
    match session.inUse? index with
    | none => return (.nothing, session)
    | some scratch => do
      scratch.drop
      return (.dropped, session.update index none)
  | .delete index =>
    match session.inUse? index with
    | none => return (.nothing, session)
    | some scratch => do
      let _ ← Activity.removeAll scratch.path
      return (.nothing, session)

end Session

end Scratch

end MapAudit
