import MapAudit.Build.Error
import MapAudit.World.Activity

/-! # Scratch directories

    Every build runs in a directory of its own, made fresh under a common root.
    Its name ends in a number that is never used again, so no two builds share
    one. What an earlier run left behind under the name is cleared away first,
    if it is a directory.

    A scratch directory is removed when its build is over, however it ended,
    unless it is to be kept.
-/

namespace MapAudit

/-- **Scratch directory**. -/
structure Scratch where
  /-- Where it is. -/
  path : Path
  /-- Whether it stays. -/
  keep : Bool
  deriving DecidableEq, Repr

namespace Scratch

/-- What the names of all scratch directories begin with. -/
def namePrefix : String :=
  ".verify-source-map"

/-- Where the scratch directory with a number is. -/
def pathOf (root : Path) (number : Nat) : Path :=
  root.join ⟨[namePrefix ++ toString number]⟩

/-- **Creation** of the next scratch directory. The number is used up even if
    the directory cannot be made. -/
def create (root : Path) : ExceptT BuildError Activity Scratch := do
  let number ← Activity.takeNumber
  let path := pathOf root number
  if ← Activity.hasNode path then
    Activity.orFail (.io path) (Activity.removeAll path)
  Activity.orFail (.io path) (Activity.createAll path)
  Activity.hold path
  return { path, keep := false }

/-- Says whether a scratch directory stays. -/
def setKeep (scratch : Scratch) (keep : Bool) : Activity Scratch := do
  if keep then Activity.release scratch.path else Activity.hold scratch.path
  return { scratch with keep }

/-- **Drop** of a scratch directory that is not needed any more. -/
def drop (scratch : Scratch) : Activity Unit := do
  unless scratch.keep do
    Activity.discard scratch.path
    Activity.release scratch.path

/-- **Removal** of a scratch directory. If it fails the directory is dropped
    all the same. -/
def remove (scratch : Scratch) : ExceptT BuildError Activity Unit := do
  unless scratch.keep do
    match ← Activity.removeAll scratch.path with
    | .ok () => Activity.release scratch.path
    | .error _ =>
      scratch.drop
      throw (.io scratch.path)

end Scratch

end MapAudit
