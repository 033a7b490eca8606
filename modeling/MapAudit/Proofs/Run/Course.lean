import MapAudit.Proofs.Build.Making
import MapAudit.Proofs.World.Activity
import MapAudit.Run.Basic

/-! # The course of a task

    A task goes through phases by what it has to do with its scratch directory: it clears
    a place, makes the directory, takes responsibility for it, writes the files of its
    fixture, launches the tool, reads what came out, and removes the directory. `Course`
    says which requests a task may ask in which phase, and where each answer leads.

    Every task that does not keep its scratch directory follows this course. Whatever
    happens on the way, it comes to the removal once it holds the directory.
-/

namespace MapAudit

/-- **Phase** of a task. -/
inductive Phase where
  /-- The task looks for a leftover in the place of its directory. -/
  | looking
  /-- It clears a leftover away. -/
  | clearing
  /-- The place is clear, and the directory is to be made. -/
  | clear
  /-- The directory is made. -/
  | made
  /-- The task has begun to hold it. -/
  | held
  /-- The files of the fixture are written. -/
  | building
  /-- The tool has been launched, or will not be any more. -/
  | closing
  /-- The directory could not be removed. -/
  | failing
  /-- The directory is removed. -/
  | leaving
  /-- The task is done. -/
  | done
  deriving DecidableEq

namespace Phase

/-- Whether there is a scratch directory in a phase. -/
def hasDirectory : Phase → Bool
  | .made | .held | .building | .closing => true
  | .looking | .clearing | .clear | .failing | .leaving | .done => false

/-- The directories that a task holds in a phase. It takes hold of its own twice: when the
    directory is made, and again when it is not to be kept. -/
def holding (p : Path) : Phase → List Path
  | .held => [p]
  | .building | .closing | .failing | .leaving => [p, p]
  | .looking | .clearing | .clear | .made | .done => []

end Phase

variable {α β ε ε' : Type} {tool p : Path} {phase phase' phase'' : Phase}

/-- **Course** of an activity from a phase on: what it may ask, and where the answers lead. -/
inductive Course (tool p : Path) : Phase → Activity α → Prop where
  /-- Looking for a leftover. -/
  | look {next : Bool → Activity α} (found : Course tool p .clearing (next true))
      (nothing : Course tool p .clear (next false)) :
      Course tool p .looking (.ask (.hasNode p) next)
  /-- Clearing a leftover away. -/
  | remove {next : Except FileFault Unit → Activity α}
      (removed : Course tool p .clear (next (.ok ())))
      (failed : ∀ fault, Course tool p .done (next (.error fault))) :
      Course tool p .clearing (.ask (.removeAll p) next)
  /-- Making the directory. -/
  | make {next : Except FileFault Unit → Activity α} (made : Course tool p .made (next (.ok ())))
      (failed : ∀ fault, Course tool p .done (next (.error fault))) :
      Course tool p .clear (.ask (.createAll p) next)
  /-- Taking responsibility for it. -/
  | hold {next : Unit → Activity α} (h : Course tool p .held (next ())) :
      Course tool p .made (.ask (.hold p) next)
  /-- Saying that it is not to be kept. -/
  | holdOn {next : Unit → Activity α} (h : Course tool p .building (next ())) :
      Course tool p .held (.ask (.hold p) next)
  /-- Seeing to it that a file has a directory. -/
  | prepare {next : Except FileFault Unit → Activity α}
      (h : ∀ answer, Course tool p .building (next answer)) :
      Course tool p .building (.ask (.createAll p) next)
  /-- Writing a file into it. -/
  | write {file : String} {content : ByteArray} {next : Except FileFault Unit → Activity α}
      (ordinary : Scratch.IsOrdinary file) (h : ∀ answer, Course tool p .building (next answer)) :
      Course tool p .building (.ask (.write (p.join ⟨[file]⟩) content) next)
  /-- Launching the tool in it. -/
  | launch {arguments : List String} {next : Option Exit → Activity α}
      (h : ∀ answer, Course tool p .closing (next answer)) :
      Course tool p .building (.ask (.launch tool arguments p) next)
  /-- Giving up before the tool is launched. -/
  | close {a : Activity α} (h : Course tool p .closing a) : Course tool p .building a
  /-- Reading what came out. -/
  | read {q : Path} {next : Except FileFault ByteArray → Activity α}
      (h : ∀ answer, Course tool p .closing (next answer)) :
      Course tool p .closing (.ask (.read q) next)
  /-- Showing what is wrong with it. -/
  | report {d : Diagnostic} {next : Unit → Activity α} (h : Course tool p .closing (next ())) :
      Course tool p .closing (.ask (.report d) next)
  /-- Removing the directory. -/
  | finish {next : Except FileFault Unit → Activity α}
      (removed : Course tool p .leaving (next (.ok ())))
      (failed : ∀ fault, Course tool p .failing (next (.error fault))) :
      Course tool p .closing (.ask (.removeAll p) next)
  /-- Removing what cannot be removed once more. -/
  | discard {next : Unit → Activity α} (h : Course tool p .leaving (next ())) :
      Course tool p .failing (.ask (.discard p) next)
  /-- Giving up the responsibility. -/
  | release {next : Unit → Activity α} (h : Course tool p .done (next ())) :
      Course tool p .leaving (.ask (.release p) next)
  /-- Nothing is left to do. -/
  | done (a : α) : Course tool p .done (.done a)

/-! ### Parts of the course -/

/-- An activity that may fail **proceeds** from one phase to another: on success the course
    goes on from the later one, and on failure the directory is only to be removed. -/
def Proceeds (tool p : Path) (phase : Phase) (x : ExceptT ε Activity β) (phase' : Phase) : Prop :=
  ∀ {α : Type} (f : Except ε β → Activity α), (∀ b, Course tool p phase' (f (.ok b))) →
    (∀ e, Course tool p .closing (f (.error e))) → Course tool p phase (x.run >>= f)

namespace Proceeds

variable {e : ε} {b : β}

theorem pure : Proceeds tool p phase (pure b : ExceptT ε Activity β) phase :=
  fun _ hok _ => hok b

theorem throw : Proceeds tool p .closing (throw e : ExceptT ε Activity β) phase :=
  fun _ _ herror => herror e

/-- Giving up the writing is going on with the removal. -/
theorem close {x : ExceptT ε Activity β} (h : Proceeds tool p .closing x phase) :
    Proceeds tool p .building x phase :=
  fun f hok herror => .close (h f hok herror)

/-- **Sequence**: the second part proceeds from where the first one leads. -/
theorem bind {γ : Type} {x : ExceptT ε Activity β} {g : β → ExceptT ε Activity γ}
    (h : Proceeds tool p phase x phase') (h' : ∀ b, Proceeds tool p phase' (g b) phase'') :
    Proceeds tool p phase (x >>= g) phase'' := by
  intro α f hok herror
  rw [Activity.run_bind_eq, Activity.bind_assoc]
  exact h _ (fun b => h' b f hok herror) herror

theorem adapt {x : ExceptT ε Activity β} {g : ε → ε'} (h : Proceeds tool p phase x phase') :
    Proceeds tool p phase (x.adapt g) phase' := by
  intro α f hok herror
  rw [Activity.run_adapt_eq, Activity.bind_assoc]
  exact h _ hok fun e => herror (g e)

end Proceeds

/-! ### Building in a scratch directory -/

section Build

variable {root : Path} {number : Nat} {fixture : Fixture} {flags : BuildFlags}
  {scratch : Scratch} {f : FixtureFile} {task : Task}

/-- Whether a file of a fixture lies in the directory of the fixture itself. -/
def FixtureFile.IsPlain (f : FixtureFile) : Prop :=
  Path.ofString f.path = ⟨[f.path]⟩ ∧ Scratch.IsOrdinary f.path

end Build

end MapAudit
