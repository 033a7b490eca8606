import MapAudit.World.Activity

/-! # Worlds

    A world holds what requests can see and change: a file tree, the next unused
    number, and the diagnostics shown so far. A host says how programs behave in
    it.

    `perform` answers one request, and `Activity.run` an activity that has the
    world for itself.
-/

namespace MapAudit

/-- **World**. -/
structure World where
  /-- The files. -/
  tree : FileTree
  /-- The next unused number. -/
  nextNumber : Nat
  /-- The diagnostics shown so far. -/
  reported : List Diagnostic

/-- **Host** of a run. -/
structure Host where
  /-- Where relative paths are followed from. -/
  base : Location
  /-- What becomes of a launched program: how it ends, and the files it leaves
      behind. There is no answer when it cannot be started. -/
  launch : (program : Path) → (arguments : List String) → (directory : Path) →
    FileTree → Option (Exit × FileTree)

namespace World

/-- The world with other files. -/
def withTree (w : World) (tree : FileTree) : World :=
  { w with tree }

/-- **Answer** of a world to a request, and the world after it. -/
def perform (host : Host) (w : World) : (r : Request) → r.Answer × World
  | .takeNumber => (w.nextNumber, { w with nextNumber := w.nextNumber + 1 })
  | .report d => ((), { w with reported := w.reported ++ [d] })
  | .hasNode p => (w.tree.hasNode host.base p, w)
  | .hasFile p => (w.tree.hasFile host.base p, w)
  | .hasProgram p => (w.tree.hasProgram host.base p, w)
  | .createAll p =>
    let (answer, tree) := w.tree.createAll host.base p
    (answer, w.withTree tree)
  | .removeAll p =>
    let (answer, tree) := w.tree.removeAll host.base p
    (answer, w.withTree tree)
  | .write p content =>
    let (answer, tree) := w.tree.write host.base p content
    (answer, w.withTree tree)
  | .read p => (w.tree.read host.base p, w)
  | .launch program arguments directory =>
    match host.launch program arguments directory w.tree with
    | none => (none, w)
    | some (exit, tree) => (some exit, w.withTree tree)
  | .hold _ => ((), w)
  | .release _ => ((), w)
  | .discard p => ((), w.withTree (w.tree.removeAll host.base p).2)

end World

namespace Activity

variable {α : Type}

/-- **Run** of an activity that has the world for itself. -/
def run (host : Host) : Activity α → World → α × World
  | .done a, w => (a, w)
  | .ask r next, w =>
    let (answer, w) := w.perform host r
    (next answer).run host w

end Activity

end MapAudit
