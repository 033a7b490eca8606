import MapAudit.Proofs.Run.Course
import MapAudit.Run.Interleaving

/-! # Where a task stands

    Between turns a task is somewhere on its course. `Fits` says what the files look like
    then: in the phases with a directory it is there and can be removed, and afterwards
    nothing is left of it. Whatever other tasks do keeps that up, since they have other
    numbers and so other places.

    What the task itself does leads to a phase that fits again. The tool is the only part of
    it that the program has no power over, so it has to be tame: it may do what it likes in
    its directory, as long as it can be removed in the end, and must not meddle with other
    scratch directories or the way to them.
-/

namespace MapAudit

open Scratch

variable {host : Host} {tool root : Path} {home : Location} {number number' : Nat}
  {tree tree' : FileTree} {w : World} {phase : Phase}

/-- **Tame tool**: what it leaves of the directory in which it is launched can be removed, and
    it leaves other scratch directories and the way to them alone. -/
def Host.Tame (host : Host) (tool root : Path) (home : Location) : Prop :=
  ∀ tree number arguments exit tree', Ready host.base root home tree →
    IsFresh (tree.get? (placeOf home number)) →
    host.launch tool arguments (pathOf root number) tree = some (exit, tree') →
    Ready host.base root home tree' ∧ IsRemovable (tree'.get? (placeOf home number)) ∧
      ∀ place, IsPlace place → place ≠ placeOf home number → tree'.get? place = tree.get? place

/-! ### Phases and files -/

/-- Whether the files are as they have to be in a phase of the task with a number. -/
def Phase.Fits (base : Location) (root : Path) (home : Location) (number : Nat) (tree : FileTree) :
    Phase → Prop
  | .looking => ∀ target, tree.get? (placeOf home number) ≠ some (.link target)
  | .clear => Clear base root number tree
  | .made | .held | .building => Ready base root home tree ∧ Sized root number ∧
      IsFresh (tree.get? (placeOf home number))
  | .closing => Ready base root home tree ∧ Sized root number ∧
      IsRemovable (tree.get? (placeOf home number))
  | .failing | .leaving => tree.get? (placeOf home number) = none
  | .clearing | .done => True

theorem placeOf_ne (home : Location) (h : number ≠ number') :
    placeOf home number ≠ placeOf home number' := fun heq =>
  h (nameOf_injective (List.singleton_inj.1 (List.append_cancel_left heq)))

/-- **Others**: what happens in other places does not matter to a task. -/
theorem Phase.Fits.of_frame {base : Location} (hout : Outside home)
    (hframe : Frame base root home number' tree tree') (hne : number ≠ number')
    (h : phase.Fits base root home number tree) : phase.Fits base root home number tree' := by
  have hplace : tree'.get? (placeOf home number) = tree.get? (placeOf home number) :=
    hframe.others _ (isPlace_concat hout number) (placeOf_ne home hne)
  cases phase with
  | looking => exact fun target hlink => h target (hplace.symm.trans hlink)
  | clear => exact hframe.clear hout hne h
  | made => exact ⟨hframe.ready h.1, h.2.1, hplace ▸ h.2.2⟩
  | held => exact ⟨hframe.ready h.1, h.2.1, hplace ▸ h.2.2⟩
  | building => exact ⟨hframe.ready h.1, h.2.1, hplace ▸ h.2.2⟩
  | closing => exact ⟨hframe.ready h.1, h.2.1, hplace ▸ h.2.2⟩
  | failing => exact hplace.trans h
  | leaving => exact hplace.trans h
  | clearing => trivial
  | done => trivial

/-! ### One request -/

/-- **Advance** of the task with a number: how a request takes it from one phase to another. -/
structure Advance (host : Host) (root : Path) (home : Location) (number : Nat)
    (phase phase' : Phase) (w w' : World) : Prop where
  /-- The files fit again. -/
  fits : phase'.Fits host.base root home number w'.tree
  /-- Only the place of the task is changed. -/
  frame : Frame host.base root home number w.tree w'.tree
  /-- No number is taken. -/
  nextNumber : w'.nextNumber = w.nextNumber
  /-- An empty place stays empty until there is a directory, and is empty when it is gone. -/
  tracked : w.tree.get? (placeOf home number) = none ∨ phase.hasDirectory = true →
    w'.tree.get? (placeOf home number) = none ∨ phase'.hasDirectory = true

section Building

variable {file : String} {content : ByteArray} {arguments : List String}

/-- Where the directory is there already, making it changes nothing. -/
theorem advance_prepare (hanchored : Anchored host.base root home w.tree)
    (hfits : Phase.Fits host.base root home number w.tree .building) :
    Advance host root home number .building .building w
      (w.perform host (.createAll (pathOf root number))).2 := by
  obtain ⟨entries, hdirectory, -⟩ := hfits.2.2
  have hsame : (w.tree.createAll host.base (pathOf root number)).2 = w.tree :=
    createAll_of_there (hfits.1.settled.locateName hfits.2.1) hdirectory
  have hperform : (w.perform host (.createAll (pathOf root number))).2 = w := by
    show w.withTree (w.tree.createAll host.base (pathOf root number)).2 = w
    rw [hsame]
    rfl
  rw [hperform]
  exact
    { fits := hfits
      frame := .refl hanchored
      nextNumber := rfl
      tracked := fun _ => Or.inr rfl }

/-- A file of a fixture is written into the directory, and nowhere else. -/
theorem advance_write (hout : Outside home) (hfile : IsOrdinary file)
    (hfits : Phase.Fits host.base root home number w.tree .building) :
    Advance host root home number .building .building w
      (w.perform host (.write ((pathOf root number).join ⟨[file]⟩) content)).2 := by
  obtain ⟨hready, hsized, hfresh⟩ := hfits
  obtain ⟨hframe, hfresh'⟩ := write_fresh hready hsized hfile hout hfresh
  exact
    { fits := ⟨hframe.ready hready, hsized, hfresh'⟩
      frame := hframe
      nextNumber := rfl
      tracked := fun _ => Or.inr rfl }

/-- A tame tool leaves a directory that can be removed, and all other places alone. -/
theorem advance_launch (hanchored : Anchored host.base root home w.tree)
    (htame : host.Tame tool root home)
    (hfits : Phase.Fits host.base root home number w.tree .building) :
    Advance host root home number .building .closing w
      (w.perform host (.launch tool arguments (pathOf root number))).2 := by
  obtain ⟨hready, hsized, hfresh⟩ := hfits
  cases hlaunch : host.launch tool arguments (pathOf root number) w.tree with
  | none =>
    have hperform : w.perform host (.launch tool arguments (pathOf root number)) = (none, w) :=
      Activity.run_launch_of_none hlaunch
    rw [hperform]
    exact
      { fits := ⟨hready, hsized, hfresh.isRemovable⟩
        frame := .refl hanchored
        nextNumber := rfl
        tracked := fun _ => Or.inr rfl }
  | some outcome =>
    obtain ⟨exit, tree'⟩ := outcome
    have hperform : w.perform host (.launch tool arguments (pathOf root number)) =
        (some exit, w.withTree tree') :=
      Activity.run_launch_of_some hlaunch
    rw [hperform]
    obtain ⟨hready', hremovable, hothers⟩ := htame _ _ _ _ _ hready hfresh hlaunch
    -- the way to the directory is there before and after
    have hhome : tree'.get? home ≠ none := by
      obtain ⟨a, hshape, -⟩ := hready'.opened
      obtain ⟨entries, hhome⟩ := FileTree.shape?_eq_directory_iff.1 hshape
      rw [hhome]
      exact nofun
    have hframe : Frame host.base root home number w.tree tree' :=
      { anchored := Or.inl hready'.settled
        ready := fun _ => hready'
        others := hothers
        made := fun _ => Or.inl hready.settled
        kept := fun hnone => absurd hnone hhome }
    exact
      { fits := ⟨hready', hsized, hremovable⟩
        frame := hframe
        nextNumber := rfl
        tracked := fun _ => Or.inr rfl }

end Building

section Request

variable {α : Type} {r : Request} {next : r.Answer → Activity α}
  (hout : Outside home) (hanchored : Anchored host.base root home w.tree)
include hout hanchored

/-- One request after the tool. -/
theorem advance_closing (hcourse : Course tool (pathOf root number) .closing (.ask r next))
    (hfits : Phase.Fits host.base root home number w.tree .closing) :
    ∃ phase', Course tool (pathOf root number) phase' (next (w.perform host r).1) ∧
      r.holding (Phase.closing.holding (pathOf root number)) =
        phase'.holding (pathOf root number) ∧
      Advance host root home number .closing phase' w (w.perform host r).2 := by
  cases hcourse with
  | read h => exact ⟨.closing, h _, rfl, hfits, .refl hanchored, rfl, id⟩
  | report h => exact ⟨.closing, h, rfl, hfits, .refl hanchored, rfl, id⟩
  | finish removed failed =>
    have hempty := get?_removeAll hfits.1 hfits.2.1 hfits.2.2
    have hframe : Frame host.base root home number w.tree _ := frame_removeAll hout hanchored
    cases hanswer : (w.perform host (.removeAll (pathOf root number))).1 with
    | ok u =>
      exact ⟨.leaving, removed, rfl, hempty, hframe, rfl, fun _ => Or.inl hempty⟩
    | error fault =>
      exact ⟨.failing, failed fault, rfl, hempty, hframe, rfl, fun _ => Or.inl hempty⟩

/-- **One request** takes a task to a phase that fits. -/
theorem exists_advance (htame : host.Tame tool root home)
    (hcourse : Course tool (pathOf root number) phase (.ask r next))
    (hfits : phase.Fits host.base root home number w.tree) :
    ∃ phase', Course tool (pathOf root number) phase' (next (w.perform host r).1) ∧
      r.holding (phase.holding (pathOf root number)) = phase'.holding (pathOf root number) ∧
      Advance host root home number phase phase' w (w.perform host r).2 := by
  cases hcourse with
  | look found nothing =>
    cases hnode : (w.perform host (.hasNode (pathOf root number))).1 with
    | true =>
      exact ⟨.clearing, found, rfl, trivial, .refl hanchored, rfl, id⟩
    | false =>
      exact ⟨.clear, nothing, rfl, clear_of_hasNode hanchored hfits hnode, .refl hanchored, rfl, id⟩
  | remove removed failed =>
    have hframe : Frame host.base root home number w.tree _ := frame_removeAll hout hanchored
    have hempty : w.tree.get? (placeOf home number) = none → _ := get?_removeAll_none hanchored
    cases hanswer : (w.perform host (.removeAll (pathOf root number))).1 with
    | ok u =>
      have hclear := get?_removeAll_ok hanchored hanswer
      exact ⟨.clear, removed, rfl, hframe.anchored.clear hclear, hframe, rfl,
        fun _ => Or.inl hclear⟩
    | error fault =>
      exact ⟨.done, failed fault, rfl, trivial, hframe, rfl, Or.imp_left hempty⟩
  | make made failed =>
    obtain ⟨hframe, ⟨hanswer, hready, hsized, hfresh⟩ | ⟨⟨fault, hanswer⟩, hsame⟩⟩ :=
      createAll_clear hout hanchored hfits
    · have hperform : (w.perform host (.createAll (pathOf root number))).1 = .ok () := hanswer
      rw [hperform]
      exact ⟨.made, made, rfl, ⟨hready, hsized, hfresh⟩, hframe, rfl, fun _ => Or.inr rfl⟩
    · have hperform : (w.perform host (.createAll (pathOf root number))).1 = .error fault := hanswer
      rw [hperform]
      exact ⟨.done, failed fault, rfl, trivial, hframe, rfl, Or.imp_left hsame.trans⟩
  | hold h => exact ⟨.held, h, rfl, hfits, .refl hanchored, rfl, fun _ => Or.inr rfl⟩
  | holdOn h => exact ⟨.building, h, rfl, hfits, .refl hanchored, rfl, fun _ => Or.inr rfl⟩
  | prepare h => exact ⟨.building, h _, rfl, advance_prepare hanchored hfits⟩
  | write ordinary h => exact ⟨.building, h _, rfl, advance_write hout ordinary hfits⟩
  | launch h => exact ⟨.closing, h _, rfl, advance_launch hanchored htame hfits⟩
  | close h =>
    obtain ⟨phase', hcourse', hholding, hadvance⟩ := advance_closing hout hanchored h
      ⟨hfits.1, hfits.2.1, hfits.2.2.isRemovable⟩
    exact ⟨phase', hcourse', hholding, hadvance.fits, hadvance.frame, hadvance.nextNumber,
      fun _ => hadvance.tracked (Or.inr rfl)⟩
  | read h => exact ⟨.closing, h _, rfl, hfits, .refl hanchored, rfl, id⟩
  | report h => exact ⟨.closing, h, rfl, hfits, .refl hanchored, rfl, id⟩
  | finish removed failed => exact advance_closing hout hanchored (.finish removed failed) hfits
  | discard h =>
    have hempty : (w.tree.removeAll host.base (pathOf root number)).2.get? (placeOf home number) =
        none := get?_removeAll_none hanchored hfits
    exact ⟨.leaving, h, rfl, hempty, frame_removeAll hout hanchored, rfl, fun _ => Or.inl hempty⟩
  | release h =>
    refine ⟨.done, h, ?_, trivial, .refl hanchored, rfl, fun _ => Or.inl hfits⟩
    simp [Request.holding, Phase.holding]

end Request

/-! ### Where a launched task stands -/

/-- **Standing** of a launched task between turns: before it has a number, with its number and
    its phase, or at its end. -/
inductive Stands (host : Host) (tool root : Path) (home : Location) (tree : FileTree) :
    Option (Nat × Phase) → Launched → Prop where
  /-- It has yet to take a number. -/
  | unbegun {next : Nat → Activity (Except RunError Report)}
      (h : ∀ number, Course tool (pathOf root number) .looking (next number)) :
      Stands host tool root home tree none
        { progress := .ready (.ask .takeNumber next), held := [] }
  /-- It has nothing to do. -/
  | idle {result : Except RunError Report} :
      Stands host tool root home tree none { progress := .ready (.done result), held := [] }
  /-- It can go on with its course. -/
  | ready {number : Nat} {phase : Phase} {a : Activity (Except RunError Report)}
      (course : Course tool (pathOf root number) phase a)
      (fits : phase.Fits host.base root home number tree) :
      Stands host tool root home tree (some (number, phase))
        { progress := .ready a, held := phase.holding (pathOf root number) }
  /-- It waits for an answer. -/
  | waiting {number : Nat} {phase : Phase} {r : Request}
      {next : r.Answer → Activity (Except RunError Report)} (suspends : r.suspends = true)
      (course : Course tool (pathOf root number) phase (.ask r next))
      (fits : phase.Fits host.base root home number tree) :
      Stands host tool root home tree (some (number, phase))
        { progress := .waiting r next, held := phase.holding (pathOf root number) }
  /-- It has ended. -/
  | ended {result : Except RunError Report} :
      Stands host tool root home tree none { progress := .ended result, held := [] }
  /-- It is gone. -/
  | gone : Stands host tool root home tree none .taken

/-- **Others**: a task stands where it stood, whatever happens in another place. -/
theorem Stands.of_frame {own : Option (Nat × Phase)} {launched : Launched} (hout : Outside home)
    (hframe : Frame host.base root home number tree tree')
    (hne : ∀ number' phase, own = some (number', phase) → number' ≠ number)
    (h : Stands host tool root home tree own launched) :
    Stands host tool root home tree' own launched := by
  cases h with
  | unbegun h => exact .unbegun h
  | idle => exact .idle
  | ready course fits => exact .ready course (fits.of_frame hout hframe (hne _ _ rfl))
  | waiting suspends course fits =>
    exact .waiting suspends course (fits.of_frame hout hframe (hne _ _ rfl))
  | ended => exact .ended
  | gone => exact .gone

/-- **Progress** of the task with a number from one world to another, by where it stands then. -/
structure Progresses (host : Host) (tool root : Path) (home : Location) (number : Nat)
    (phase : Phase) (own : Option (Nat × Phase)) (launched : Launched) (w w' : World) : Prop where
  /-- It stands somewhere on its course. -/
  stands : Stands host tool root home w'.tree own launched
  /-- It keeps its number. -/
  same : ∀ number' phase', own = some (number', phase') → number' = number
  /-- Only its place is changed. -/
  frame : Frame host.base root home number w.tree w'.tree
  /-- No number is taken. -/
  nextNumber : w'.nextNumber = w.nextNumber
  /-- An empty place stays empty until there is a directory, and is empty when it is gone. -/
  tracked : w.tree.get? (placeOf home number) = none ∨ phase.hasDirectory = true →
    w'.tree.get? (placeOf home number) = none ∨
      ∃ phase', own = some (number, phase') ∧ phase'.hasDirectory = true

section Work

variable (hout : Outside home) (htame : host.Tame tool root home)
include hout htame

/-- **Work**: a task at work goes along its course to the next request that it waits for. -/
theorem exists_progress_work {a : Activity (Except RunError Report)}
    (hanchored : Anchored host.base root home w.tree)
    (hcourse : Course tool (pathOf root number) phase a)
    (hfits : phase.Fits host.base root home number w.tree) :
    ∃ own, Progresses host tool root home number phase own
      (Launched.work host a (phase.holding (pathOf root number)) w).1 w
      (Launched.work host a (phase.holding (pathOf root number)) w).2 := by
  induction a generalizing phase w with
  | done result =>
    -- only a course that is done has come to its end
    obtain rfl : phase = .done := by
      cases hcourse with
      | done => rfl
      | close h => exact absurd h nofun
    exact ⟨none, .ended, nofun, .refl hanchored, rfl, fun h => Or.inl (h.resolve_right nofun)⟩
  | ask r next ih =>
    unfold Launched.work
    by_cases hr : r.suspends = true
    · rw [if_pos hr]
      refine ⟨some (number, phase), .waiting hr hcourse hfits, ?_, .refl hanchored, rfl, ?_⟩
      · rintro number' phase' ⟨⟩
        rfl
      · exact Or.imp_right fun h => ⟨phase, rfl, h⟩
    · rw [if_neg hr]
      obtain ⟨phase', hcourse', hholding, hadvance⟩ :=
        exists_advance hout hanchored htame hcourse hfits
      obtain ⟨own, hprogress⟩ := ih _ hadvance.frame.anchored hcourse' hadvance.fits
      dsimp only
      rw [hholding]
      exact ⟨own, hprogress.stands, hprogress.same, hadvance.frame.trans hprogress.frame,
        hprogress.nextNumber.trans hadvance.nextNumber,
        fun h => hprogress.tracked (hadvance.tracked h)⟩

/-- **Answer**: a task that gets its answer can go on with its course. -/
theorem exists_progress_answer {r : Request} {next : r.Answer → Activity (Except RunError Report)}
    (hanchored : Anchored host.base root home w.tree) (hsuspends : r.suspends = true)
    (hcourse : Course tool (pathOf root number) phase (.ask r next))
    (hfits : phase.Fits host.base root home number w.tree) :
    ∃ own, Progresses host tool root home number phase own
      { progress := .ready (next (w.perform host r).1),
        held := phase.holding (pathOf root number) } w (w.perform host r).2 := by
  obtain ⟨phase', hcourse', hholding, hadvance⟩ :=
    exists_advance hout hanchored htame hcourse hfits
  have hheld : r.holding (phase.holding (pathOf root number)) =
      phase.holding (pathOf root number) := by
    cases r <;> first | rfl | exact absurd hsuspends nofun
  rw [← hheld, hholding]
  refine ⟨some (number, phase'), .ready hcourse' hadvance.fits, ?_, hadvance.frame,
    hadvance.nextNumber, fun h => (hadvance.tracked h).imp_right fun h => ⟨phase', rfl, h⟩⟩
  rintro number' phase'' ⟨⟩
  rfl

end Work

end MapAudit
