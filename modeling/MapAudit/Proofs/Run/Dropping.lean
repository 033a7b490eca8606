import MapAudit.Proofs.Run.Standing
import MapAudit.Proofs.Run.Turns

/-! # What dropped tasks leave behind

    When a run fails all its tasks are dropped. The directories that they hold are removed
    at once; what they wait for takes effect later. A task that is not making a directory
    leaves nothing behind that way: its own directory is gone, and what it still asks for
    looks for something, removes something, or writes into what is gone.
-/

namespace MapAudit

open Scratch

variable {host : Host} {tool root : Path} {home : Location} {number number' : Nat}
  {tree tree' tree'' : FileTree} {w : World} {phase : Phase} {launched : Launched}

/-! ### Requests of dropped tasks -/

/-- A tree **shrinks** if no place of a scratch directory is newly taken. -/
structure Shrinks (base : Location) (root : Path) (home : Location) (tree tree' : FileTree) :
    Prop where
  /-- The scratch root stays anchored. -/
  anchored : Anchored base root home tree'
  /-- It stays ready. -/
  ready : Ready base root home tree → Ready base root home tree'
  /-- Empty places stay empty. -/
  empty : ∀ place, IsPlace place → tree.get? place = none → tree'.get? place = none

/-- **Harmless**: a request that takes no place of a scratch directory. -/
inductive Harmless (base : Location) (root : Path) (home : Location) (tree : FileTree) :
    Request → Prop where
  /-- Looking for something. -/
  | look {p : Path} : Harmless base root home tree (.hasNode p)
  /-- Reading. -/
  | read {p : Path} : Harmless base root home tree (.read p)
  /-- Removing a scratch directory. -/
  | remove {number : Nat} : Harmless base root home tree (.removeAll (pathOf root number))
  /-- Writing into a directory that is gone. -/
  | write {number : Nat} {file : String} {content : ByteArray} (ready : Ready base root home tree)
      (sized : Sized root number) (ordinary : IsOrdinary file)
      (empty : tree.get? (placeOf home number) = none) :
      Harmless base root home tree (.write ((pathOf root number).join ⟨[file]⟩) content)

section Shrinking

variable {base : Location}

theorem Shrinks.refl (h : Anchored base root home tree) : Shrinks base root home tree tree :=
  ⟨h, id, fun _ _ hnone => hnone⟩

theorem Shrinks.trans (h : Shrinks base root home tree tree')
    (h' : Shrinks base root home tree' tree'') : Shrinks base root home tree tree'' where
  anchored := h'.anchored
  ready hready := h'.ready (h.ready hready)
  empty place hplace hnone := h'.empty place hplace (h.empty place hplace hnone)

theorem Shrinks.of_frame (h : Frame base root home number tree tree')
    (hempty : tree.get? (placeOf home number) = none → tree'.get? (placeOf home number) = none) :
    Shrinks base root home tree tree' where
  anchored := h.anchored
  ready := h.ready
  empty place hplace hnone := by
    by_cases heq : place = placeOf home number
    · subst heq
      exact hempty hnone
    · exact (h.others place hplace heq).trans hnone

/-- A harmless request stays harmless. -/
theorem Harmless.of_shrinks {r : Request} (hout : Outside home)
    (hshrinks : Shrinks base root home tree tree') (h : Harmless base root home tree r) :
    Harmless base root home tree' r := by
  cases h with
  | look => exact .look
  | read => exact .read
  | remove => exact .remove
  | write ready sized ordinary empty =>
    exact .write (hshrinks.ready ready) sized ordinary
      (hshrinks.empty _ (isPlace_concat hout _) empty)

/-- **Harmless requests** take no place when they take effect. -/
theorem Harmless.shrinks {r : Request} (hout : Outside home)
    (hanchored : Anchored host.base root home w.tree)
    (h : Harmless host.base root home w.tree r) :
    Shrinks host.base root home w.tree (w.perform host r).2.tree := by
  cases h with
  | look => exact .refl hanchored
  | read => exact .refl hanchored
  | @remove number =>
    have hframe : Frame host.base root home number w.tree _ := frame_removeAll hout hanchored
    exact .of_frame hframe (get?_removeAll_none hanchored)
  | @write number file content ready sized ordinary empty =>
    have hsame : (w.tree.write host.base ((pathOf root number).join ⟨[file]⟩) content).2 = w.tree :=
      write_nowhere ready sized ordinary empty
    show Shrinks _ _ _ _ (w.tree.write host.base ((pathOf root number).join ⟨[file]⟩) content).2
    rw [hsame]
    exact .refl hanchored

end Shrinking

/-! ### Dropping tasks -/

/-- Whether a task is **making** a directory: it waits for one, or it has yet to take
    responsibility for one that is made. -/
def Launched.isMaking (launched : Launched) : Bool :=
  match launched.progress with
  | .waiting (.createAll _) _ => true
  | .ready (.ask (.hold _) _) => true
  | _ => false

section Drop

variable (hout : Outside home)
include hout

/-- Discarding the directory of a task some times. -/
theorem discards (held : List Path) (hheld : ∀ q ∈ held, q = pathOf root number)
    (hanchored : Anchored host.base root home w.tree) :
    Frame host.base root home number w.tree
        (held.foldl (fun w p => (w.perform host (.discard p)).2) w).tree ∧
      (w.tree.get? (placeOf home number) = none →
        (held.foldl (fun w p => (w.perform host (.discard p)).2) w).tree.get?
          (placeOf home number) = none) := by
  induction held generalizing w with
  | nil => exact ⟨.refl hanchored, id⟩
  | cons q rest ih =>
    obtain rfl := hheld q List.mem_cons_self
    have hframe : Frame host.base root home number w.tree
        (w.perform host (.discard (pathOf root number))).2.tree := frame_removeAll hout hanchored
    have hempty : w.tree.get? (placeOf home number) = none →
        (w.perform host (.discard (pathOf root number))).2.tree.get? (placeOf home number) = none :=
      get?_removeAll_none hanchored
    obtain ⟨hrest, hrestEmpty⟩ :=
      ih (fun q hq => hheld q (List.mem_cons_of_mem _ hq)) hframe.anchored
    exact ⟨hframe.trans hrest, fun hnone => hrestEmpty (hempty hnone)⟩

/-- Discarding a directory that can be removed. -/
theorem discards_removable (rest : List Path) (hrest : ∀ q ∈ rest, q = pathOf root number)
    (hready : Ready host.base root home w.tree) (hsized : Sized root number)
    (hremovable : IsRemovable (w.tree.get? (placeOf home number))) :
    ((pathOf root number :: rest).foldl (fun w p => (w.perform host (.discard p)).2) w).tree.get?
      (placeOf home number) = none := by
  have hframe : Frame host.base root home number w.tree
      (w.perform host (.discard (pathOf root number))).2.tree :=
    frame_removeAll hout (Or.inl hready.settled)
  have hempty : (w.perform host (.discard (pathOf root number))).2.tree.get?
      (placeOf home number) = none := get?_removeAll hready hsized hremovable
  exact (discards hout rest hrest hframe.anchored).2 hempty

omit hout in
theorem holding_eq (phase : Phase) (p : Path) : ∀ q ∈ phase.holding p, q = p := by
  cases phase <;> simp [Phase.holding]

omit hout in
/-- What a task asks for and still takes effect is harmless, if it does not make a directory and
    its own is gone. -/
theorem harmless_of_course {r : Request} {next : r.Answer → Activity (Except RunError Report)}
    {base : Location} (hcourse : Course tool (pathOf root number) phase (.ask r next))
    (hsuspends : r.suspends = true) (houtlives : r.outlivesTask = true)
    (hspared : ∀ p, r ≠ .createAll p)
    (hgone : phase = .building → Ready base root home tree ∧ Sized root number ∧
      tree.get? (placeOf home number) = none) : Harmless base root home tree r := by
  have hclosing : ∀ {r : Request} {next : r.Answer → Activity (Except RunError Report)},
      Course tool (pathOf root number) .closing (.ask r next) → r.suspends = true →
        Harmless base root home tree r := by
    intro r next hcourse hsuspends
    cases hcourse with
    | read => exact .read
    | report => exact absurd hsuspends nofun
    | finish => exact .remove
  cases hcourse with
  | look => exact .look
  | remove => exact .remove
  | make => exact absurd rfl (hspared _)
  | prepare => exact absurd rfl (hspared _)
  | write ordinary =>
    obtain ⟨hready, hsized, hempty⟩ := hgone rfl
    exact .write hready hsized ordinary hempty
  | launch => exact absurd houtlives nofun
  | close h => exact hclosing h hsuspends
  | read h => exact hclosing (.read h) hsuspends
  | report h => exact hclosing (.report h) hsuspends
  | finish removed failed => exact hclosing (.finish removed failed) hsuspends
  | hold => exact absurd hsuspends nofun
  | holdOn => exact absurd hsuspends nofun
  | discard => exact absurd hsuspends nofun
  | release => exact absurd hsuspends nofun

omit hout in
/-- A task that makes no directory holds what its phase says, and it is not between making one
    and holding it. -/
theorem Stands.of_spared (h : Stands host tool root home tree (some (number, phase)) launched)
    (hspared : launched.isMaking = false) :
    launched.held = phase.holding (pathOf root number) ∧ phase ≠ .made ∧
      phase.Fits host.base root home number tree := by
  cases h with
  | ready course fits =>
    refine ⟨rfl, ?_, fits⟩
    rintro rfl
    cases course
    exact absurd hspared nofun
  | waiting suspends course fits =>
    refine ⟨rfl, ?_, fits⟩
    rintro rfl
    cases course
    exact absurd suspends nofun

/-- Discarding what a task holds takes its directory away. -/
theorem discards_holding (hmade : phase ≠ .made) (hdirectory : phase.hasDirectory = true)
    (hfits : phase.Fits host.base root home number w.tree) :
    ((phase.holding (pathOf root number)).foldl
      (fun w p => (w.perform host (.discard p)).2) w).tree.get? (placeOf home number) = none := by
  cases phase with
  | made => exact absurd rfl hmade
  | held => exact discards_removable hout [] nofun hfits.1 hfits.2.1 hfits.2.2.isRemovable
  | building =>
    exact discards_removable hout [_] (by simp) hfits.1 hfits.2.1 hfits.2.2.isRemovable
  | closing => exact discards_removable hout [_] (by simp) hfits.1 hfits.2.1 hfits.2.2
  | _ => exact absurd hdirectory nofun

/-- **Dropping** a task that makes no directory: its place is empty if it was before or if
    there was a directory, and what is left of the task is harmless. -/
theorem drop_course (hanchored : Anchored host.base root home w.tree)
    (h : Stands host tool root home w.tree (some (number, phase)) launched)
    (hspared : launched.isMaking = false) :
    Frame host.base root home number w.tree (launched.drop host w).2.tree ∧
      (w.tree.get? (placeOf home number) = none ∨ phase.hasDirectory = true →
        (launched.drop host w).2.tree.get? (placeOf home number) = none) ∧
      ∀ r ∈ (launched.drop host w).1,
        Harmless host.base root home (launched.drop host w).2.tree r := by
  obtain ⟨hheld, hmade, hfits⟩ := h.of_spared hspared
  -- all that dropping does to the world is to discard what the task holds
  have hdrop : (launched.drop host w).2 = (phase.holding (pathOf root number)).foldl
      (fun w p => (w.perform host (.discard p)).2) w := by
    rw [← hheld]
    rfl
  obtain ⟨hframe, hempty⟩ := discards hout (phase.holding (pathOf root number))
    (holding_eq phase _) hanchored
  have htaken : phase.hasDirectory = true →
      (launched.drop host w).2.tree.get? (placeOf home number) = none := by
    intro hdirectory
    rw [hdrop]
    exact discards_holding hout hmade hdirectory hfits
  rw [← hdrop] at hframe hempty
  refine ⟨hframe, fun h => h.elim hempty htaken, ?_⟩
  intro r hr
  -- what is left is the request that the task waits for
  obtain ⟨⟨next, hwaiting⟩, houtlives⟩ := Launched.of_mem_drop hr
  cases h with
  | ready => exact absurd hwaiting nofun
  | waiting suspends course fits =>
    cases hwaiting
    apply harmless_of_course course suspends houtlives
    · rintro p rfl
      exact absurd hspared nofun
    · rintro rfl
      exact ⟨hframe.ready fits.1, fits.2.1, htaken rfl⟩

omit hout in
/-- A task without a number is dropped without a trace. -/
theorem drop_none (h : Stands host tool root home tree none launched) :
    launched.drop host w = ([], w) := by
  cases h <;> rfl

end Drop

namespace Interleaving

/-- **Dropping all tasks**: when none of them is making a directory, no place is newly taken,
    those of the tasks are empty, and what is left of the tasks is harmless. -/
theorem dropAll_stands (hout : Outside home) (tasks : List Launched)
    (own : Nat → Option (Nat × Phase)) (hanchored : Anchored host.base root home w.tree)
    (hstands : ∀ slot launched, tasks[slot]? = some launched →
      Stands host tool root home w.tree (own slot) launched)
    (hdistinct : ∀ slot slot' number phase phase', own slot = some (number, phase) →
      own slot' = some (number, phase') → slot = slot')
    (hspared : ∀ launched ∈ tasks, launched.isMaking = false) :
    Shrinks host.base root home w.tree (dropAll host tasks w).2.tree ∧
      (∀ r ∈ (dropAll host tasks w).1,
        Harmless host.base root home (dropAll host tasks w).2.tree r) ∧
      ∀ slot number phase, slot < tasks.length → own slot = some (number, phase) →
        phase.hasDirectory = true →
          (dropAll host tasks w).2.tree.get? (placeOf home number) = none := by
  induction tasks generalizing own w with
  | nil =>
    exact ⟨.refl hanchored, fun _ hr => absurd hr List.not_mem_nil,
      fun slot _ _ hlt => absurd hlt (Nat.not_lt_zero slot)⟩
  | cons launched rest ih =>
    have hfirst := hstands 0 launched rfl
    have hnext := fun slot launched' (h : rest[slot]? = some launched') =>
      hstands (slot + 1) launched' h
    have hdistinct' : ∀ slot slot' number phase phase', own (slot + 1) = some (number, phase) →
        own (slot' + 1) = some (number, phase') → slot = slot' := fun slot slot' _ _ _ h h' =>
      Nat.succ_injective (hdistinct _ _ _ _ _ h h')
    have hspared' := fun launched' hmem => hspared launched' (List.mem_cons_of_mem _ hmem)
    unfold dropAll
    dsimp only
    cases hown : own 0 with
    | none =>
      rw [hown] at hfirst
      rw [drop_none hfirst]
      obtain ⟨hshrinks, hharmless, htaken⟩ :=
        ih (fun slot => own (slot + 1)) hanchored hnext hdistinct' hspared'
      refine ⟨hshrinks, hharmless, ?_⟩
      intro slot number phase hlt hslot hdirectory
      cases slot with
      | zero => exact absurd (hown.symm.trans hslot) nofun
      | succ slot => exact htaken slot number phase (Nat.lt_of_succ_lt_succ hlt) hslot hdirectory
    | some place =>
      obtain ⟨number, phase⟩ := place
      rw [hown] at hfirst
      obtain ⟨hframe, hempty, hleft⟩ :=
        drop_course hout hanchored hfirst (hspared launched List.mem_cons_self)
      -- the other tasks have other numbers
      have hothers : ∀ slot number' phase', own (slot + 1) = some (number', phase') →
          number' ≠ number := by
        rintro slot number' phase' hslot rfl
        exact absurd (hdistinct _ _ _ _ _ hslot hown) (Nat.succ_ne_zero slot)
      obtain ⟨hshrinks, hharmless, htaken⟩ :=
        ih (fun slot => own (slot + 1)) hframe.anchored
          (fun slot launched' h => (hnext slot launched' h).of_frame hout hframe (hothers slot))
          hdistinct' hspared'
      refine ⟨(Shrinks.of_frame hframe fun hnone => hempty (Or.inl hnone)).trans hshrinks, ?_, ?_⟩
      · intro r hr
        rcases List.mem_append.1 hr with hr | hr
        · exact (hleft r hr).of_shrinks hout hshrinks
        · exact hharmless r hr
      · intro slot number' phase' hlt hslot hdirectory
        cases slot with
        | zero =>
          obtain ⟨rfl, rfl⟩ := Prod.mk.inj (Option.some.inj (hown.symm.trans hslot))
          exact hshrinks.empty _ (isPlace_concat hout _) (hempty (Or.inr hdirectory))
        | succ slot =>
          exact htaken slot number' phase' (Nat.lt_of_succ_lt_succ hlt) hslot hdirectory

end Interleaving

end MapAudit
