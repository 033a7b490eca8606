import MapAudit.Proofs.Build.Roots
import MapAudit.Proofs.Run.Dropping
import MapAudit.Proofs.Run.Order

/-! # No scratch directory outlives a failed run

    The run keeps, for every task, its number and its phase. They say where each task
    stands, that no two of them have the same place, and that a place that was empty at
    some time of the run is either empty again or in the hands of a task. When the run
    fails no task is left, so the place is empty.

    That takes a tool that is tame, and that no task is dropped while it makes a directory.
-/

namespace MapAudit

open Scratch

variable {host : Host} {tool root : Path} {home : Location} {number : Nat} {phase : Phase}

namespace Interleaving

/-! ### Runs -/

variable {s s' : Interleaving} {turn : Turn} {turns : List Turn}
  {own : Nat → Option (Nat × Phase)}

/-- **Running**: every task stands somewhere, and no two have the same number. -/
structure Running (host : Host) (tool root : Path) (home : Location)
    (own : Nat → Option (Nat × Phase)) (s : Interleaving) : Prop where
  /-- Nothing has failed. -/
  error : s.error = none
  /-- So no task has been dropped. -/
  orphans : s.orphans = []
  /-- The scratch root is anchored. -/
  anchored : Anchored host.base root home s.world.tree
  /-- Every task stands where its number and its phase say. -/
  stands : ∀ slot launched, s.tasks[slot]? = some launched →
    Stands host tool root home s.world.tree (own slot) launched
  /-- Only tasks have numbers. -/
  inside : ∀ slot, own slot ≠ none → slot < s.tasks.length
  /-- Their numbers are used up. -/
  used : ∀ slot number phase, own slot = some (number, phase) → number < s.world.nextNumber
  /-- No two tasks have the same. -/
  distinct : ∀ slot slot' number phase phase', own slot = some (number, phase) →
    own slot' = some (number, phase') → slot = slot'
  /-- The places of numbers that are not used yet are free of links. -/
  unlinked : ∀ number, s.world.nextNumber ≤ number → ∀ target,
    s.world.tree.get? (placeOf home number) ≠ some (.link target)

/-- **Sound** state of a run, with the number and the phase of the task in each slot. -/
inductive Sound (host : Host) (tool root : Path) (home : Location)
    (own : Nat → Option (Nat × Phase)) (s : Interleaving) : Prop where
  /-- The run goes on. -/
  | running (h : Running host tool root home own s)
  /-- The run has failed: no task is left, and what is left of them is harmless. -/
  | failed (tasks : ∀ launched ∈ s.tasks, launched = .taken) (none : ∀ slot, own slot = none)
      (anchored : Anchored host.base root home s.world.tree)
      (harmless : ∀ r ∈ s.orphans, Harmless host.base root home s.world.tree r)

/-- Whether a place is empty or in the hands of a task. -/
def Tended (home : Location) (own : Nat → Option (Nat × Phase)) (s : Interleaving)
    (place : Location) : Prop :=
  s.world.tree.get? place = none ∨
    ∃ slot number phase, own slot = some (number, phase) ∧ phase.hasDirectory = true ∧
      place = placeOf home number

/-- What a turn of a sound run has to lead to. -/
def Continues (host : Host) (tool root : Path) (home : Location)
    (own : Nat → Option (Nat × Phase)) (s s' : Interleaving) : Prop :=
  ∃ own', Sound host tool root home own' s' ∧
    ∀ place, IsPlace place → Tended home own s place → Tended home own' s' place

/-- The number and the phase in a slot, when those in one slot change. -/
theorem update_eq_some {slot slot' number' : Nat} {phase' : Phase} {new : Option (Nat × Phase)}
    (h : Function.update own slot new slot' = some (number', phase')) :
    slot' = slot ∧ new = some (number', phase') ∨
      slot' ≠ slot ∧ own slot' = some (number', phase') := by
  by_cases heq : slot' = slot
  · subst heq
    rw [Function.update_self] at h
    exact Or.inl ⟨rfl, h⟩
  · rw [Function.update_of_ne heq] at h
    exact Or.inr ⟨heq, h⟩

section Move

variable {slot : Nat} {new : Option (Nat × Phase)} {launched' : Launched} {w w' : World}

/-- **A task moves**: it has a number that no other task has, and makes progress. -/
structure Moves (host : Host) (tool root : Path) (home : Location)
    (own : Nat → Option (Nat × Phase)) (s : Interleaving) (slot number : Nat) (phase : Phase)
    (new : Option (Nat × Phase)) (launched' : Launched) (w w' : World) : Prop where
  /-- The task is there. -/
  inside : slot < s.tasks.length
  /-- It may have to take its number first, which changes no file. -/
  tree : w.tree = s.world.tree
  /-- The next number may be used up by that. -/
  nextNumber : s.world.nextNumber ≤ w.nextNumber
  /-- Its number is used up. -/
  used : number < w.nextNumber
  /-- No other task has it. -/
  alone : ∀ slot' phase', own slot' = some (number, phase') → slot' = slot
  /-- If the task had a number before, it is the same, and the phase is known. -/
  same : ∀ number' phase', own slot = some (number', phase') → number' = number ∧ phase' = phase
  /-- The progress that it makes. -/
  progress : Progresses host tool root home number phase new launched' w w'

variable (hout : Outside home) (h : Running host tool root home own s)
  (hmoves : Moves host tool root home own s slot number phase new launched' w w')
include hout h hmoves

omit hout h in
theorem Moves.frame : Frame host.base root home number s.world.tree w'.tree :=
  hmoves.tree ▸ hmoves.progress.frame

omit hout h in
theorem Moves.number_ne {slot' number' : Nat} {phase' : Phase} (hne : slot' ≠ slot)
    (hown : own slot' = some (number', phase')) : number' ≠ number := by
  rintro rfl
  exact hne (hmoves.alone _ _ hown)

/-- The run goes on when a task moves. -/
theorem Running.moved : Running host tool root home (Function.update own slot new)
    { s with world := w', tasks := s.tasks.set slot launched' } where
  error := h.error
  orphans := h.orphans
  anchored := hmoves.frame.anchored
  stands := by
    intro slot' launched hlaunched
    rcases getElem?_set_cases hlaunched with ⟨rfl, rfl⟩ | ⟨hslot', hlaunched⟩
    · rw [Function.update_self]
      exact hmoves.progress.stands
    · rw [Function.update_of_ne hslot']
      exact (h.stands _ _ hlaunched).of_frame hout hmoves.frame fun number' phase' =>
        hmoves.number_ne hslot'
  inside := by
    intro slot' hsome
    rw [List.length_set]
    by_cases heq : slot' = slot
    · exact heq ▸ hmoves.inside
    · rw [Function.update_of_ne heq] at hsome
      exact h.inside _ hsome
  used := by
    intro slot' number' phase' hown
    show number' < w'.nextNumber
    rw [hmoves.progress.nextNumber]
    rcases update_eq_some hown with ⟨-, hown⟩ | ⟨-, hown⟩
    · exact hmoves.progress.same _ _ hown ▸ hmoves.used
    · exact (h.used _ _ _ hown).trans_le hmoves.nextNumber
  distinct := by
    intro slot' slot'' number' phase' phase'' hown hown'
    -- two slots with one number: neither can be the one that moves
    rcases update_eq_some hown with ⟨rfl, hmine⟩ | ⟨hslot', hother⟩
    · rcases update_eq_some hown' with ⟨rfl, -⟩ | ⟨hslot'', hother⟩
      · rfl
      · exact absurd (hmoves.progress.same _ _ hmine) (hmoves.number_ne hslot'' hother)
    · rcases update_eq_some hown' with ⟨rfl, hmine⟩ | ⟨-, hother'⟩
      · exact absurd (hmoves.progress.same _ _ hmine) (hmoves.number_ne hslot' hother)
      · exact h.distinct _ _ _ _ _ hother hother'
  unlinked := by
    intro number' hle target
    have hle' : w.nextNumber ≤ number' := hmoves.progress.nextNumber ▸ hle
    -- a number not used yet is not that of the task, so its place is as it was
    have hunused : number ≠ number' := (hmoves.used.trans_le hle').ne
    have hplace : w'.tree.get? (placeOf home number') = s.world.tree.get? (placeOf home number') :=
      hmoves.frame.others _ (isPlace_concat hout number') (placeOf_ne home hunused.symm)
    show w'.tree.get? (placeOf home number') ≠ _
    rw [hplace]
    exact h.unlinked _ (hmoves.nextNumber.trans hle') target

omit hout h in
/-- A place in the hands of a task stays so when a task moves, or is empty again. -/
theorem Moves.tended {place : Location} (hplace : IsPlace place)
    (htended : Tended home own s place) :
    Tended home (Function.update own slot new)
      { s with world := w', tasks := s.tasks.set slot launched' } place := by
  by_cases heq : place = placeOf home number
  · -- the place of the task itself
    subst heq
    have hbefore : s.world.tree.get? (placeOf home number) = none ∨
        phase.hasDirectory = true := by
      rcases htended with hempty | ⟨slot', number', phase', hown, hdirectory, hplace'⟩
      · exact Or.inl hempty
      · obtain rfl : number = number' :=
          nameOf_injective (List.singleton_inj.1 (List.append_cancel_left hplace'))
        obtain rfl := hmoves.alone _ _ hown
        exact Or.inr ((hmoves.same _ _ hown).2 ▸ hdirectory)
    rw [← hmoves.tree] at hbefore
    rcases hmoves.progress.tracked hbefore with hempty | ⟨phase', hnew, hdirectory⟩
    · exact Or.inl hempty
    · refine Or.inr ⟨slot, number, phase', ?_, hdirectory, rfl⟩
      rw [Function.update_self]
      exact hnew
  · rcases htended with hempty | ⟨slot', number', phase', hown, hdirectory, rfl⟩
    · exact Or.inl ((hmoves.frame.others _ hplace heq).trans hempty)
    · refine Or.inr ⟨slot', number', phase', ?_, hdirectory, rfl⟩
      rw [Function.update_of_ne]
      · exact hown
      · rintro rfl
        exact heq (congrArg (placeOf home) (hmoves.same _ _ hown).1)

theorem Running.continues : Continues host tool root home own s
    { s with world := w', tasks := s.tasks.set slot launched' } :=
  ⟨_, .running (h.moved hout hmoves), fun _ => hmoves.tended⟩

end Move

/-- A task without a number that has come to an end leaves everything as it is. -/
theorem Running.rest {slot : Nat} {launched' : Launched} (h : Running host tool root home own s)
    (hslot : slot < s.tasks.length) (hown : own slot = none)
    (hstands : Stands host tool root home s.world.tree none launched')
    (reports : List (Nat × Report)) :
    Running host tool root home own
      { s with tasks := s.tasks.set slot launched', reports := reports } where
  error := h.error
  orphans := h.orphans
  anchored := h.anchored
  stands := by
    intro slot' launched hlaunched
    rcases getElem?_set_cases hlaunched with ⟨rfl, rfl⟩ | ⟨-, hlaunched⟩
    · rw [hown]
      exact hstands
    · exact h.stands _ _ hlaunched
  inside slot' hsome := by
    show slot' < (s.tasks.set slot launched').length
    rw [List.length_set]
    exact h.inside _ hsome
  used := h.used
  distinct := h.distinct
  unlinked := h.unlinked

theorem Running.continues_rest {slot : Nat} {launched' : Launched}
    (h : Running host tool root home own s) (hslot : slot < s.tasks.length)
    (hown : own slot = none) (hstands : Stands host tool root home s.world.tree none launched')
    (reports : List (Nat × Report)) :
    Continues host tool root home own s
      { s with tasks := s.tasks.set slot launched', reports := reports } :=
  ⟨own, .running (h.rest hslot hown hstands reports), fun _ _ htended => htended⟩

/-- A task that has its number moves when it makes progress. -/
theorem Running.moves {slot : Nat} {new : Option (Nat × Phase)} {launched' : Launched}
    {w' : World} (h : Running host tool root home own s) (hslot : slot < s.tasks.length)
    (hown : own slot = some (number, phase))
    (hprogress : Progresses host tool root home number phase new launched' s.world w') :
    Moves host tool root home own s slot number phase new launched' s.world w' where
  inside := hslot
  tree := rfl
  nextNumber := le_rfl
  used := h.used _ _ _ hown
  alone slot' phase' hslot' := h.distinct _ _ _ _ _ hslot' hown
  same number' phase' hslot' := by
    obtain ⟨rfl, rfl⟩ := Prod.mk.inj (Option.some.inj (hown.symm.trans hslot'))
    exact ⟨rfl, rfl⟩
  progress := hprogress

/-- **Work** of a task is a sound turn. -/
theorem Running.continues_work {slot : Nat} {a : Activity (Except RunError Report)}
    {held : List Path} (hout : Outside home) (htame : host.Tame tool root home)
    (h : Running host tool root home own s)
    (hready : s.tasks[slot]? = some { progress := .ready a, held }) :
    Continues host tool root home own s
      { s with
        world := (Launched.work host a held s.world).2
        tasks := s.tasks.set slot (Launched.work host a held s.world).1 } := by
  obtain ⟨hslot, -⟩ := List.getElem?_eq_some_iff.1 hready
  have hstands := h.stands _ _ hready
  generalize hown : own slot = mine at hstands
  cases hstands with
  | unbegun hcourse =>
    -- the number that it takes is unused so far
    obtain ⟨new, hprogress⟩ := exists_progress_work
      (w := (s.world.perform host .takeNumber).2) hout htame h.anchored
      (hcourse s.world.nextNumber) (h.unlinked _ le_rfl)
    exact h.continues (w := (s.world.perform host .takeNumber).2) hout
      { inside := hslot
        tree := rfl
        nextNumber := Nat.le_succ _
        used := Nat.lt_succ_self s.world.nextNumber
        alone := fun slot' phase' hslot' => absurd (h.used _ _ _ hslot') (Nat.lt_irrefl _)
        same := fun number' phase' hslot' => absurd (hown.symm.trans hslot') nofun
        progress := hprogress }
  | idle => exact h.continues_rest hslot hown .ended s.reports
  | ready course fits =>
    obtain ⟨new, hprogress⟩ := exists_progress_work hout htame h.anchored course fits
    exact h.continues hout (h.moves hslot hown hprogress)

/-- **An answer** to a task is a sound turn. -/
theorem Running.continues_answer {slot : Nat} {r : Request}
    {next : r.Answer → Activity (Except RunError Report)} {held : List Path}
    (hout : Outside home) (htame : host.Tame tool root home)
    (h : Running host tool root home own s)
    (hwaiting : s.tasks[slot]? = some { progress := .waiting r next, held }) :
    Continues host tool root home own s
      { s with
        world := (s.world.perform host r).2
        tasks := s.tasks.set slot
          { progress := .ready (next (s.world.perform host r).1), held } } := by
  obtain ⟨hslot, -⟩ := List.getElem?_eq_some_iff.1 hwaiting
  have hstands := h.stands _ _ hwaiting
  generalize hown : own slot = mine at hstands
  cases hstands with
  | waiting suspends course fits =>
    obtain ⟨new, hprogress⟩ := exists_progress_answer hout htame h.anchored suspends course fits
    exact h.continues hout (h.moves hslot hown hprogress)

/-- A task that has ended has no number any more. -/
theorem Running.own_of_ended {slot : Nat} {result : Except RunError Report} {held : List Path}
    (h : Running host tool root home own s)
    (hended : s.tasks[slot]? = some { progress := .ended result, held }) : own slot = none := by
  have hstands := h.stands _ _ hended
  generalize own slot = mine at hstands
  cases hstands
  rfl

/-- **A failure** is a sound turn if no task is making a directory: all of them are dropped, and
    the directories that they have are removed. -/
theorem Running.continues_failure {slot : Nat} {e : RunError} {held : List Path}
    (hout : Outside home) (h : Running host tool root home own s)
    (hended : s.tasks[slot]? = some { progress := .ended (.error e), held })
    (hspared : ∀ launched ∈ s.tasks, launched.isMaking = false) :
    Continues host tool root home own s
      ({ s with tasks := s.tasks.set slot .taken }.fail host e) := by
  obtain ⟨hslot, -⟩ := List.getElem?_eq_some_iff.1 hended
  have hrest := h.rest hslot (h.own_of_ended hended) .gone s.reports
  have hspared' : ∀ launched ∈ s.tasks.set slot .taken, launched.isMaking = false := by
    intro launched hmem
    rcases List.mem_or_eq_of_mem_set hmem with hmem | rfl
    · exact hspared _ hmem
    · rfl
  obtain ⟨hshrinks, hharmless, htaken⟩ :=
    dropAll_stands hout _ own h.anchored hrest.stands hrest.distinct hspared'
  refine ⟨fun _ => none, .failed ?_ (fun _ => rfl) hshrinks.anchored ?_, ?_⟩
  · intro launched hmem
    obtain ⟨slot', hslot'⟩ := List.mem_iff_getElem?.1 hmem
    exact getElem?_fail hslot'
  · intro r hr
    have hleft : r ∈ (dropAll host (s.tasks.set slot .taken) s.world).1 := by
      have horphans : r ∈ s.orphans ++ (dropAll host (s.tasks.set slot .taken) s.world).1 := hr
      rwa [h.orphans, List.nil_append] at horphans
    exact hharmless r hleft
  · -- a directory was in the hands of some task, and all tasks are dropped
    rintro place hplace (hempty | ⟨slot', number, phase, hslot', hdirectory, rfl⟩)
    · exact Or.inl (hshrinks.empty place hplace hempty)
    · refine Or.inl (htaken slot' number phase (hrest.inside _ ?_) hslot' hdirectory)
      rw [hslot']
      exact nofun

/-! ### Schedules -/

/-- Whether the run fails in a turn, so that all tasks are dropped. -/
def failsAt (s : Interleaving) : Turn → Bool
  | .take slot =>
    match s.tasks[slot]? with
    | some { progress := .ended (.error _), held := _ } => true
    | _ => false
  | _ => false

/-- **One turn** of a sound run in which no task is dropped that is making a directory. -/
theorem Sound.continues (hout : Outside home) (htame : host.Tame tool root home)
    (h : Sound host tool root home own s) (hstep : Steps host s turn s')
    (hspared : s.failsAt turn = true → ∀ launched ∈ s.tasks, launched.isMaking = false) :
    Continues host tool root home own s s' := by
  cases h with
  | failed tasks hnone anchored harmless =>
    -- after the failure no task moves, and what is left only takes directories away
    have hgone : ∀ (slot : Nat) (launched : Launched), s.tasks[slot]? = some launched →
        launched.progress = .gone := by
      intro slot launched hslot
      rw [tasks launched (List.mem_of_getElem? hslot)]
      rfl
    cases hstep with
    | work hready => exact absurd (hgone _ _ hready) nofun
    | answer hwaiting => exact absurd (hgone _ _ hwaiting) nofun
    | report hended => exact absurd (hgone _ _ hended) nofun
    | failure hended => exact absurd (hgone _ _ hended) nofun
    | settle hleft =>
      have hshrinks := (harmless _ (List.mem_of_getElem? hleft)).shrinks hout anchored
      refine ⟨own, .failed tasks hnone hshrinks.anchored fun r hr =>
        (harmless r (List.mem_of_mem_eraseIdx hr)).of_shrinks hout hshrinks, ?_⟩
      rintro place hplace (hempty | ⟨slot, number, phase, hslot, -⟩)
      · exact Or.inl (hshrinks.empty place hplace hempty)
      · exact absurd (hnone slot ▸ hslot) nofun
  | running h =>
    cases hstep with
    | work hready => exact h.continues_work hout htame hready
    | answer hwaiting => exact h.continues_answer hout htame hwaiting
    | report hended =>
      obtain ⟨hslot, -⟩ := List.getElem?_eq_some_iff.1 hended
      exact h.continues_rest hslot (h.own_of_ended hended) .gone _
    | failure hended =>
      exact h.continues_failure hout hended (hspared (by simp only [failsAt, hended]))
    | settle hleft =>
      rw [h.orphans] at hleft
      exact absurd hleft nofun

end Interleaving

/-! ### Failing runs -/

/-- A host on which every program fails and leaves the files as they are. -/
def Host.failing : Host where
  base := []
  launch _ _ _ tree := some (⟨some 1, .empty⟩, tree)

namespace Interleaving

/-- A task that goes on through some requests. -/
def goesOn (slot n : Nat) : List Turn :=
  (List.replicate n [Turn.work slot, .answer slot]).flatten

end Interleaving

end MapAudit
