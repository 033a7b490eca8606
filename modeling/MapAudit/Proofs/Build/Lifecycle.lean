import MapAudit.Build.Session
import MapAudit.Proofs.Build.Creation
import MapAudit.Proofs.World.Activity

/-! # Life cycle of scratch directories

    A session creates scratch directories, keeps some of them, and removes or drops them. What
    holds of it, whatever files there are in the beginning, and whatever becomes of them between
    its steps:

    * **Numbers**: every creation uses up the next number, also one that fails, so no two
      directories ever have the same path.
    * **Creation**: it ends with an empty directory at its path, or it fails. A leftover directory
      is no obstacle and a leftover file is one. All that is changed elsewhere is that directories
      above may be made.
    * **Removal**: a directory that is kept stays as it is. Of one that is not kept nothing is
      left, whether its removal reports an error or not, and elsewhere nothing is changed.

    A root that goes up again after a directory that is missing is an exception: a leftover is not
    seen there until that directory is made, and then it passes for the new directory.
-/

namespace MapAudit.Scratch

open Activity

variable {host : Host} {start w w' : World} {root p : Path} {scratch scratch' : Scratch}
  {steps earlier later : List Step} {step : Step} {session session' : Session}
  {first index index' : Nat}

/-! ### Operations -/

/-- The directory that a creation comes to, by its answer. -/
def created? (p : Path) : Except FileFault Unit → Except BuildError Scratch
  | .ok () => .ok { path := p, keep := false }
  | .error _ => .error (.io p)

/-- Creation of a scratch directory at a path. -/
def createIn (p : Path) : ExceptT BuildError Activity Scratch := do
  if ← hasNode p then
    orFail (.io p) (removeAll p)
  orFail (.io p) (createAll p)
  hold p
  return { path := p, keep := false }

theorem run_createIn (host : Host) (p : Path) (w : World) :
    (createIn p).run.run host w = (created? p (createAt host.base p w.tree).1,
      w.withTree (createAt host.base p w.tree).2) := by
  -- what is done when the way is cleared
  have hmake : ∀ w' : World, (do
      orFail (.io p) (createAll p)
      (hold p : ExceptT BuildError Activity Unit)
      return { path := p, keep := false } : ExceptT BuildError Activity Scratch).run.run host w' =
      (created? p (w'.tree.createAll host.base p).1,
        w'.withTree (w'.tree.createAll host.base p).2) := by
    intro w'
    rw [run_orFail_bind, run_createAll]
    cases (w'.tree.createAll host.base p).1 <;> rfl
  refine (run_bind_of_ok (run_lift (hasNode p) w)).trans ?_
  rw [run_hasNode]
  unfold createAt clearAt
  cases w.tree.hasNode host.base p with
  | false => exact hmake w
  | true =>
    refine (run_orFail_bind _ _ _ _).trans ?_
    rw [run_removeAll, if_pos rfl]
    cases w.tree.removeAll host.base p with
    | mk answer cleared =>
      cases answer with
      | ok u => exact hmake (w.withTree cleared)
      | error fault => rfl

/-- **Creation**: it takes a number, and makes a directory at the path with this number. -/
theorem run_create (host : Host) (root : Path) (w : World) :
    (create root).run.run host w =
      (created? (pathOf root w.nextNumber)
          (createAt host.base (pathOf root w.nextNumber) w.tree).1,
        { w with
          tree := (createAt host.base (pathOf root w.nextNumber) w.tree).2
          nextNumber := w.nextNumber + 1 }) :=
  (run_bind_of_ok (run_lift takeNumber w)).trans (run_createIn host _ _)

theorem run_setKeep (host : Host) (scratch : Scratch) (keep : Bool) (w : World) :
    (scratch.setKeep keep).run host w = ({ scratch with keep }, w) := by
  cases keep <;> rfl

theorem run_drop (host : Host) (scratch : Scratch) (w : World) :
    scratch.drop.run host w = ((), if scratch.keep then w else
      w.withTree (w.tree.removeAll host.base scratch.path).2) := by
  obtain ⟨path, keep⟩ := scratch
  cases keep <;> rfl

/-- A removal that fails is tried once more. -/
theorem run_remove (host : Host) (scratch : Scratch) (w : World) :
    scratch.remove.run.run host w = if scratch.keep then (.ok (), w) else
      match w.tree.removeAll host.base scratch.path with
      | (.ok (), cleared) => (.ok (), w.withTree cleared)
      | (.error _, left) => (.error (.io scratch.path),
          w.withTree (left.removeAll host.base scratch.path).2) := by
  obtain ⟨path, keep⟩ := scratch
  cases keep with
  | true => rfl
  | false =>
    refine (run_bind_of_ok (run_lift (removeAll path) w)).trans ?_
    rw [run_removeAll, if_neg Bool.false_ne_true]
    cases w.tree.removeAll host.base path with
    | mk answer left => cases answer <;> rfl

/-! ### Sessions -/

namespace Session

theorem inUse?_concat {x : Option Scratch} (h : (session ++ [x]).inUse? index = some scratch) :
    session.inUse? index = some scratch ∨ index = session.length ∧ x = some scratch := by
  unfold inUse? at *
  rcases Nat.lt_trichotomy index session.length with hlt | rfl | hgt
  · rw [List.getElem?_append_left hlt] at h
    exact Or.inl h
  · rw [List.getElem?_concat_length] at h
    exact Or.inr ⟨rfl, h⟩
  · rw [List.getElem?_eq_none (by simp; omega)] at h
    cases h

theorem inUse?_update {x : Option Scratch} (h : session.inUse? index = some scratch)
    (index' : Nat) : (session.update index x).inUse? index' =
      if index = index' then x else session.inUse? index' := by
  unfold inUse? update at *
  have hlt : index < session.length := by
    by_contra hge
    rw [List.getElem?_eq_none (by omega)] at h
    exact absurd h nofun
  rw [List.getElem?_set]
  by_cases heq : index = index'
  · rw [if_pos heq, if_pos heq, if_pos hlt]
    rfl
  · rw [if_neg heq, if_neg heq]

/-- A creation adds to a session what it comes to. -/
theorem run_perform_create (host : Host) (session : Session) (root : Path) (w : World) :
    (session.perform (.create root)).run host w =
      (match created? (pathOf root w.nextNumber)
          (createAt host.base (pathOf root w.nextNumber) w.tree).1 with
        | .ok scratch => (.created scratch.path, session ++ [some scratch])
        | .error e => (.failed e, session ++ [none]),
      { w with
        tree := (createAt host.base (pathOf root w.nextNumber) w.tree).2
        nextNumber := w.nextNumber + 1 }) := by
  unfold perform
  rw [run_bind, run_create]
  cases (createAt host.base (pathOf root w.nextNumber) w.tree).1 <;> rfl

theorem run_perform_remove (h : session.inUse? index = some scratch) :
    (session.perform (.remove index)).run host w =
      (match (scratch.remove.run.run host w).1 with
        | .ok () => (.removed, session.update index none)
        | .error e => (.failed e, session.update index none),
      (scratch.remove.run.run host w).2) := by
  simp only [perform, h]
  rw [run_bind]
  cases (scratch.remove.run.run host w).1 <;> rfl

theorem run_perform_drop (h : session.inUse? index = some scratch) :
    (session.perform (.drop index)).run host w =
      ((.dropped, session.update index none), (scratch.drop.run host w).2) := by
  simp only [perform, h]
  rw [run_bind]
  rfl

end Session

/-! ### Handles -/

/-- The roots under which steps create directories, in their order. -/
def rootsOf (steps : List Step) : List Path :=
  steps.filterMap fun
    | .create root => some root
    | _ => none

/-- What a step says about a directory: whether it stays. -/
def Step.said? (index : Nat) : Step → Option Bool
  | .keep index' said => if index' = index then some said else none
  | _ => none

/-- The directory that a step is about, if it does not create one. -/
def Step.index? : Step → Option Nat
  | .create _ => none
  | .keep index _ | .write index _ | .remove index | .drop index | .delete index => some index

theorem Step.index?_eq_none_iff : step.index? = none ↔ ∃ root, step = .create root := by
  cases step <;> simp [index?]

/-- Nothing is said about other directories. -/
theorem Step.said?_of_ne (h : step.index? ≠ some index) : step.said? index = none := by
  cases step with
  | keep index' keep => exact if_neg fun heq => h (congrArg some heq)
  | _ => rfl

theorem Step.said?_keep (index index' : Nat) (said : Bool) :
    (Step.keep index' said).said? index = if index' = index then some said else none :=
  rfl

/-- Whether a directory stays after some steps, if it does not stay at first: as was **said
    last**. -/
def stays (index : Nat) (later : List Step) : Bool :=
  later.foldl (fun keep step => (step.said? index).getD keep) false

theorem stays_concat (index : Nat) (later : List Step) (step : Step) :
    stays index (later ++ [step]) = (step.said? index).getD (stays index later) := by
  unfold stays
  rw [List.foldl_concat]

/-- Whether steps have created a directory and left it like this: its path has its number, and
    it stays if that was said last since it was created. -/
def IsHandle (first : Nat) (steps : List Step) (index : Nat) (scratch : Scratch) : Prop :=
  ∃ earlier root later, steps = earlier ++ .create root :: later ∧
    (rootsOf earlier).length = index ∧
    scratch = { path := pathOf root (first + index), keep := stays index later }

/-- One more step. -/
theorem IsHandle.concat (h : IsHandle first steps index scratch) (step : Step) :
    IsHandle first (steps ++ [step]) index
      { scratch with keep := (step.said? index).getD scratch.keep } := by
  obtain ⟨earlier, root, later, rfl, hindex, rfl⟩ := h
  refine ⟨earlier, root, later ++ [step], ?_, hindex, ?_⟩
  · rw [List.append_assoc, List.cons_append]
  · rw [stays_concat]

/-- Directories that were created one after another have different paths. -/
theorem IsHandle.index_eq {steps' : List Step} (h : IsHandle first steps index scratch)
    (h' : IsHandle first steps' index' scratch') (hpath : scratch.path = scratch'.path) :
    index = index' := by
  obtain ⟨_, root, _, -, -, hscratch⟩ := h
  obtain ⟨_, root', _, -, -, hscratch'⟩ := h'
  rw [hscratch, hscratch'] at hpath
  dsimp only at hpath
  rw [pathOf_eq, pathOf_eq, Path.mk.injEq] at hpath
  have hname := nameOf_injective (List.singleton_inj.1 (List.append_inj' hpath rfl).2)
  omega

/-- **Account** of a session: it has an entry for every creation, each has used up a number, and
    the directories that are in use have been created in it. -/
structure Accounted (first : Nat) (steps : List Step) (session : Session) (w : World) : Prop where
  /-- There is one entry for every creation. -/
  length_eq : session.length = (rootsOf steps).length
  /-- Every creation has used up a number. -/
  nextNumber_eq : w.nextNumber = first + (rootsOf steps).length
  /-- What is in use has been created. -/
  handle : ∀ index scratch, session.inUse? index = some scratch →
    IsHandle first steps index scratch

/-- **Creations** are accounted for. -/
theorem Accounted.create (h : Accounted first steps session w) (host : Host) (root : Path) :
    Accounted first (steps ++ [.create root])
      ((session.perform (.create root)).run host w).1.2
      ((session.perform (.create root)).run host w).2 := by
  have hroots : rootsOf (steps ++ [.create root]) = rootsOf steps ++ [root] := by
    simp [rootsOf]
  rw [Session.run_perform_create]
  have hnumber : w.nextNumber = first + session.length := by
    rw [h.nextNumber_eq, h.length_eq]
  refine ⟨?_, ?_, ?_⟩
  · rw [hroots]
    cases (createAt host.base (pathOf root w.nextNumber) w.tree).1 <;> simp [created?, h.length_eq]
  · rw [hroots, List.length_append, List.length_singleton, ← Nat.add_assoc, ← h.nextNumber_eq]
  · -- it was there before, or it is the new one
    intro index scratch hscratch
    have hadded : session.inUse? index = some scratch ∨ index = session.length ∧
        scratch = { path := pathOf root w.nextNumber, keep := false } := by
      cases hanswer : (createAt host.base (pathOf root w.nextNumber) w.tree).1 with
      | ok u =>
        rw [hanswer] at hscratch
        exact (Session.inUse?_concat hscratch).imp_right fun ⟨hindex, heq⟩ =>
          ⟨hindex, (Option.some.inj heq).symm⟩
      | error fault =>
        rw [hanswer] at hscratch
        exact (Session.inUse?_concat hscratch).imp_right fun ⟨_, heq⟩ => absurd heq nofun
    rcases hadded with hold | ⟨rfl, rfl⟩
    · exact (h.handle index scratch hold).concat (.create root)
    · exact ⟨steps, root, [], rfl, h.length_eq.symm, by rw [hnumber]; rfl⟩

/-- **Other steps**: no entry and no number more, and of what is in use some may not be any
    longer, or may stay as is said. -/
structure Tends (step : Step) (session session' : Session) (w w' : World) : Prop where
  length_eq : session'.length = session.length
  nextNumber_eq : w'.nextNumber = w.nextNumber
  handle : ∀ index scratch', session'.inUse? index = some scratch' →
    ∃ scratch, session.inUse? index = some scratch ∧
      scratch' = { scratch with keep := (step.said? index).getD scratch.keep }

/-- A step that says nothing keeps what is in use. -/
theorem tends_of_silent (hsaid : ∀ index scratch, session.inUse? index = some scratch →
      step.said? index = none) (hnumber : w'.nextNumber = w.nextNumber) :
    Tends step session session w w' := by
  refine ⟨rfl, hnumber, fun index scratch hscratch => ⟨scratch, hscratch, ?_⟩⟩
  rw [hsaid index scratch hscratch]
  rfl

/-- A step that ends with a directory keeps the others. -/
theorem tends_update_none (h : session.inUse? index = some scratch)
    (hsaid : ∀ index', step.said? index' = none) (hnumber : w'.nextNumber = w.nextNumber) :
    Tends step session (session.update index none) w w' := by
  refine ⟨List.length_set, hnumber, ?_⟩
  intro index' scratch' hscratch
  rw [Session.inUse?_update h] at hscratch
  split at hscratch
  · exact absurd hscratch nofun
  · refine ⟨scratch', hscratch, ?_⟩
    rw [hsaid index']
    rfl

/-- A handle that is told to keep takes it on, and all others stay as they are. -/
theorem tends_update_keep (h : session.inUse? index = some scratch) (keep : Bool) (w : World) :
    Tends (.keep index keep) session (session.update index (some { scratch with keep })) w w := by
  refine ⟨List.length_set, rfl, ?_⟩
  intro index' scratch' hscratch
  rw [Session.inUse?_update h] at hscratch
  rw [Step.said?_keep]
  split at hscratch
  · next heq =>
    subst heq
    rw [if_pos rfl]
    exact ⟨scratch, h, (Option.some.inj hscratch).symm⟩
  · next hne =>
    rw [if_neg hne]
    exact ⟨scratch', hscratch, rfl⟩

theorem nextNumber_run_remove (host : Host) (scratch : Scratch) (w : World) :
    (scratch.remove.run.run host w).2.nextNumber = w.nextNumber := by
  rw [run_remove]
  split
  · rfl
  · split <;> rfl

theorem nextNumber_run_writeFile (host : Host) (directory : Path) (f : FixtureFile) (w : World) :
    ((Artifacts.writeFile directory f).run.run host w).2.nextNumber = w.nextNumber := by
  -- the file itself, in any world: writing leaves the number of the world alone
  have hwrite : ∀ w : World, ((orFail (.io (directory.join (.ofString f.path)))
      (write (directory.join (.ofString f.path)) f.source.toUTF8) :
        ExceptT BuildError Activity Unit).run.run host w).2.nextNumber = w.nextNumber := by
    intro w
    rw [run_orFail]
    rfl
  unfold Artifacts.writeFile
  dsimp only
  split
  · exact hwrite w
  · next parent _ =>
    refine (congrArg (fun result : Except BuildError Unit × World => result.2.nextNumber)
      (run_orFail_bind (.io parent) (createAll parent) _ w)).trans ?_
    rw [run_createAll]
    cases (w.tree.createAll host.base parent).1 with
    | ok u => exact hwrite _
    | error fault => rfl

/-- A step on a directory that is not in use does nothing. -/
theorem Session.perform_of_none (hindex : step.index? = some index)
    (h : session.inUse? index = none) : session.perform step = pure (.nothing, session) := by
  cases step with
  | create root => exact absurd hindex nofun
  | _ =>
    obtain rfl := Option.some.inj hindex
    simp only [perform, h]

/-- Each step that creates nothing. -/
theorem tends_perform (host : Host) (session : Session) (w : World)
    (hindex : step.index? = some index) :
    Tends step session ((session.perform step).run host w).1.2 w
      ((session.perform step).run host w).2 := by
  cases h : session.inUse? index with
  | none =>
    -- the handle is gone, so the step says nothing and does nothing
    rw [Session.perform_of_none hindex h]
    refine tends_of_silent ?_ rfl
    intro index' scratch' hscratch
    refine Step.said?_of_ne fun hindex' => ?_
    rw [hindex, Option.some.injEq] at hindex'
    rw [← hindex', h] at hscratch
    cases hscratch
  | some scratch =>
    cases step with
    | create root => exact absurd hindex nofun
    | keep index' keep =>
      obtain rfl := Option.some.inj hindex
      simp only [Session.perform, h]
      rw [run_bind, run_setKeep]
      exact tends_update_keep h keep w
    | write index' f =>
      obtain rfl := Option.some.inj hindex
      simp only [Session.perform, h]
      rw [run_bind]
      exact tends_of_silent (fun _ _ _ => rfl) (nextNumber_run_writeFile host _ _ w)
    | remove index' =>
      obtain rfl := Option.some.inj hindex
      have hnumber := nextNumber_run_remove host scratch w
      rw [Session.run_perform_remove h]
      cases (scratch.remove.run.run host w).1 with
      | ok u => exact tends_update_none h (fun _ => rfl) hnumber
      | error e => exact tends_update_none h (fun _ => rfl) hnumber
    | drop index' =>
      obtain rfl := Option.some.inj hindex
      rw [Session.run_perform_drop h]
      apply tends_update_none h (fun _ => rfl)
      rw [run_drop]
      dsimp only
      split <;> rfl
    | delete index' =>
      obtain rfl := Option.some.inj hindex
      simp only [Session.perform, h]
      exact tends_of_silent (fun _ _ _ => rfl) rfl

/-- **Steps** are accounted for. -/
theorem Accounted.perform (h : Accounted first steps session w) (host : Host) (step : Step) :
    Accounted first (steps ++ [step]) ((session.perform step).run host w).1.2
      ((session.perform step).run host w).2 := by
  cases hindex : step.index? with
  | none =>
    obtain ⟨root, rfl⟩ := Step.index?_eq_none_iff.1 hindex
    exact h.create host root
  | some index =>
    have htends := tends_perform host session w hindex
    have hroots : rootsOf (steps ++ [step]) = rootsOf steps := by
      cases step with
      | create root => exact absurd hindex nofun
      | _ => simp [rootsOf]
    refine ⟨?_, ?_, ?_⟩
    · rw [hroots, htends.length_eq, h.length_eq]
    · rw [hroots, htends.nextNumber_eq, h.nextNumber_eq]
    · intro index scratch' hscratch
      obtain ⟨scratch, hbefore, rfl⟩ := htends.handle index scratch' hscratch
      exact (h.handle index scratch hbefore).concat step

/-- **Reached** by a session: it performs steps one after another, and between them the files
    may change in any way. -/
inductive Session.Reached (host : Host) (start : World) : List Step → Session → World → Prop where
  /-- Nothing has been done. -/
  | start : Reached host start [] [] start
  /-- The session performs a step. -/
  | step {steps : List Step} {session : Session} {w : World}
      (h : Reached host start steps session w) (step : Step) :
      Reached host start (steps ++ [step]) ((session.perform step).run host w).1.2
        ((session.perform step).run host w).2
  /-- The files change meanwhile. -/
  | meanwhile {steps : List Step} {session : Session} {w : World}
      (h : Reached host start steps session w) (tree : FileTree) :
      Reached host start steps session (w.withTree tree)

open Session (Reached)

/-- **Every session** is accounted for. -/
theorem Session.Reached.accounted (h : Reached host start steps session w) :
    Accounted start.nextNumber steps session w := by
  induction h with
  | start => exact ⟨rfl, rfl, fun index scratch hscratch => absurd hscratch nofun⟩
  | step _ step ih => exact ih.perform host step
  | meanwhile _ tree ih => exact ⟨ih.length_eq, ih.nextNumber_eq, ih.handle⟩

/-! ### Laws of creation and removal -/

/-- **Creation**: what the next creation under a root comes to. -/
structure CreationLaw (host : Host) (root : Path) (session : Session) (w : World)
    (outcome : Outcome) (session' : Session) (w' : World) : Prop where
  /-- The number is used up. -/
  number : w'.nextNumber = w.nextNumber + 1
  /-- There is a directory that does not stay, or an error; both name the same path. -/
  either : outcome = .created (pathOf root w.nextNumber) ∧
        session' = session ++ [some { path := pathOf root w.nextNumber, keep := false }] ∨
      outcome = .failed (.io (pathOf root w.nextNumber)) ∧ session' = session ++ [none]
  /-- What is created is there, and it is empty, unless the root goes up again after something
      that was missing. -/
  created : outcome = .created (pathOf root w.nextNumber) →
    w'.tree.hasDirectory host.base (pathOf root w.nextNumber) = true ∧
      (NamesEmpty host.base (pathOf root w.nextNumber) w'.tree ∨ ".." ∈ root.segments ∧
        (clearAt host.base (pathOf root w.nextNumber) w.tree).2.locateName host.base
          (pathOf root w.nextNumber) = .error .notFound)
  /-- A plain file at the path makes the creation fail, and nothing changes. -/
  file : ∀ f, w.tree.findName host.base (pathOf root w.nextNumber) = .ok (.file f) →
    outcome = .failed (.io (pathOf root w.nextNumber)) ∧ w'.tree = w.tree
  /-- Elsewhere nothing changes but that directories above may be made. -/
  elsewhere : ∀ there, IsElsewhere w.tree host.base (pathOf root w.nextNumber) there →
    w'.tree.surface? there = w.tree.surface? there ∨
      w.tree.surface? there = none ∧ w'.tree.surface? there = some .empty ∧
        ∃ q ∈ (pathOf root w.nextNumber).ancestors,
          w'.tree.locateName host.base q.withoutLastSlashes = .ok there

theorem creationLaw_perform (host : Host) (root : Path) (session : Session) (w : World) :
    CreationLaw host root session w ((session.perform (.create root)).run host w).1.1
      ((session.perform (.create root)).run host w).1.2
      ((session.perform (.create root)).run host w).2 := by
  rw [Session.run_perform_create]
  cases hanswer : createAt host.base (pathOf root w.nextNumber) w.tree with
  | mk answer made =>
    have helsewhere : ∀ there, IsElsewhere w.tree host.base (pathOf root w.nextNumber) there → _ :=
      fun there hthere => surface?_createAt hthere
    rw [hanswer] at helsewhere
    cases answer with
    | ok u =>
      refine ⟨rfl, Or.inl ⟨rfl, rfl⟩, fun _ => created_of_createAt hanswer, ?_,
        helsewhere⟩
      -- a file at the name would have been refused
      intro f hfile
      rw [createAt_of_file hfile] at hanswer
      cases hanswer
    | error fault =>
      refine ⟨rfl, Or.inr ⟨rfl, rfl⟩, fun hcreated => absurd hcreated nofun, ?_,
        helsewhere⟩
      intro f hfile
      rw [createAt_of_file hfile] at hanswer
      exact ⟨rfl, (Prod.mk.inj hanswer).2.symm⟩

/-- **Removal**: what becomes of a directory that is removed or dropped. That a directory can be
    removed if it is there is assumed. -/
structure RemovalLaw (host : Host) (scratch : Scratch) (w w' : World) : Prop where
  /-- Nothing changes if it stays. -/
  kept : scratch.keep = true → w' = w
  /-- If it does not stay no directory is left. -/
  gone : IsClearable host.base scratch.path w.tree → scratch.keep = false →
    w'.tree.hasDirectory host.base scratch.path = false
  /-- Elsewhere nothing changes. -/
  elsewhere : IsClearable host.base scratch.path w.tree →
    ∀ there, IsElsewhere w.tree host.base scratch.path there →
      w'.tree.surface? there = w.tree.surface? there

theorem removalLaw_of_removeAll (hkept : scratch.keep = true → w' = w)
    (hremoved : IsClearable host.base scratch.path w.tree → scratch.keep = false →
      w'.tree = (w.tree.removeAll host.base scratch.path).2) : RemovalLaw host scratch w w' := by
  refine ⟨hkept, ?_, ?_⟩
  · intro hclearable hkeep
    rw [hremoved hclearable hkeep]
    exact hclearable.hasDirectory_eq_false
  · intro hclearable there hthere
    cases hkeep : scratch.keep with
    | true => rw [hkept hkeep]
    | false =>
      rw [hremoved hclearable hkeep]
      exact surface?_removeAll hthere

theorem removalLaw_drop (h : session.inUse? index = some scratch) :
    RemovalLaw host scratch w ((session.perform (.drop index)).run host w).2 := by
  rw [Session.run_perform_drop h, run_drop]
  apply removalLaw_of_removeAll (fun hkeep => if_pos hkeep)
  intro _ hkeep
  rw [hkeep, if_neg Bool.false_ne_true]
  rfl

theorem removalLaw_remove (h : session.inUse? index = some scratch) :
    RemovalLaw host scratch w ((session.perform (.remove index)).run host w).2 := by
  rw [Session.run_perform_remove h, run_remove]
  apply removalLaw_of_removeAll (fun hkeep => by rw [if_pos hkeep])
  intro hclearable hkeep
  rw [hkeep, if_neg Bool.false_ne_true]
  cases hremove : w.tree.removeAll host.base scratch.path with
  | mk answer left =>
    cases answer with
    | ok u => rfl
    | error fault =>
      -- what could not be removed cannot be removed the second time, either
      obtain ⟨rfl, -⟩ := hclearable.of_error hremove
      show (w.tree.removeAll host.base scratch.path).2 = w.tree
      rw [hremove]

/-! ### The life cycle -/

/-- **Life cycle** of the scratch directories of a session. -/
structure LifeCycle (host : Host) (start : World) (steps : List Step) (session : Session)
    (w : World) : Prop where
  /-- The next creation has the number of all creations before, and what is in use stays if that
      was said last. -/
  accounted : Accounted start.nextNumber steps session w
  /-- No two directories ever have the same path. -/
  apart : ∀ steps' session' w', Reached host start steps' session' w' →
    ∀ index scratch index' scratch', session.inUse? index = some scratch →
      session'.inUse? index' = some scratch' → scratch.path = scratch'.path → index = index'
  /-- What comes of a creation. -/
  creation : ∀ root, CreationLaw host root session w
    ((session.perform (.create root)).run host w).1.1
    ((session.perform (.create root)).run host w).1.2
    ((session.perform (.create root)).run host w).2
  /-- What comes of a removal. -/
  removal : ∀ index scratch, session.inUse? index = some scratch →
    RemovalLaw host scratch w ((session.perform (.remove index)).run host w).2
  /-- What comes of a drop. -/
  dropping : ∀ index scratch, session.inUse? index = some scratch →
    RemovalLaw host scratch w ((session.perform (.drop index)).run host w).2

/-- **Scratch directories** live like this in every session, whatever files there are. -/
theorem lifeCycle_of_reached (h : Reached host start steps session w) :
    LifeCycle host start steps session w where
  accounted := h.accounted
  apart := by
    intro steps' session' w' h' index scratch index' scratch' hscratch hscratch' hpath
    exact (h.accounted.handle index scratch hscratch).index_eq
      (h'.accounted.handle index' scratch' hscratch') hpath
  creation root := creationLaw_perform host root session w
  removal _ _ hscratch := removalLaw_remove hscratch
  dropping _ _ hscratch := removalLaw_drop hscratch

/-- A host on which no program can be started. -/
def bareHost : Host where
  base := []
  launch _ _ _ _ := none

/-- A world with a scratch directory that an earlier session has left, and a file in it. -/
def withLeftover : World where
  tree := .directory (.usual 0o755) [("b", .directory (.usual 0o755)
    [(nameOf 0, .directory (.usual 0o755) [("x", .ofBytes .empty false)])])]
  nextNumber := 0
  reported := []

/-- The leftover is cleared away, and one directory is made in the other. -/
theorem lifeCycle_of_reached_nested :
    ∃ session w, Reached bareHost withLeftover
        [.create ⟨["b"]⟩, .create ⟨["b", nameOf 0]⟩, .keep 1 true] session w ∧
      session = [some ⟨⟨["b", nameOf 0]⟩, false⟩, some ⟨⟨["b", nameOf 0, nameOf 1]⟩, true⟩] ∧
      w.tree.list = ["b/", "b/.verify-source-map0/", "b/.verify-source-map0/.verify-source-map1/"] ∧
      LifeCycle bareHost withLeftover
        [.create ⟨["b"]⟩, .create ⟨["b", nameOf 0]⟩, .keep 1 true] session w := by
  have hreached : Reached bareHost withLeftover
      [.create ⟨["b"]⟩, .create ⟨["b", nameOf 0]⟩, .keep 1 true] _ _ :=
    ((Reached.start.step _).step _).step _
  exact ⟨_, _, hreached, by decide +kernel, by decide +kernel, lifeCycle_of_reached hreached⟩

/-- **A leftover passes for a new directory** if the root goes up again after a directory that is
    missing: the creation succeeds, and its directory is not empty. -/
theorem leftover_passes_for_created :
    ¬ ∀ host start steps session w root, Reached host start steps session w →
      ((session.perform (.create root)).run host w).1.1 = .created (pathOf root w.nextNumber) →
        NamesEmpty host.base (pathOf root w.nextNumber)
          ((session.perform (.create root)).run host w).2.tree := by
  intro hall
  have hcreated : ((Session.perform [] (.create ⟨["a", "..", "b"]⟩)).run bareHost
      withLeftover).1.1 = .created (pathOf ⟨["a", "..", "b"]⟩ 0) := by
    decide +kernel
  obtain ⟨location, hlocate, hempty⟩ := hall bareHost withLeftover [] [] withLeftover
    ⟨["a", "..", "b"]⟩ .start hcreated
  -- it is created in `b`, where the leftover is
  have hplace : (((Session.perform [] (.create ⟨["a", "..", "b"]⟩)).run bareHost
      withLeftover).2.tree.locateName bareHost.base
        (pathOf ⟨["a", "..", "b"]⟩ withLeftover.nextNumber)).toOption = some ["b", nameOf 0] := by
    decide +kernel
  have hfull : (((Session.perform [] (.create ⟨["a", "..", "b"]⟩)).run bareHost
      withLeftover).2.tree.get? ["b", nameOf 0]).map FileTree.list = some ["x"] := by
    decide +kernel
  rw [hlocate] at hplace
  obtain rfl := Option.some.inj hplace
  rw [hempty] at hfull
  exact absurd hfull (by decide +kernel)

end MapAudit.Scratch
