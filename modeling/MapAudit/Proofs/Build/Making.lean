import MapAudit.Proofs.Build.Frames
import MapAudit.Proofs.Files.Parts

/-! # Making scratch directories

    A scratch directory is made together with the directories above it that are missing. Those
    lie outside of all scratch directories, so all that happens to the places is that one of
    them is taken: by a fresh directory, in a root that is ready.

    That takes a clear place. What is there already, or is a symbolic link, may pass for the
    directory without being one.
-/

namespace MapAudit.Scratch

variable {base home location : Location} {root : Path} {number : Nat} {tree node : FileTree}
  {name : String} {fault : FileFault}

/-! ### Making directories -/

theorem withoutLastSlashes_pathOf (root : Path) (number : Nat) :
    (pathOf root number).withoutLastSlashes = pathOf root number := by
  rw [pathOf_eq]
  exact Path.withoutLastSlashes_concat (nameOf_ne_empty number)

/-- A directory is made where its path leads, unless there is something already. -/
theorem makeDirectory_of_locateName {q : Path}
    (h : tree.locateName base q.withoutLastSlashes = .ok location) :
    tree.makeDirectory base q =
      if (tree.get? location).isSome then .error .alreadyExists
      else if tree.isOpenAbove location then .ok (tree.set location .empty)
      else .error .denied := by
  unfold FileTree.makeDirectory
  rw [h]
  dsimp only [bind, Except.bind]
  cases tree.get? location <;> rfl

theorem makeDirectory_of_error {q : Path}
    (h : tree.locateName base q.withoutLastSlashes = .error fault) :
    tree.makeDirectory base q = .error fault := by
  unfold FileTree.makeDirectory
  rw [h]
  rfl

/-- A directory that is made is new, in an open directory. -/
theorem exists_of_makeDirectory_ok {q : Path} {made : FileTree}
    (h : tree.makeDirectory base q = .ok made) :
    ∃ location, tree.locateName base q.withoutLastSlashes = .ok location ∧
      tree.get? location = none ∧ tree.isOpenAbove location = true ∧
      made = tree.set location .empty := by
  cases hlocate : tree.locateName base q.withoutLastSlashes with
  | error fault =>
    rw [makeDirectory_of_error hlocate] at h
    cases h
  | ok location =>
    rw [makeDirectory_of_locateName hlocate] at h
    split at h
    · cases h
    · next hnone =>
      split at h
      · next hopen =>
        rw [Option.not_isSome_iff_eq_none] at hnone
        exact ⟨location, rfl, hnone, hopen, (Except.ok.inj h).symm⟩
      · cases h

/-- A directory cannot be made for want of one above it only if its path leads nowhere. -/
theorem locateName_of_makeDirectory_notFound {q : Path}
    (h : tree.makeDirectory base q = .error .notFound) :
    tree.locateName base q.withoutLastSlashes = .error .notFound := by
  cases hlocate : tree.locateName base q.withoutLastSlashes with
  | error fault =>
    rw [makeDirectory_of_error hlocate] at h
    rw [Except.error.inj h]
  | ok location =>
    rw [makeDirectory_of_locateName hlocate] at h
    split at h
    · cases h
    · split at h <;> cases h

/-- **One directory**, when those above are there: a directory that is there already will do. -/
def makeOne (base : Location) (p : Path) (tree : FileTree) : Except FileFault Unit × FileTree :=
  match tree.makeDirectory base p with
  | .ok made => (.ok (), made)
  | .error fault => (if tree.hasDirectory base p then .ok () else .error fault, tree)

theorem makeOne_eq_ok {q : Path} {made : FileTree}
    (h : makeOne base q tree = (.ok (), made)) :
    tree.makeDirectory base q = .ok made ∨ made = tree ∧ tree.hasDirectory base q = true := by
  unfold makeOne at h
  split at h
  · next hmade => exact Or.inl (hmade.trans (congrArg Except.ok (Prod.mk.inj h).2))
  · obtain ⟨hanswer, rfl⟩ := Prod.mk.inj h
    split at hanswer
    · next hdirectory => exact Or.inr ⟨rfl, hdirectory⟩
    · cases hanswer

section Along

variable {q : Path} {above : List Path} {ready : FileTree} (hne : q ≠ .empty)
include hne

/-- Unless one above is missing, making a directory is all that is tried. -/
theorem makeAlong_cons (h : tree.makeDirectory base q ≠ .error .notFound) :
    FileTree.makeAlong base (q :: above) tree = makeOne base q tree := by
  unfold FileTree.makeAlong makeOne
  rw [if_neg hne]
  cases hmade : tree.makeDirectory base q with
  | ok made => rfl
  | error fault =>
    cases fault with
    | notFound => exact absurd hmade h
    | _ => rfl

variable (h : tree.makeDirectory base q = .error .notFound)
include h

/-- If one is missing, those above are made first. -/
theorem makeAlong_cons_of_error
    (habove : FileTree.makeAlong base above tree = (.error fault, ready)) :
    FileTree.makeAlong base (q :: above) tree = (.error fault, ready) := by
  simp only [FileTree.makeAlong, if_neg hne, h, habove]

theorem makeAlong_cons_of_ok (habove : FileTree.makeAlong base above tree = (.ok (), ready)) :
    FileTree.makeAlong base (q :: above) tree = makeOne base q ready := by
  unfold makeOne
  cases hmade : ready.makeDirectory base q with
  | ok made => simp only [FileTree.makeAlong, if_neg hne, h, habove, hmade]
  | error fault => simp only [FileTree.makeAlong, if_neg hne, h, habove, hmade]

end Along

/-- **What one directory keeps**, all directories along paths do. -/
theorem makeAlong_keeps {motive : FileTree → Prop} {paths : List Path} (hstart : motive tree)
    (hmake : ∀ tree' q made, motive tree' → q ∈ paths → tree'.makeDirectory base q = .ok made →
      motive made) : motive (FileTree.makeAlong base paths tree).2 := by
  have hone : ∀ tree' q, motive tree' → q ∈ paths → motive (makeOne base q tree').2 := by
    intro tree' q htree' hq
    unfold makeOne
    split
    · next made hmade => exact hmake tree' q made htree' hq hmade
    · exact htree'
  -- the directories above are made first, when the one itself finds nothing to be put into
  induction paths with
  | nil => exact hstart
  | cons q above ih =>
    by_cases hempty : q = .empty
    · unfold FileTree.makeAlong
      rw [if_pos hempty]
      exact hstart
    · by_cases hmissing : tree.makeDirectory base q = .error .notFound
      · have habove := ih (fun tree' q' made htree' hq => hmake tree' q' made htree'
          (List.mem_cons_of_mem _ hq)) fun tree' q' htree' hq => hone tree' q' htree'
          (List.mem_cons_of_mem _ hq)
        cases hready : FileTree.makeAlong base above tree with
        | mk answer ready =>
          rw [hready] at habove
          cases answer with
          | error fault =>
            rw [makeAlong_cons_of_error hempty hmissing hready]
            exact habove
          | ok u =>
            rw [makeAlong_cons_of_ok hempty hmissing hready]
            exact hone ready q habove List.mem_cons_self
      · rw [makeAlong_cons hempty hmissing]
        exact hone tree q hstart List.mem_cons_self

/-- A new directory outside only adds to the tree. -/
theorem grown_set_empty (hnone : tree.get? location = none)
    (hopen : tree.isOpenAbove location = true) (hout : Outside location) :
    Grown tree (tree.set location .empty) ∧
      ∀ place, IsPlace place → (tree.set location .empty).get? place = tree.get? place := by
  constructor
  · intro there _
    by_cases hthere : there = location
    · subst hthere
      refine Or.inr ⟨FileTree.shape?_eq_none_iff.2 hnone, ?_⟩
      rw [FileTree.shape?_eq_map_surface?, FileTree.surface?_set_empty hnone hopen, if_pos rfl]
      rfl
    · left
      rw [FileTree.shape?_eq_map_surface?, FileTree.surface?_set_empty hnone hopen, if_neg hthere,
        ← FileTree.shape?_eq_map_surface?]
  · intro place hplace
    -- a place in the new directory is the new directory itself or below it, where nothing was
    by_cases hin : location <+: place
    · obtain ⟨rest, rfl⟩ := hin
      cases rest with
      | nil =>
        rw [List.append_nil] at hplace
        exact absurd (List.prefix_refl _) (hplace.not_prefix_outside hout)
      | cons key others =>
        rw [FileTree.get?_append, FileTree.get?_set_empty hnone hopen,
          FileTree.get?_append_of_none hnone]
        rfl
    · exact FileTree.get?_set_elsewhere hin (hplace.not_prefix_outside hout) _

/-- Directories that are made on the way to the scratch root only add to the tree. -/
theorem grown_makeAlong (paths : List Path)
    (hpaths : ∀ tree' q location, Grown tree tree' → q ∈ paths →
      tree'.locateName base q.withoutLastSlashes = .ok location → Outside location) :
    Grown tree (FileTree.makeAlong base paths tree).2 ∧
      ∀ place, IsPlace place →
        (FileTree.makeAlong base paths tree).2.get? place = tree.get? place := by
  refine makeAlong_keeps (motive := fun tree' => Grown tree tree' ∧
    ∀ place, IsPlace place → tree'.get? place = tree.get? place)
    ⟨(SameOutside.refl tree).grown, fun _ _ => rfl⟩ ?_
  rintro tree' q made ⟨hgrown, hplaces⟩ hq hmade
  obtain ⟨location, hlocate, hnone, hopen, rfl⟩ := exists_of_makeDirectory_ok hmade
  obtain ⟨hset, hothers⟩ := grown_set_empty hnone hopen (hpaths _ _ _ hgrown hq hlocate)
  exact ⟨hgrown.trans hset, fun place hplace =>
    (hothers place hplace).trans (hplaces place hplace)⟩

/-! ### Making a scratch directory -/

theorem find_of_locate {q : Path} (h : tree.locate base q = .ok location) :
    tree.find base q = (tree.get? location).elim (.error .notFound) .ok := by
  unfold FileTree.find
  rw [h]
  dsimp only [bind, Except.bind]
  cases tree.get? location <;> rfl

theorem Clear.hasDirectory_eq_false (h : Clear base root number tree) :
    tree.hasDirectory base (pathOf root number) = false :=
  FileTree.hasDirectory_eq_false h

/-- **Looking**: a place at which nothing is found is clear, unless there is a link. -/
theorem clear_of_hasNode (h : Anchored base root home tree)
    (hlink : ∀ target, tree.get? (placeOf home number) ≠ some (.link target))
    (hnode : tree.hasNode base (pathOf root number) = false) : Clear base root number tree := by
  intro location hlocate
  obtain ⟨-, rfl, -⟩ := h.of_locateName hlocate
  have hsame : tree.locate base (pathOf root number) = .ok (placeOf home number) :=
    FileTree.locate_of_locateName hlocate hlink
  cases hplace : tree.get? (placeOf home number) with
  | none => rfl
  | some node =>
    have hfind : tree.find base (pathOf root number) = .ok node := by
      rw [find_of_locate hsame, hplace]
      rfl
    unfold FileTree.hasNode at hnode
    rw [hfind] at hnode
    exact absurd hnode.symm Bool.false_ne_true

theorem ancestorsUpTo_eq (n : Nat) (p : Path) :
    p.ancestorsUpTo n = p :: (p.ancestorsUpTo n).tail := by
  cases n with
  | zero => rfl
  | succ n =>
    unfold Path.ancestorsUpTo
    cases p.parent? <;> rfl

theorem ancestorsUpTo_succ {n : Nat} {p q : Path} (h : p.parent? = some q) :
    p.ancestorsUpTo (n + 1) = p :: q.ancestorsUpTo n := by
  rw [Path.ancestorsUpTo, h]

theorem ancestors_eq (p : Path) : p.ancestors = p :: p.ancestors.tail :=
  ancestorsUpTo_eq _ p

theorem pathOf_ne_empty (root : Path) (number : Nat) : pathOf root number ≠ .empty := by
  rw [pathOf_eq]
  exact Path.concat_ne_empty (nameOf_ne_empty number)

/-- Unless a directory above is missing, making a scratch directory is all that is tried. -/
theorem createAll_pathOf (h : tree.makeDirectory base (pathOf root number) ≠ .error .notFound) :
    tree.createAll base (pathOf root number) = makeOne base (pathOf root number) tree := by
  unfold FileTree.createAll
  rw [ancestors_eq]
  exact makeAlong_cons (pathOf_ne_empty root number) h

section Missing

variable {above : FileTree}
  (h : tree.makeDirectory base (pathOf root number) = .error .notFound)
include h

/-- If one is missing, those above are made first. -/
theorem createAll_of_error
    (habove : FileTree.makeAlong base (pathOf root number).ancestors.tail tree =
      (.error fault, above)) :
    tree.createAll base (pathOf root number) = (.error fault, above) := by
  unfold FileTree.createAll
  rw [ancestors_eq]
  exact makeAlong_cons_of_error (pathOf_ne_empty root number) h habove

theorem createAll_of_ok
    (habove : FileTree.makeAlong base (pathOf root number).ancestors.tail tree =
      (.ok (), above)) :
    tree.createAll base (pathOf root number) = makeOne base (pathOf root number) above := by
  unfold FileTree.createAll
  rw [ancestors_eq]
  exact makeAlong_cons_of_ok (pathOf_ne_empty root number) h habove

end Missing

/-- Where there is something, nothing is made. -/
theorem createAll_of_there (hlocate : tree.locateName base (pathOf root number) = .ok location)
    (hnode : tree.get? location = some node) :
    (tree.createAll base (pathOf root number)).2 = tree := by
  have hmake : tree.makeDirectory base (pathOf root number) = .error .alreadyExists := by
    rw [← withoutLastSlashes_pathOf] at hlocate
    rw [makeDirectory_of_locateName hlocate, hnode]
    rfl
  rw [createAll_pathOf (by simp [hmake]), makeOne, hmake]

/-- A scratch directory that is made is fresh, and the root is ready. -/
theorem made_pathOf {made : FileTree} (hout : Outside home) (h : Anchored base root home tree)
    (hmade : tree.makeDirectory base (pathOf root number) = .ok made) :
    Frame base root home number tree made ∧ Ready base root home made ∧ Sized root number ∧
      IsFresh (made.get? (placeOf home number)) := by
  obtain ⟨location, hlocate, -, hopen, rfl⟩ := exists_of_makeDirectory_ok hmade
  rw [withoutLastSlashes_pathOf] at hlocate
  obtain ⟨hsettled, rfl, hsized⟩ := h.of_locateName hlocate
  have hframe : Frame base root home number tree (tree.set (placeOf home number) .empty) :=
    frame_set hout h (List.prefix_refl _) .empty
  have hready : Ready base root home tree := ⟨hsettled, isOpenAbove_concat_iff.1 hopen⟩
  obtain ⟨a, hshape, -⟩ := hready.opened
  obtain ⟨entries, hhome⟩ := FileTree.shape?_eq_directory_iff.1 hshape
  refine ⟨hframe, hframe.ready hready, hsized, ?_⟩
  rw [placeOf, FileTree.get?_set_entry hhome]
  exact isFresh_empty

/-- **Made or not**: the directory is there, fresh, and the root is ready; or else the place is
    as it was. -/
def MadeOrNot (base : Location) (root : Path) (home : Location) (number : Nat) (tree : FileTree)
    (result : Except FileFault Unit × FileTree) : Prop :=
  Frame base root home number tree result.2 ∧
    (result.1 = .ok () ∧ Ready base root home result.2 ∧ Sized root number ∧
        IsFresh (result.2.get? (placeOf home number)) ∨
      (∃ fault, result.1 = .error fault) ∧
        result.2.get? (placeOf home number) = tree.get? (placeOf home number))

theorem makeOne_clear (hout : Outside home) (h : Anchored base root home tree)
    (hclear : Clear base root number tree) :
    MadeOrNot base root home number tree (makeOne base (pathOf root number) tree) := by
  unfold makeOne
  cases hmade : tree.makeDirectory base (pathOf root number) with
  | ok made =>
    obtain ⟨hframe, hready, hsized, hfresh⟩ := made_pathOf hout h hmade
    exact ⟨hframe, Or.inl ⟨rfl, hready, hsized, hfresh⟩⟩
  | error fault =>
    refine ⟨.refl h, Or.inr ⟨⟨fault, ?_⟩, rfl⟩⟩
    simp only [hclear.hasDirectory_eq_false, Bool.false_eq_true, if_false]

/-- Making the directories above makes the home at most, which was missing. -/
theorem frame_above {above : FileTree} (hout : Outside home) (hrooted : Rooted base root home tree)
    (hunsettled : ¬ Settled base root home tree) (hgrown : Grown tree above)
    (hplaces : ∀ place, IsPlace place → above.get? place = tree.get? place) :
    Frame base root home number tree above ∧
      (Settled base root home above → tree.get? home = none) := by
  have hnot : ¬ IsPassableAt tree home :=
    ((hrooted.leads tree (SameOutside.refl tree).grown).resolve_left hunsettled).1
  have hhome : Settled base root home above → tree.get? home = none := by
    intro hsettled
    -- had it been there before, the root would have been settled then
    rcases hgrown home hout with hsame | ⟨hnone, -⟩
    · obtain ⟨a, hshape, hpass⟩ := hsettled.isPassableAt
      exact absurd ⟨a, hsame ▸ hshape, hpass⟩ hnot
    · exact FileTree.shape?_eq_none_iff.1 hnone
  refine ⟨?_, hhome⟩
  exact
    { anchored := Or.inr (hrooted.of_grown hgrown)
      ready := fun hready => absurd hready.settled hunsettled
      others := fun place hplace _ => hplaces place hplace
      made := fun hsettled => Or.inr (hhome hsettled)
      kept := fun hnone => by
        rw [← FileTree.shape?_eq_none_iff] at hnone ⊢
        rcases hgrown home hout with hsame | ⟨hnone', -⟩
        · exact hsame ▸ hnone
        · exact hnone' }

/-- **Making** a scratch directory in a clear place. -/
theorem createAll_clear (hout : Outside home) (h : Anchored base root home tree)
    (hclear : Clear base root number tree) :
    MadeOrNot base root home number tree (tree.createAll base (pathOf root number)) := by
  by_cases hmissing : tree.makeDirectory base (pathOf root number) = .error .notFound
  · -- the home is missing, so the root is not settled yet
    have hunsettled : ¬ Settled base root home tree := by
      intro hsettled
      have hname := locateName_of_makeDirectory_notFound hmissing
      rw [withoutLastSlashes_pathOf] at hname
      exact locateName_ne_notFound hsettled.locate hname
    have hrooted := h.resolve_left hunsettled
    obtain ⟨hgrown, hplaces⟩ := grown_makeAlong (pathOf root number).ancestors.tail
      fun tree' q location => hrooted.above tree' number q location
    cases habove : FileTree.makeAlong base (pathOf root number).ancestors.tail tree with
    | mk answer above =>
      rw [habove] at hgrown hplaces
      obtain ⟨hframe, hhome⟩ := frame_above hout hrooted hunsettled hgrown hplaces
      have hplace : above.get? (placeOf home number) = tree.get? (placeOf home number) :=
        hplaces _ (isPlace_concat hout number)
      cases answer with
      | error fault =>
        rw [createAll_of_error hmissing habove]
        exact ⟨hframe, Or.inr ⟨⟨fault, rfl⟩, hplace⟩⟩
      | ok u =>
        rw [createAll_of_ok hmissing habove]
        have hclear' : Clear base root number above := by
          intro location hlocate
          obtain ⟨hsettled, rfl, -⟩ := hframe.anchored.of_locateName hlocate
          rw [hplace]
          exact FileTree.get?_append_of_none (hhome hsettled) _
        obtain ⟨hmore, hmade⟩ := makeOne_clear hout hframe.anchored hclear'
        exact ⟨hframe.trans hmore, hmade.imp_right fun ⟨herror, hsame⟩ =>
          ⟨herror, hsame.trans hplace⟩⟩
  · rw [createAll_pathOf hmissing]
    exact makeOne_clear hout h hclear

end MapAudit.Scratch
