import MapAudit.Proofs.Build.Places

/-! # What a build leaves alone

    All that a task does to the files happens in the place of its own scratch directory,
    but for the directories above the scratch root, which may have to be made. Other places
    stay as they are, and so does the way to them. `Frame` says so, and there is one lemma
    for each kind of access.
-/

namespace MapAudit.Scratch

variable {base home location : Location} {root : Path} {number number' : Nat}
  {tree tree' tree'' : FileTree} {name : String}

/-! ### Trees in which scratch directories can be made -/

/-- The place of the scratch directory with a number. -/
def placeOf (home : Location) (number : Nat) : Location :=
  home ++ [nameOf number]

/-- The scratch root is **anchored** if it is settled or rooted. -/
def Anchored (base : Location) (root : Path) (home : Location) (tree : FileTree) : Prop :=
  Settled base root home tree ∨ Rooted base root home tree

/-- Whether nodes may be put into the directory at a location. -/
def IsOpenAt (tree : FileTree) (location : Location) : Prop :=
  ∃ a, tree.shape? location = some (.directory a) ∧ a.isWritable = true ∧ a.isPassable = true

theorem isOpenAbove_concat_iff : tree.isOpenAbove (location ++ [name]) = true ↔
    IsOpenAt tree location := by
  unfold FileTree.isOpenAbove IsOpenAt
  rw [List.dropLast_concat]
  constructor
  · intro h
    split at h
    · next a entries hnode =>
      rw [Bool.and_eq_true] at h
      exact ⟨a, FileTree.shape?_eq_directory_iff.2 ⟨entries, hnode⟩, h⟩
    · exact absurd h Bool.false_ne_true
  · rintro ⟨a, hshape, hopen⟩
    obtain ⟨entries, hnode⟩ := FileTree.shape?_eq_directory_iff.1 hshape
    rw [hnode]
    exact (Bool.and_eq_true _ _).mpr hopen

/-- The scratch root is **ready** if it is settled and its home is open. -/
structure Ready (base : Location) (root : Path) (home : Location) (tree : FileTree) : Prop where
  /-- It is settled. -/
  settled : Settled base root home tree
  /-- Nodes may be put there. -/
  opened : IsOpenAt tree home

theorem Settled.locate (h : Settled base root home tree) :
    tree.locate base (root.join ⟨["."]⟩) = .ok home :=
  h tree (.refl tree)

theorem Settled.isPassableAt (h : Settled base root home tree) : IsPassableAt tree home :=
  (exists_followStem h.locate).2.2

theorem Settled.of_sameOutside (h : Settled base root home tree) (hsame : SameOutside tree tree') :
    Settled base root home tree' :=
  fun tree'' hsame' => h tree'' (hsame.trans hsame')

theorem Rooted.of_grown (h : Rooted base root home tree) (hgrown : Grown tree tree') :
    Rooted base root home tree' where
  outside := h.outside
  leads tree'' hgrown' := h.leads tree'' (hgrown.trans hgrown')
  above tree'' number q location hgrown' := h.above tree'' number q location (hgrown.trans hgrown')

theorem Anchored.of_sameOutside (h : Anchored base root home tree)
    (hsame : SameOutside tree tree') : Anchored base root home tree' :=
  h.imp (·.of_sameOutside hsame) (·.of_grown hsame.grown)

/-- **Only there**: the path of a scratch directory leads to its place or nowhere. -/
theorem Anchored.of_locateName (h : Anchored base root home tree)
    (hlocate : tree.locateName base (pathOf root number) = .ok location) :
    Settled base root home tree ∧ location = placeOf home number ∧ Sized root number := by
  obtain ⟨home', hroot, rfl, hsized⟩ := exists_of_locateName hlocate
  have hsettled : Settled base root home tree := by
    rcases h with hsettled | hrooted
    · exact hsettled
    · exact (hrooted.leads tree (SameOutside.refl tree).grown).resolve_right
        fun hnot => hnot.2 home' hroot
  rw [hsettled.locate] at hroot
  obtain rfl := Except.ok.inj hroot
  exact ⟨hsettled, rfl, hsized⟩

theorem Settled.locateName (h : Settled base root home tree) (hsized : Sized root number) :
    tree.locateName base (pathOf root number) = .ok (placeOf home number) :=
  locateName_of_locate_root h.locate hsized

/-- The place of the scratch directory with a number is **clear** if there is nothing where
    its path leads to. -/
def Clear (base : Location) (root : Path) (number : Nat) (tree : FileTree) : Prop :=
  ∀ location, tree.locateName base (pathOf root number) = .ok location →
    tree.get? location = none

theorem Anchored.clear (h : Anchored base root home tree)
    (hnone : tree.get? (placeOf home number) = none) : Clear base root number tree := by
  intro location hlocate
  obtain ⟨-, rfl, -⟩ := h.of_locateName hlocate
  exact hnone

/-! ### Frames -/

/-- **Frame**: what may happen to a tree on behalf of the scratch directory with a number. -/
structure Frame (base : Location) (root : Path) (home : Location) (number : Nat)
    (tree tree' : FileTree) : Prop where
  /-- The scratch root stays anchored. -/
  anchored : Anchored base root home tree'
  /-- It stays ready. -/
  ready : Ready base root home tree → Ready base root home tree'
  /-- Other places stay as they are. -/
  others : ∀ place, IsPlace place → place ≠ placeOf home number → tree'.get? place = tree.get? place
  /-- The root was settled before, or its home is made here. -/
  made : Settled base root home tree' → Settled base root home tree ∨ tree.get? home = none
  /-- The home does not go away. -/
  kept : tree'.get? home = none → tree.get? home = none

theorem Frame.of_sameOutside (h : Anchored base root home tree) (hout : Outside home)
    (hsame : SameOutside tree tree')
    (hothers : ∀ place, IsPlace place → place ≠ placeOf home number →
      tree'.get? place = tree.get? place) : Frame base root home number tree tree' where
  anchored := h.of_sameOutside hsame
  ready hready := by
    obtain ⟨a, hshape, hopen⟩ := hready.opened
    exact ⟨hready.settled.of_sameOutside hsame, a, (hsame home hout).trans hshape, hopen⟩
  others := hothers
  made hsettled := Or.inl (hsettled.of_sameOutside hsame.symm)
  kept hnone := by
    rw [← FileTree.shape?_eq_none_iff] at hnone ⊢
    exact (hsame home hout).symm.trans hnone

theorem Frame.refl (h : Anchored base root home tree) : Frame base root home number tree tree where
  anchored := h
  ready := id
  others _ _ _ := rfl
  made := Or.inl
  kept := id

theorem Frame.trans (h : Frame base root home number tree tree')
    (h' : Frame base root home number tree' tree'') :
    Frame base root home number tree tree'' where
  anchored := h'.anchored
  ready hready := h'.ready (h.ready hready)
  others place hplace hne := (h'.others place hplace hne).trans (h.others place hplace hne)
  made hsettled := (h'.made hsettled).elim h.made fun hnone => Or.inr (h.kept hnone)
  kept hnone := h.kept (h'.kept hnone)

/-- Other places stay clear. -/
theorem Frame.clear (h : Frame base root home number tree tree') (hout : Outside home)
    (hne : number' ≠ number) (hclear : Clear base root number' tree) :
    Clear base root number' tree' := by
  intro location hlocate
  obtain ⟨hsettled, rfl, hsized⟩ := h.anchored.of_locateName hlocate
  have hplace : placeOf home number' ≠ placeOf home number := fun heq =>
    hne (nameOf_injective (List.singleton_inj.1 (List.append_cancel_left heq)))
  rw [h.others (placeOf home number') (isPlace_concat hout number') hplace]
  rcases h.made hsettled with hsettled' | hnone
  · exact hclear _ (hsettled'.locateName hsized)
  · exact FileTree.get?_append_of_none hnone _

/-! ### Changes in a place -/

section Place

variable (hout : Outside home) (h : Anchored base root home tree)
include hout h

/-- What is put into a place changes that place only. -/
theorem frame_set (hbelow : placeOf home number <+: location) (node : FileTree) :
    Frame base root home number tree (tree.set location node) := by
  have hplace : IsPlace (placeOf home number) := isPlace_concat hout number
  refine .of_sameOutside h hout (sameOutside_set hplace hbelow node) ?_
  intro place hother hne
  have hafter : ¬ location <+: place := fun hp =>
    hplace.not_prefix hother (Ne.symm hne) (hbelow.trans hp)
  have habove : ¬ place <+: location := by
    intro hp
    -- of two locations on one way, one lies below the other
    rcases List.prefix_or_prefix_of_prefix hp hbelow with hp | hp
    · exact hother.not_prefix hplace hne hp
    · exact hplace.not_prefix hother (Ne.symm hne) hp
  exact FileTree.get?_set_elsewhere hafter habove node

/-- What is taken out of a place changes that place only. -/
theorem frame_erase (hopen : IsOpenAt tree home) :
    Frame base root home number tree (tree.erase (placeOf home number)) := by
  have hplace : IsPlace (placeOf home number) := isPlace_concat hout number
  obtain ⟨a, hshape, -⟩ := hopen
  obtain ⟨entries, hhome⟩ := FileTree.shape?_eq_directory_iff.1 hshape
  refine .of_sameOutside h hout ?_ ?_
  · intro location hlocation
    exact FileTree.shape?_erase hhome (hplace.not_prefix_outside hlocation)
  · intro place hother hne
    exact FileTree.get?_erase_elsewhere hhome (hplace.not_prefix hother (Ne.symm hne))
      (hother.not_prefix hplace hne)

end Place

/-! ### Removing -/

/-- Whether a node can be removed with all that is in it. -/
def IsRemovable : Option FileTree → Prop
  | none => True
  | some (.directory a entries) => FileTree.remains (.directory a entries) = none
  | some (.link _) => True
  | some _ => False

/-- **Removal**, by its outcome: what can be removed is taken away, and what cannot be is
    left there, in part at most. -/
theorem removeAll_cases {p : Path} (hlocate : tree.locateName base p = .ok location)
    (hne : location ≠ []) :
    tree.isOpenAbove location = true ∧ tree.removeAll base p = (.ok (), tree.erase location) ∨
      (tree.isOpenAbove location = true → IsRemovable (tree.get? location) →
        tree.get? location = none) ∧
      ∃ fault tree', tree.removeAll base p = (.error fault, tree') ∧
        (tree' = tree ∨ tree.get? location ≠ none ∧ ∃ node, tree' = tree.set location node) := by
  unfold FileTree.removeAll
  simp only [hlocate]
  cases hnode : tree.get? location with
  | none => exact Or.inr ⟨fun _ _ => rfl, .notFound, tree, rfl, Or.inl rfl⟩
  | some node =>
    cases node with
    | directory a entries =>
      simp only [if_neg hne]
      -- a directory goes when nothing in it remains and the one above can be written
      cases hleft : FileTree.remains (.directory a entries) with
      | some left =>
        refine Or.inr ⟨?_, .denied, _, rfl, Or.inr ⟨nofun, left, rfl⟩⟩
        intro _ hremovable
        exact absurd (hleft.symm.trans hremovable) nofun
      | none =>
        by_cases hopen : tree.isOpenAbove location = true
        · exact Or.inl ⟨hopen, by simp only [if_pos hopen]⟩
        · refine Or.inr ⟨fun hopen' => absurd hopen' hopen, .denied, _, ?_,
            Or.inr ⟨nofun, .directory a [], rfl⟩⟩
          simp only [if_neg hopen]
    | link target =>
      by_cases hopen : tree.isOpenAbove location = true
      · exact Or.inl ⟨hopen, by simp only [if_pos hopen]⟩
      · refine Or.inr ⟨fun hopen' => absurd hopen' hopen, .denied, tree, ?_, Or.inl rfl⟩
        simp only [if_neg hopen]
    | file f => exact Or.inr ⟨fun _ hf => hf.elim, .notDirectory, tree, rfl, Or.inl rfl⟩
    | pipe n => exact Or.inr ⟨fun _ hf => hf.elim, .notDirectory, tree, rfl, Or.inl rfl⟩
    | device d => exact Or.inr ⟨fun _ hf => hf.elim, .notDirectory, tree, rfl, Or.inl rfl⟩

/-- **Removal**, when it succeeds: something is taken out of a directory. -/
theorem exists_of_removeAll_ok {p : Path} {cleared : FileTree}
    (h : tree.removeAll base p = (.ok (), cleared)) :
    ∃ above name a entries, tree.locateName base p = .ok (above ++ [name]) ∧
      tree.get? above = some (.directory a entries) ∧ cleared = tree.erase (above ++ [name]) := by
  cases hlocate : tree.locateName base p with
  | error fault =>
    unfold FileTree.removeAll at h
    rw [hlocate] at h
    cases h
  | ok location =>
    rcases List.eq_nil_or_concat location with rfl | ⟨above, name, rfl⟩
    · -- the top stays
      unfold FileTree.removeAll at h
      rw [hlocate] at h
      cases tree <;> cases h
    · rw [List.concat_eq_append] at hlocate ⊢
      rcases removeAll_cases hlocate (by simp) with ⟨hopen, hremove⟩ | ⟨-, fault, left, hremove, -⟩
      · rw [h] at hremove
        obtain ⟨a, hshape, -⟩ := isOpenAbove_concat_iff.1 hopen
        obtain ⟨entries, habove⟩ := FileTree.shape?_eq_directory_iff.1 hshape
        exact ⟨above, name, a, entries, rfl, habove, (Prod.mk.inj hremove).2⟩
      · rw [h] at hremove
        cases hremove

section Removal

variable (hout : Outside home) (h : Anchored base root home tree)
include hout h

/-- A removal changes the place of the scratch directory only. -/
theorem frame_removeAll : Frame base root home number tree
    (tree.removeAll base (pathOf root number)).2 := by
  cases hlocate : tree.locateName base (pathOf root number) with
  | error fault =>
    unfold FileTree.removeAll
    rw [hlocate]
    exact .refl h
  | ok location =>
    obtain ⟨-, rfl, -⟩ := h.of_locateName hlocate
    rcases removeAll_cases hlocate (by simp [placeOf]) with
      ⟨hopen, hremove⟩ | ⟨-, fault, tree', hremove, hsame | ⟨-, node, hset⟩⟩ <;> rw [hremove]
    · exact frame_erase hout h (isOpenAbove_concat_iff.1 hopen)
    · rw [hsame]
      exact .refl h
    · exact hset ▸ frame_set hout h (List.prefix_refl _) node

omit hout in
/-- After a successful removal the place is empty. -/
theorem get?_removeAll_ok (hok : (tree.removeAll base (pathOf root number)).1 = .ok ()) :
    (tree.removeAll base (pathOf root number)).2.get? (placeOf home number) = none := by
  cases hremove : tree.removeAll base (pathOf root number) with
  | mk answer cleared =>
    rw [hremove] at hok
    obtain rfl : answer = .ok () := hok
    obtain ⟨above, name, a, entries, hlocate, habove, rfl⟩ := exists_of_removeAll_ok hremove
    obtain ⟨-, hplace, -⟩ := h.of_locateName hlocate
    rw [← hplace]
    exact FileTree.get?_erase_entry habove name

omit hout in
/-- A removal leaves an empty place empty. -/
theorem get?_removeAll_none (hnone : tree.get? (placeOf home number) = none) :
    (tree.removeAll base (pathOf root number)).2.get? (placeOf home number) = none := by
  cases hremove : tree.removeAll base (pathOf root number) with
  | mk answer tree' =>
    cases answer with
    | ok u =>
      have hok : (tree.removeAll base (pathOf root number)).1 = .ok () := by rw [hremove]
      rw [← hremove]
      exact get?_removeAll_ok h hok
    | error fault =>
      -- where nothing is, the removal fails and leaves the tree alone
      cases hlocate : tree.locateName base (pathOf root number) with
      | error fault' =>
        unfold FileTree.removeAll at hremove
        rw [hlocate] at hremove
        exact (Prod.mk.inj hremove).2 ▸ hnone
      | ok location =>
        obtain ⟨-, rfl, -⟩ := h.of_locateName hlocate
        unfold FileTree.removeAll at hremove
        rw [hlocate] at hremove
        simp only [hnone] at hremove
        exact (Prod.mk.inj hremove).2 ▸ hnone

end Removal

/-- **Cleanup**: removing what can be removed leaves the place empty. -/
theorem get?_removeAll (h : Ready base root home tree) (hsized : Sized root number)
    (hremovable : IsRemovable (tree.get? (placeOf home number))) :
    (tree.removeAll base (pathOf root number)).2.get? (placeOf home number) = none := by
  have hanchored : Anchored base root home tree := Or.inl h.settled
  have hlocate := h.settled.locateName hsized
  have hopen : tree.isOpenAbove (placeOf home number) = true := isOpenAbove_concat_iff.2 h.opened
  rcases removeAll_cases hlocate (by simp [placeOf]) with ⟨-, hremove⟩ | ⟨hnone, -⟩
  · exact get?_removeAll_ok hanchored (by rw [hremove])
  · exact get?_removeAll_none hanchored (hnone hopen hremovable)

/-! ### Writing -/

/-- Whether a node is a directory as it was made, with nothing but new files in it. -/
def IsFresh (node? : Option FileTree) : Prop :=
  ∃ entries, node? = some (.directory (.usual 0o755) entries) ∧
    ∀ entry ∈ entries, ∃ f, entry.2 = .file f ∧ f.kinship = none

theorem isFresh_empty : IsFresh (some .empty) :=
  ⟨[], rfl, nofun⟩

/-- A directory with nothing but files in it can be removed. -/
theorem IsFresh.isRemovable {node? : Option FileTree} (h : IsFresh node?) : IsRemovable node? := by
  obtain ⟨entries, rfl, hfiles⟩ := h
  -- no file remains in a directory that can be written
  have hleft : FileTree.remainsOf true entries = [] := by
    induction entries with
    | nil => rfl
    | cons entry rest ih =>
      obtain ⟨name, node⟩ := entry
      obtain ⟨f, hnode, -⟩ := hfiles (name, node) List.mem_cons_self
      obtain rfl : node = .file f := hnode
      have hrest := ih fun other hmem => hfiles other (List.mem_cons_of_mem _ hmem)
      simp only [FileTree.remainsOf, FileTree.remainsIn, FileTree.remains, if_true, hrest]
  have hreadable : (Attributes.usual 0o755).isReadable = true := by decide
  have hwritable : (Attributes.usual 0o755).isWritable = true := by decide
  show FileTree.remains (.directory (.usual 0o755) entries) = none
  simp only [FileTree.remains, hreadable, hwritable, if_true, hleft]

/-- What is in a fresh directory is a new file. -/
theorem IsFresh.child (h : IsFresh (tree.get? location)) (hchild : tree.get? (location ++ [name]) =
    some node) : ∃ f, node = .file f ∧ f.kinship = none := by
  obtain ⟨entries, hdirectory, hfiles⟩ := h
  rw [FileTree.get?_append, hdirectory, Option.bind_some, FileTree.get?_directory_cons,
    Option.bind_eq_some_iff] at hchild
  obtain ⟨child, hlookup, hnode⟩ := hchild
  obtain rfl := Option.some.inj ((FileTree.get?_nil child).symm.trans hnode)
  obtain ⟨before, after, rfl, -⟩ := List.lookup_eq_some_iff.1 hlookup
  exact hfiles (name, child) (by simp)

theorem mem_putEntry {entry : String × FileTree} {entries : List (String × FileTree)}
    (h : entry ∈ FileTree.putEntry name node entries) : entry = (name, node) ∨ entry ∈ entries := by
  induction entries with
  | nil => exact Or.inl (List.mem_singleton.1 h)
  | cons first rest ih =>
    unfold FileTree.putEntry at h
    split at h
    · exact (List.mem_cons.1 h).imp_right (List.mem_cons_of_mem _)
    · rcases List.mem_cons.1 h with rfl | h
      · exact Or.inr List.mem_cons_self
      · exact (ih h).imp_right (List.mem_cons_of_mem _)

/-- A directory stays fresh when a new file is put into it. -/
theorem IsFresh.set (h : IsFresh (tree.get? location)) {f : File} (hf : f.kinship = none) :
    IsFresh ((tree.set (location ++ [name]) (.file f)).get? location) := by
  obtain ⟨entries, hdirectory, hfiles⟩ := h
  refine ⟨FileTree.putEntry name (.file f) entries, ?_, ?_⟩
  · rw [FileTree.set_entry hdirectory]
    have hself := FileTree.get?_set_append hdirectory
      (.directory (.usual 0o755) (FileTree.putEntry name (.file f) entries)) []
    rwa [List.append_nil, FileTree.get?_nil] at hself
  · intro entry hmem
    rcases mem_putEntry hmem with rfl | hmem
    · exact ⟨f, rfl, hf⟩
    · exact hfiles entry hmem

/-- Whether a segment is a name. -/
def IsOrdinary (segment : String) : Prop :=
  Path.isIdle segment = false ∧ segment ≠ ".."

section Writing

variable {file : String} {content : ByteArray}
  (h : Ready base root home tree) (hsized : Sized root number) (hfile : IsOrdinary file)
include h hsized hfile

/-- The path of a file in a scratch directory leads on from its place. -/
theorem locateName_file (hlink : ∀ target, tree.get? (placeOf home number) ≠ some (.link target))
    (hlocate : tree.locate base ((pathOf root number).join ⟨[file]⟩) = .ok location) :
    tree.locateName base ((pathOf root number).join ⟨[file]⟩) =
      tree.enter (placeOf home number) file := by
  have hpath : (pathOf root number).join ⟨[file]⟩ =
      ⟨root.stem ++ [nameOf number] ++ [file]⟩ := by
    rw [Path.join_segment, pathOf_eq, Path.stem_concat (nameOf_ne_empty number)]
  rw [hpath] at hlocate ⊢
  have hfollow := FileTree.followable_of_locateWith hlocate
  have hne : file ≠ "" := by
    rintro rfl
    exact absurd hfile.1 (by decide)
  have hdirectory : tree.followStem base (root.stem ++ [nameOf number]) =
      .ok (placeOf home number) := by
    rw [← FileTree.locate_eq_followStem (nameOf_ne_empty number) hsized.1, ← pathOf_eq]
    exact FileTree.locate_of_locateName (h.settled.locateName hsized) hlink
  have hconcat : tree.locateName base ⟨root.stem ++ [nameOf number] ++ [file]⟩ = _ :=
    FileTree.locateWith_concat hne hfile.2 (Or.inl rfl) hfollow
  rw [hdirectory] at hconcat
  exact hconcat

/-- **Writing** a file into a fresh directory changes the place of the directory only, and it
    stays fresh. -/
theorem write_fresh (hout : Outside home) (hfresh : IsFresh (tree.get? (placeOf home number))) :
    Frame base root home number tree
        (tree.write base ((pathOf root number).join ⟨[file]⟩) content).2 ∧
      IsFresh ((tree.write base ((pathOf root number).join ⟨[file]⟩) content).2.get?
        (placeOf home number)) := by
  have hanchored : Anchored base root home tree := Or.inl h.settled
  have hframe : ∀ node, Frame base root home number tree
      (tree.set (placeOf home number ++ [file]) node) :=
    frame_set hout hanchored (List.prefix_append _ [file])
  unfold FileTree.write
  cases hlocate : tree.locate base ((pathOf root number).join ⟨[file]⟩) with
  | error fault => exact ⟨.refl hanchored, hfresh⟩
  | ok location =>
    have hdirectory := hfresh
    obtain ⟨entries, hdirectory, -⟩ := hdirectory
    have hname := locateName_file h hsized hfile (by rw [hdirectory]; exact nofun) hlocate
    have henter : tree.enter (placeOf home number) file =
        if FileTree.maxNameSize < file.utf8ByteSize then .error .nameTooLong
        else .ok (placeOf home number ++ [file]) := by
      have hpass : (Attributes.usual 0o755).isPassable = true := by decide
      unfold FileTree.enter
      simp only [hdirectory, hpass, hfile.1, Bool.not_true, Bool.false_eq_true, if_false]
    rw [henter] at hname
    -- files in the directory are no links
    rw [FileTree.locate_eq_locateName ?_, hname] at hlocate
    · split at hlocate
      · exact absurd hlocate nofun
      · obtain rfl := Except.ok.inj hlocate
        dsimp only
        unfold FileTree.writeAt
        cases hchild : tree.get? (placeOf home number ++ [file]) with
        | none =>
          dsimp only
          split
          · exact ⟨hframe _, hfresh.set rfl⟩
          · exact ⟨.refl hanchored, hfresh⟩
        | some child =>
          obtain ⟨f, rfl, hkin⟩ := hfresh.child hchild
          dsimp only
          split
          · simp only [FileTree.revise, hchild, hkin]
            exact ⟨hframe _, hfresh.set rfl⟩
          · exact ⟨.refl hanchored, hfresh⟩
    · intro location' target hlocate' hlink
      rw [hname] at hlocate'
      split at hlocate'
      · exact absurd hlocate' nofun
      · obtain rfl := Except.ok.inj hlocate'
        obtain ⟨f, hf, -⟩ := hfresh.child hlink
        exact absurd hf nofun

/-- Without the directory nothing is written. -/
theorem write_nowhere (hnone : tree.get? (placeOf home number) = none) :
    (tree.write base ((pathOf root number).join ⟨[file]⟩) content).2 = tree := by
  unfold FileTree.write
  cases hlocate : tree.locate base ((pathOf root number).join ⟨[file]⟩) with
  | error fault => rfl
  | ok location =>
    have hname := locateName_file h hsized hfile (by rw [hnone]; exact nofun) hlocate
    have henter : tree.enter (placeOf home number) file = .error .notFound := by
      unfold FileTree.enter
      rw [hnone]
    rw [henter] at hname
    rw [FileTree.locate_eq_locateName (by rw [hname]; exact nofun), hname] at hlocate
    exact absurd hlocate nofun

end Writing

end MapAudit.Scratch
