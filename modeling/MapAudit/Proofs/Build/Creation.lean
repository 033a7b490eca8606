import MapAudit.Proofs.Build.Ancestors

/-! # Creating and removing in any tree

    What the creation and the removal of a scratch directory do to a tree of which nothing is
    known. There may be links on the way, and the path may lead through other scratch directories.

    Elsewhere, a removal changes nothing, and a creation adds empty directories at most, those
    above that were missing. A creation that succeeds ends with an empty directory, whatever was
    found at its path. There is one exception: if the root goes up again after a directory that is
    missing, the path leads nowhere when something is looked for there, and is at its end again
    once that directory is made.
-/

namespace MapAudit.Scratch

variable {base location there : Location} {tree cleared left made : FileTree} {root p : Path}
  {number : Nat} {fault : FileFault}

/-! ### Elsewhere -/

/-- Whether a location is **elsewhere**: neither what a path names nor below it. -/
def IsElsewhere (tree : FileTree) (base : Location) (p : Path) (there : Location) : Prop :=
  ∀ location, tree.locateName base p = .ok location → ¬ location <+: there

/-- **Removal elsewhere**: whether it succeeds or not, it changes nothing there. -/
theorem surface?_removeAll (h : IsElsewhere tree base p there) :
    (tree.removeAll base p).2.surface? there = tree.surface? there := by
  cases hlocate : tree.locateName base p with
  | error fault =>
    unfold FileTree.removeAll
    rw [hlocate]
  | ok location =>
    have hbelow := h location hlocate
    have hne : location ≠ [] := by
      rintro rfl
      exact hbelow List.nil_prefix
    -- whatever is removed or left in part is at the end of the path
    rcases removeAll_cases hlocate hne with
      ⟨-, hremove⟩ | ⟨-, fault, left, hremove, rfl | ⟨-, node, rfl⟩⟩
    · obtain ⟨above, name, a, entries, hlocate', habove, herase⟩ := exists_of_removeAll_ok hremove
      rw [hlocate] at hlocate'
      obtain rfl := Except.ok.inj hlocate'
      rw [hremove]
      exact FileTree.surface?_erase habove hbelow
    · rw [hremove]
    · rw [hremove]
      exact FileTree.surface?_set hbelow node

/-- After a removal that succeeds there is nothing at the path. -/
theorem get?_eq_none_of_removeAll_ok (h : tree.removeAll base p = (.ok (), cleared))
    (hlocate : cleared.locateName base p = .ok location) : cleared.get? location = none := by
  obtain ⟨above, name, a, entries, hbefore, habove, rfl⟩ := exists_of_removeAll_ok h
  -- what the path names now it has named before
  have hlocate' := FileTree.locateName_of_isPart (FileTree.isPart_erase habove) hlocate
  rw [hbefore] at hlocate'
  rw [← Except.ok.inj hlocate']
  exact FileTree.get?_erase_entry habove name

/-! ### Removing for certain -/

/-- Whether a directory at a path can be removed, if there is one. -/
def IsClearable (base : Location) (p : Path) (tree : FileTree) : Prop :=
  tree.hasDirectory base p = true → (tree.removeAll base p).1 = .ok ()

/-- A removal that fails finds no directory, and changes nothing. -/
theorem IsClearable.of_error (h : IsClearable base p tree)
    (herror : tree.removeAll base p = (.error fault, left)) :
    left = tree ∧ tree.hasDirectory base p = false := by
  have hdirectory : tree.hasDirectory base p = false := by
    rw [← Bool.not_eq_true]
    intro hdirectory
    have hok := h hdirectory
    rw [herror] at hok
    cases hok
  refine ⟨?_, hdirectory⟩
  -- only of a directory something may be left in part
  unfold FileTree.removeAll at herror
  split at herror
  · exact (Prod.mk.inj herror).2.symm
  · next location hlocate =>
    split at herror
    · exact (Prod.mk.inj herror).2.symm
    · next a entries hnode =>
      rw [FileTree.hasDirectory_of_locateName hlocate hnode] at hdirectory
      cases hdirectory
    · split at herror
      · cases herror
      · exact (Prod.mk.inj herror).2.symm
    · exact (Prod.mk.inj herror).2.symm

/-- **Removal**: no directory is left, whether it succeeds or not. -/
theorem IsClearable.hasDirectory_eq_false (h : IsClearable base p tree) :
    (tree.removeAll base p).2.hasDirectory base p = false := by
  cases hremove : tree.removeAll base p with
  | mk answer left =>
    cases answer with
    | ok u =>
      exact FileTree.hasDirectory_eq_false fun location => get?_eq_none_of_removeAll_ok hremove
    | error fault =>
      obtain ⟨rfl, hdirectory⟩ := h.of_error hremove
      exact hdirectory

/-! ### Creating -/

/-- **Clearing** the way for a directory: what is found at its path is removed. -/
def clearAt (base : Location) (p : Path) (tree : FileTree) : Except FileFault Unit × FileTree :=
  if tree.hasNode base p then tree.removeAll base p else (.ok (), tree)

/-- **Creation** of a directory, with those above it, when the way is cleared. -/
def createAt (base : Location) (p : Path) (tree : FileTree) : Except FileFault Unit × FileTree :=
  match clearAt base p tree with
  | (.error fault, left) => (.error fault, left)
  | (.ok (), cleared) => cleared.createAll base p

theorem createAt_of_error (h : clearAt base p tree = (.error fault, left)) :
    createAt base p tree = (.error fault, left) := by
  unfold createAt
  rw [h]

theorem createAt_of_ok (h : clearAt base p tree = (.ok (), cleared)) :
    createAt base p tree = cleared.createAll base p := by
  unfold createAt
  rw [h]

theorem surface?_clearAt (h : IsElsewhere tree base p there) :
    (clearAt base p tree).2.surface? there = tree.surface? there := by
  unfold clearAt
  split
  · exact surface?_removeAll h
  · rfl

/-- When the way is cleared there is no directory. -/
theorem hasDirectory_of_clearAt (h : clearAt base p tree = (.ok (), cleared)) :
    cleared.hasDirectory base p = false := by
  unfold clearAt at h
  split at h
  · exact FileTree.hasDirectory_eq_false fun location => get?_eq_none_of_removeAll_ok h
  · next hnode =>
    obtain rfl := (Prod.mk.inj h).2
    rw [Bool.not_eq_true] at hnode
    unfold FileTree.hasNode at hnode
    unfold FileTree.hasDirectory
    split at hnode
    · cases hnode
    · next fault hfind => rw [hfind]

/-- **Creation elsewhere**: all that changes there is that directories may be made which are
    above. -/
theorem surface?_createAt (h : IsElsewhere tree base p there) :
    (createAt base p tree).2.surface? there = tree.surface? there ∨
      tree.surface? there = none ∧ (createAt base p tree).2.surface? there = some .empty ∧
        ∃ q ∈ p.ancestors,
          (createAt base p tree).2.locateName base q.withoutLastSlashes = .ok there := by
  have hsame := surface?_clearAt h
  cases hclear : clearAt base p tree with
  | mk answer cleared =>
    rw [hclear] at hsame
    cases answer with
    | error fault =>
      rw [createAt_of_error hclear]
      exact Or.inl hsame
    | ok u =>
      rw [createAt_of_ok hclear, ← hsame]
      exact (growsAlong_makeAlong p.ancestors).surface there

/-- **A plain file** is not cleared away, and stands in the way of a directory. -/
theorem createAt_of_file {f : File} (h : tree.findName base p = .ok (.file f)) :
    createAt base p tree = (.error .notDirectory, tree) := by
  unfold FileTree.findName at h
  cases hlocate : tree.locateName base p with
  | error fault =>
    rw [hlocate] at h
    cases h
  | ok location =>
    rw [hlocate] at h
    dsimp only [bind, Except.bind] at h
    have hnode : tree.get? location = some (.file f) := by
      split at h
      · cases h
      · next node hnode => rw [hnode, Except.ok.inj h]
    -- the file is found, so that it is to be cleared away, which fails
    have hsame : tree.locate base p = .ok location :=
      FileTree.locate_of_locateName hlocate fun target => by
        rw [hnode]
        exact nofun
    have hthere : tree.hasNode base p = true := by
      unfold FileTree.hasNode
      rw [find_of_locate hsame, hnode]
      rfl
    apply createAt_of_error
    unfold clearAt FileTree.removeAll
    rw [if_pos hthere, hlocate]
    dsimp only
    rw [hnode]

/-! ### Creating a scratch directory -/

theorem isTidy_pathOf (root : Path) (number : Nat) : (pathOf root number).IsTidy := by
  rw [pathOf_eq]
  cases root.stem with
  | nil => exact .single (nameOf_ne_empty number)
  | cons first rest => exact .named (not_isIdle_nameOf number)

/-- A scratch directory's path goes up only if that of the root does. -/
theorem ne_up_of_mem_pathOf (hup : ".." ∉ root.segments) {segment : String}
    (hmem : segment ∈ (pathOf root number).segments) : segment ≠ ".." := by
  rintro rfl
  rw [pathOf_eq] at hmem
  rcases List.mem_append.1 hmem with hstem | hname
  · unfold Path.stem at hstem
    split at hstem
    · exact hup (List.mem_of_mem_dropLast hstem)
    · exact hup hstem
  · exact nameOf_ne_up number (List.mem_singleton.1 hname).symm

/-- **Created**: where the creation of a scratch directory succeeds, there is a directory, and
    it is empty, unless the root goes up again after a directory that was missing. -/
theorem created_of_createAt (h : createAt base (pathOf root number) tree = (.ok (), made)) :
    made.hasDirectory base (pathOf root number) = true ∧
      (NamesEmpty base (pathOf root number) made ∨ ".." ∈ root.segments ∧
        (clearAt base (pathOf root number) tree).2.locateName base (pathOf root number) =
          .error .notFound) := by
  cases hclear : clearAt base (pathOf root number) tree with
  | mk answer cleared =>
    cases answer with
    | error fault =>
      rw [createAt_of_error hclear] at h
      cases h
    | ok u =>
      rw [createAt_of_ok hclear] at h
      have hnone := hasDirectory_of_clearAt hclear
      -- only a path that goes up may lead elsewhere after directories were made
      by_cases hup : ".." ∈ root.segments
      · by_cases hmissing : cleared.makeDirectory base (pathOf root number) = .error .notFound
        · have hnowhere := locateName_of_makeDirectory_notFound hmissing
          rw [withoutLastSlashes_pathOf] at hnowhere
          refine ⟨?_, Or.inr ⟨hup, hnowhere⟩⟩
          cases habove : FileTree.makeAlong base (pathOf root number).ancestors.tail cleared with
          | mk answer above =>
            cases answer with
            | error fault =>
              rw [createAll_of_error hmissing habove] at h
              cases h
            | ok u =>
              rw [createAll_of_ok hmissing habove] at h
              rcases makeOne_eq_ok h with hmade | ⟨rfl, hdirectory⟩
              · have hslashes := withoutLastSlashes_pathOf root number
                exact (namesEmpty_of_makeDirectory hslashes hmade).hasDirectory
              · exact hdirectory
        · rw [createAll_pathOf hmissing] at h
          rcases makeOne_eq_ok h with hmade | ⟨-, hdirectory⟩
          · have hempty := namesEmpty_of_makeDirectory (withoutLastSlashes_pathOf _ _) hmade
            exact ⟨hempty.hasDirectory, Or.inl hempty⟩
          · rw [hnone] at hdirectory
            cases hdirectory
      · -- otherwise the directory is there or new
        rcases there_or_namesEmpty_of_makeAlong _ (isTidy_pathOf root number)
          (fun s hs => ne_up_of_mem_pathOf hup hs) h with ⟨-, hwas⟩ | hempty
        · rcases hwas with htext | hdirectory
          · exact absurd htext (pathOf_ne_empty root number)
          · rw [hnone] at hdirectory
            cases hdirectory
        · exact ⟨hempty.hasDirectory, Or.inl hempty⟩

end MapAudit.Scratch
