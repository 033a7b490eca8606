import MapAudit.Proofs.Build.Making

/-! # Making directories along a path

    To make a directory, those above it are made first when they are missing. All that this
    does to a tree is that empty directories are added, where the path and those above it
    lead to.

    Unless a path goes up again, the directory at its end is either there from the start, or it
    is new and empty: as soon as one of the directories above is made, there cannot be anything
    in it, and so everything further down has to be made, too.
-/

namespace MapAudit.Scratch

variable {base location there : Location} {tree tree' tree'' made : FileTree} {p q above : Path}
  {paths : List Path}

/-! ### Growing -/

/-- A tree **grows along** paths if all that is new in it are empty directories to which the
    paths lead. -/
structure GrowsAlong (base : Location) (paths : List Path) (tree tree' : FileTree) : Prop where
  /-- Nothing goes away. -/
  isPart : tree.IsPart tree'
  /-- What is there stays as it is, and what is new is an empty directory. -/
  surface : ∀ there, tree'.surface? there = tree.surface? there ∨
    tree.surface? there = none ∧ tree'.surface? there = some .empty ∧
      ∃ q ∈ paths, tree'.locateName base q.withoutLastSlashes = .ok there

theorem GrowsAlong.refl (base : Location) (paths : List Path) (tree : FileTree) :
    GrowsAlong base paths tree tree :=
  ⟨.refl tree, fun _ => Or.inl rfl⟩

theorem GrowsAlong.trans (h : GrowsAlong base paths tree tree')
    (h' : GrowsAlong base paths tree' tree'') : GrowsAlong base paths tree tree'' := by
  refine ⟨fun there shape hshape => h'.isPart _ _ (h.isPart _ _ hshape), ?_⟩
  intro there
  rcases h'.surface there with hsame' | ⟨hnone', hempty', hnamed'⟩
  · rcases h.surface there with hsame | ⟨hnone, hempty, q, hmem, hlocate⟩
    · exact Or.inl (hsame'.trans hsame)
    · -- what a path named before it names afterwards, too
      exact Or.inr ⟨hnone, hsame'.trans hempty, q, hmem,
        FileTree.locateName_of_isPart h'.isPart hlocate⟩
  · rcases h.surface there with hsame | ⟨-, hempty, -⟩
    · exact Or.inr ⟨hsame ▸ hnone', hempty', hnamed'⟩
    · rw [hempty] at hnone'
      exact absurd hnone' nofun

/-- One directory. -/
theorem growsAlong_makeDirectory (h : tree.makeDirectory base q = .ok made) (hmem : q ∈ paths) :
    GrowsAlong base paths tree made := by
  obtain ⟨location, hlocate, hnone, hopen, rfl⟩ := exists_of_makeDirectory_ok h
  have hpart : tree.IsPart (tree.set location .empty) := FileTree.isPart_set hnone _
  refine ⟨hpart, ?_⟩
  intro there
  rw [FileTree.surface?_set_empty hnone hopen]
  by_cases hthere : there = location
  · subst hthere
    rw [if_pos rfl]
    refine Or.inr ⟨?_, rfl, q, hmem, FileTree.locateName_of_isPart hpart hlocate⟩
    rw [FileTree.surface?, hnone]
    rfl
  · rw [if_neg hthere]
    exact Or.inl rfl

/-- **All directories** along a path. -/
theorem growsAlong_makeAlong (paths : List Path) :
    GrowsAlong base paths tree (FileTree.makeAlong base paths tree).2 :=
  makeAlong_keeps (.refl base paths tree) fun _ _ _ hgrows hmem hmade =>
    hgrows.trans (growsAlong_makeDirectory hmade hmem)

/-! ### New directories -/

/-- Whether a path names an empty directory. -/
def NamesEmpty (base : Location) (q : Path) (tree : FileTree) : Prop :=
  ∃ location, tree.locateName base q = .ok location ∧ tree.get? location = some .empty

theorem NamesEmpty.hasDirectory (h : NamesEmpty base q tree) :
    tree.hasDirectory base q = true := by
  obtain ⟨location, hlocate, hempty⟩ := h
  exact FileTree.hasDirectory_of_locateName hlocate hempty

/-- A directory that is made is there. -/
theorem namesEmpty_of_makeDirectory (hslashes : q.withoutLastSlashes = q)
    (h : tree.makeDirectory base q = .ok made) : NamesEmpty base q made := by
  obtain ⟨location, hlocate, hnone, hopen, rfl⟩ := exists_of_makeDirectory_ok h
  rw [hslashes] at hlocate
  exact ⟨location, FileTree.locateName_of_isPart (FileTree.isPart_set hnone _) hlocate,
    FileTree.get?_set_empty hnone hopen⟩

/-- A path with a name at its end leads into the directory that it lies in. -/
theorem exists_of_locateName_named {first segment : String} {stem : List String}
    (hbusy : Path.isIdle segment = false) (hup : segment ≠ "..")
    (h : tree.locateName base ⟨first :: (stem ++ [segment])⟩ = .ok location) :
    ∃ home, tree.followStem base (first :: stem) = .ok home ∧ location = home ++ [segment] := by
  have hne : segment ≠ "" := Path.ne_empty_of_not_isIdle hbusy
  have hfollow : FileTree.Followable (first :: stem) segment :=
    FileTree.followable_of_locateWith h
  have hconcat : tree.locateName base ⟨(first :: stem) ++ [segment]⟩ = _ :=
    FileTree.locateWith_concat hne hup (Or.inl rfl) hfollow
  rw [List.cons_append, h] at hconcat
  cases hstem : tree.followStem base (first :: stem) with
  | error fault =>
    rw [hstem] at hconcat
    exact absurd hconcat nofun
  | ok home =>
    rw [hstem] at hconcat
    exact ⟨home, rfl, FileTree.eq_of_enter hbusy hconcat.symm⟩

/-- **Nothing in it**: a path that lies in an empty directory and does not go up names
    nothing. -/
theorem get?_eq_none_of_namesEmpty (htidy : q.IsTidy) (hup : ∀ s ∈ q.segments, s ≠ "..")
    (hparent : q.parent? = some above) (hempty : NamesEmpty base above tree)
    (hlocate : tree.locateName base q = .ok location) : tree.get? location = none := by
  obtain ⟨home, hhome, hnode⟩ := hempty
  cases htidy with
  | empty => exact absurd hparent nofun
  | top => exact absurd hparent nofun
  | single filled =>
    -- the path without any text leads nowhere
    rw [Path.parent?_single filled, Option.some.injEq] at hparent
    subst hparent
    exact absurd hhome nofun
  | @named first segment stem busy =>
    obtain ⟨home', hstem, rfl⟩ := exists_of_locateName_named busy (hup segment (by simp)) hlocate
    have hsame : tree.locate base above = .ok home :=
      FileTree.locate_of_locateName hhome fun target => by
        rw [hnode]
        exact nofun
    -- both ways lead on from the segments that are not idle
    obtain ⟨idles, hidles, hidle⟩ := Path.exists_eq_dropIdle_append stem
    have hdown : tree.followStem base (first :: Path.dropIdle stem) = .ok home' := by
      apply FileTree.followStem_of_append_idle (by simp) hidle
      rw [List.cons_append, ← hidles]
      exact hstem
    have hdown' : tree.followStem base (first :: Path.dropIdle stem) = .ok home := by
      have hfollowed := FileTree.followStem_of_locate hsame
      rw [Path.parent?_named busy] at hparent
      split at hparent
      · next htop =>
        obtain rfl := Option.some.inj hparent
        rw [htop.1, htop.2]
        refine FileTree.followStem_of_append_idle (by simp) ?_ hfollowed
        intro s hs
        rw [List.mem_singleton.1 hs]
        rfl
      · obtain rfl := Option.some.inj hparent
        exact hfollowed
    obtain rfl := Except.ok.inj (hdown.symm.trans hdown')
    rw [FileTree.get?_append, hnode]
    rfl

/-- Without any path there is nothing to make. -/
theorem makeAlong_nil_ne_ok {ready : FileTree} :
    FileTree.makeAlong base [] tree ≠ (.ok (), ready) := by
  unfold FileTree.makeAlong
  intro h
  cases h

/-- One directory after those above: it is there before, or it is new. -/
theorem there_or_namesEmpty (hslashes : q.withoutLastSlashes = q)
    (habove : ∀ ready, FileTree.makeAlong base paths tree = (.ok (), ready) → ready = tree ∨
      ∀ location, ready.locateName base q = .ok location → ready.get? location = none)
    (h : FileTree.makeAlong base (q :: paths) tree = (.ok (), made)) :
    made = tree ∧ (q = .empty ∨ tree.hasDirectory base q = true) ∨ NamesEmpty base q made := by
  by_cases hempty : q = .empty
  · unfold FileTree.makeAlong at h
    rw [if_pos hempty] at h
    exact Or.inl ⟨(Prod.mk.inj h).2.symm, Or.inl hempty⟩
  · -- what is above is made only if the directory cannot be made at once
    by_cases hmissing : tree.makeDirectory base q = .error .notFound
    · cases hready : FileTree.makeAlong base paths tree with
      | mk answer ready =>
        cases answer with
        | error fault =>
          rw [makeAlong_cons_of_error hempty hmissing hready] at h
          cases h
        | ok u =>
          rw [makeAlong_cons_of_ok hempty hmissing hready] at h
          rcases makeOne_eq_ok h with hmade | ⟨rfl, hdirectory⟩
          · exact Or.inr (namesEmpty_of_makeDirectory hslashes hmade)
          · rcases habove made hready with rfl | hnothing
            · exact Or.inl ⟨rfl, Or.inr hdirectory⟩
            · rw [FileTree.hasDirectory_eq_false hnothing] at hdirectory
              exact absurd hdirectory Bool.false_ne_true
    · rw [makeAlong_cons hempty hmissing] at h
      rcases makeOne_eq_ok h with hmade | ⟨rfl, hdirectory⟩
      · exact Or.inr (namesEmpty_of_makeDirectory hslashes hmade)
      · exact Or.inl ⟨rfl, Or.inr hdirectory⟩

/-- **There or new**: making a directory with those above it, along a path that does not go up,
    finds it there and changes nothing, or ends with an empty directory. -/
theorem there_or_namesEmpty_of_makeAlong (n : Nat) (htidy : q.IsTidy)
    (hup : ∀ s ∈ q.segments, s ≠ "..")
    (h : FileTree.makeAlong base (q.ancestorsUpTo n) tree = (.ok (), made)) :
    made = tree ∧ (q = .empty ∨ tree.hasDirectory base q = true) ∨ NamesEmpty base q made := by
  induction n generalizing q made with
  | zero =>
    exact there_or_namesEmpty htidy.withoutLastSlashes
      (fun _ hready => absurd hready makeAlong_nil_ne_ok) h
  | succ n ih =>
    unfold Path.ancestorsUpTo at h
    cases hparent : q.parent? with
    | none =>
      rw [hparent] at h
      exact there_or_namesEmpty htidy.withoutLastSlashes
        (fun _ hready => absurd hready makeAlong_nil_ne_ok) h
    | some above =>
      rw [hparent] at h
      -- where a directory above is new there is nothing in it
      refine there_or_namesEmpty htidy.withoutLastSlashes ?_ h
      intro ready hready
      have hupAbove : ∀ s ∈ above.segments, s ≠ ".." := by
        intro s hs
        rcases Path.mem_of_parent? hparent hs with rfl | hmem
        · decide
        · exact hup s hmem
      rcases ih (Path.isTidy_of_parent? hparent) hupAbove hready with ⟨hsame, -⟩ | hempty
      · exact Or.inl hsame
      · exact Or.inr fun location hlocate =>
          get?_eq_none_of_namesEmpty htidy hup hparent hempty hlocate

end MapAudit.Scratch
