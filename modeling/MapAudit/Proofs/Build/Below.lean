import MapAudit.Proofs.Build.Ancestors

/-! # Below a directory

    What paths lead to that go down by names from a directory in which there is nothing special,
    only directories and files: going down comes to an end at a file, or where nothing is, if not
    at the last name. Directories along the names can be made unless a file is in the way, and
    nothing else changes then.
-/

namespace MapAudit

open FileTree (Followable)

variable {base home location there : Location} {tree made : FileTree} {directory : Path}
  {names way init : List String} {last name : String}

/-! ### Down from a directory -/

/-- The path that **leads down** from a directory by names. -/
def Path.down (directory : Path) (names : List String) : Path :=
  ⟨directory.segments ++ names⟩

/-- Whether names can be followed from a directory: they are names, and neither they nor the
    paths that they make are too long. -/
structure Passes (directory : Path) (names : List String) : Prop where
  /-- None leads nowhere or up. -/
  ordinary : ∀ name ∈ names, Scratch.IsOrdinary name
  /-- None is too long. -/
  short : ∀ name ∈ names, name.utf8ByteSize ≤ FileTree.maxNameSize
  /-- No path is too long. -/
  followable : ∀ init last, init ++ [last] <+: names → Followable (directory.segments ++ init) last

theorem Passes.of_prefix (h : Passes directory names) (hway : way <+: names) :
    Passes directory way where
  ordinary name hname := h.ordinary name (hway.subset hname)
  short name hname := h.short name (hway.subset hname)
  followable init last hinit := h.followable init last (hinit.trans hway)

theorem Passes.of_concat (h : Passes directory (init ++ [last])) : Passes directory init :=
  h.of_prefix (List.prefix_append _ _)

/-- Whether there is **nothing special** at a location and below it: directories as they are when
    they are made, and files. -/
structure IsOwn (home : Location) (tree : FileTree) : Prop where
  /-- A directory is there. -/
  top : tree.surface? home = some .empty
  /-- Below are directories and files. -/
  below : ∀ way node, tree.surface? (home ++ way) = some node →
    node = .empty ∨ ∃ f, node = .file f

/-- Whether a path **reaches** such a directory. -/
structure Reaches (base : Location) (directory : Path) (home : Location) (tree : FileTree) :
    Prop where
  /-- The path ends with a name. -/
  named : ∃ stem name, directory = ⟨stem ++ [name]⟩ ∧ Scratch.IsOrdinary name
  /-- It names the directory. -/
  leads : tree.locateName base directory = .ok home
  /-- There is nothing special. -/
  own : IsOwn home tree

/-! ### Nodes below -/

namespace FileTree

theorem get?_eq_none_iff_surface? : tree.get? there = none ↔ tree.surface? there = none :=
  Option.map_eq_none_iff.symm

theorem surface?_of_get? {node : FileTree} (h : tree.get? there = some node) :
    tree.surface? there = some node.surface :=
  Option.map_eq_some_iff.2 ⟨node, h, rfl⟩

theorem get?_of_surface?_empty (h : tree.surface? there = some .empty) :
    ∃ entries, tree.get? there = some (.directory (.usual 0o755) entries) := by
  obtain ⟨node, hnode, hsurface⟩ := Option.map_eq_some_iff.1 h
  cases node with
  | directory a entries =>
    obtain ⟨rfl, -⟩ := FileTree.directory.inj hsurface
    exact ⟨entries, hnode⟩
  | file f => exact absurd hsurface nofun
  | link target => exact absurd hsurface nofun
  | pipe n => exact absurd hsurface nofun
  | device d => exact absurd hsurface nofun

theorem get?_of_surface?_file {f : File} (h : tree.surface? there = some (.file f)) :
    tree.get? there = some (.file f) := by
  obtain ⟨node, hnode, hsurface⟩ := Option.map_eq_some_iff.1 h
  cases node with
  | file g => exact hsurface ▸ hnode
  | directory a entries => exact absurd hsurface nofun
  | link target => exact absurd hsurface nofun
  | pipe n => exact absurd hsurface nofun
  | device d => exact absurd hsurface nofun

end FileTree

/-- New nodes may be put into a directory as it is when it is made. -/
theorem isOpenAbove_of_surface? (h : tree.surface? location = some .empty) (name : String) :
    tree.isOpenAbove (location ++ [name]) = true := by
  obtain ⟨entries, hnode⟩ := FileTree.get?_of_surface?_empty h
  unfold FileTree.isOpenAbove
  rw [List.dropLast_concat, hnode]
  show ((Attributes.usual 0o755).isWritable && (Attributes.usual 0o755).isPassable) = true
  decide

theorem IsOwn.cases (h : IsOwn home tree) (way : List String) :
    tree.surface? (home ++ way) = none ∨ tree.surface? (home ++ way) = some .empty ∨
      ∃ f, tree.surface? (home ++ way) = some (.file f) := by
  cases hnode : tree.surface? (home ++ way) with
  | none => exact Or.inl rfl
  | some node =>
    rcases h.below way node hnode with rfl | ⟨f, rfl⟩
    · exact Or.inr (Or.inl rfl)
    · exact Or.inr (Or.inr ⟨f, rfl⟩)

theorem IsOwn.not_link (h : IsOwn home tree) (way : List String) (target : Path) :
    tree.get? (home ++ way) ≠ some (.link target) := by
  intro hlink
  rcases h.below way _ (FileTree.surface?_of_get? hlink) with hempty | ⟨f, hfile⟩
  · exact absurd hempty nofun
  · exact absurd hfile nofun

/-- What is there is in directories. -/
theorem IsOwn.above (h : IsOwn home tree) (hnode : tree.surface? (home ++ names) ≠ none)
    (hway : way <+: names) (hne : way ≠ names) : tree.surface? (home ++ way) = some .empty := by
  obtain ⟨rest, rfl⟩ := hway
  obtain ⟨key, others, rfl⟩ := List.exists_cons_of_ne_nil (show rest ≠ [] by simpa using hne)
  rw [← List.append_assoc] at hnode
  rcases h.cases way with hnone | hempty | ⟨f, hfile⟩
  · rw [← FileTree.get?_eq_none_iff_surface?] at hnone
    have hbelow := FileTree.get?_append_of_none hnone (key :: others)
    exact absurd (FileTree.get?_eq_none_iff_surface?.1 hbelow) hnode
  · exact hempty
  · have hbelow : tree.get? (home ++ way ++ key :: others) = none := by
      rw [FileTree.get?_append, FileTree.get?_of_surface?_file hfile]
      rfl
    exact absurd (FileTree.get?_eq_none_iff_surface?.1 hbelow) hnode

/-- **Going down** comes to an end at a file, or where nothing is, if not at the last name. -/
inductive Descends (home : Location) (tree : FileTree) (names : List String) :
    Except FileFault Location → Prop where
  /-- All above are directories. -/
  | arrives (above : ∀ way, way <+: names → way ≠ names → tree.surface? (home ++ way) = some .empty) :
      Descends home tree names (.ok (home ++ names))
  /-- A file is on the way. -/
  | blocked {way : List String} {f : File} (ahead : way <+: names) (less : way ≠ names)
      (file : tree.surface? (home ++ way) = some (.file f)) :
      Descends home tree names (.error .notDirectory)
  /-- Something is missing, and no file is on the way. -/
  | misses (missing : tree.surface? (home ++ names.dropLast) = none)
      (free : ∀ way, way <+: names → way ≠ names → tree.surface? (home ++ way) = none ∨
        tree.surface? (home ++ way) = some .empty) :
      Descends home tree names (.error .notFound)

theorem not_concat_prefix : ¬ init ++ [last] <+: init := by
  intro h
  exact absurd h.length_le (by simp)

theorem prefix_concat_cases (h : way <+: init ++ [last]) (hne : way ≠ init ++ [last]) :
    way = init ∨ way <+: init ∧ way ≠ init := by
  rcases List.prefix_concat_iff.1 h with heq | hway
  · exact absurd heq hne
  · by_cases heq : way = init
    · exact Or.inl heq
    · exact Or.inr ⟨hway, heq⟩

/-- What holds of the way and of all ways ahead of it holds of all ways to it. -/
theorem forall_prefix_concat {P : List String → Prop} (hlast : P (init ++ [last]))
    (hinit : ∀ way, way <+: init → P way) : ∀ way, way <+: init ++ [last] → P way := by
  intro way hway
  rcases List.prefix_concat_iff.1 hway with rfl | hway
  · exact hlast
  · exact hinit way hway

/-- **One more name** to go down by. -/
theorem Descends.concat {result : Except FileFault Location}
    (hinit : Descends home tree init result) (h : IsOwn home tree)
    (hnames : Passes directory (init ++ [last])) :
    Descends home tree (init ++ [last]) (result.bind (tree.enter · last)) := by
  have hlast : last ∈ init ++ [last] := by simp
  cases hinit with
  | arrives above =>
    show Descends home tree (init ++ [last]) (tree.enter (home ++ init) last)
    -- what is at the end so far decides how it goes on
    rcases h.cases init with hnone | hempty | ⟨f, hfile⟩
    · rw [FileTree.enter_of_none (FileTree.get?_eq_none_iff_surface?.2 hnone)]
      refine .misses (by rwa [List.dropLast_concat]) ?_
      intro way hway hne
      rcases prefix_concat_cases hway hne with rfl | ⟨hway, hne⟩
      · exact Or.inl hnone
      · exact Or.inr (above way hway hne)
    · obtain ⟨entries, hnode⟩ := FileTree.get?_of_surface?_empty hempty
      rw [FileTree.enter_of_directory hnode (by decide) (hnames.ordinary last hlast).1
        (hnames.short last hlast), List.append_assoc]
      refine .arrives ?_
      intro way hway hne
      rcases prefix_concat_cases hway hne with rfl | ⟨hway, hne⟩
      · exact hempty
      · exact above way hway hne
    · rw [FileTree.enter_of_file (FileTree.get?_of_surface?_file hfile)]
      exact .blocked (List.prefix_append _ _) (by simp) hfile
  | blocked ahead less file =>
    exact .blocked (ahead.trans (List.prefix_append _ _))
      (fun heq => not_concat_prefix (heq ▸ ahead)) file
  | misses missing free =>
    -- nothing is below what is missing
    have hnone : tree.surface? (home ++ init) = none := by
      rw [← FileTree.get?_eq_none_iff_surface?] at missing ⊢
      have hbelow := FileTree.get?_append_of_none missing (init.drop (init.length - 1))
      rwa [List.append_assoc, List.dropLast_eq_take, List.take_append_drop] at hbelow
    refine .misses (by rwa [List.dropLast_concat]) ?_
    intro way hway hne
    rcases prefix_concat_cases hway hne with rfl | ⟨hway, hne⟩
    · exact Or.inl hnone
    · exact free way hway hne

theorem descends (h : IsOwn home tree) (hnames : Passes directory names) :
    Descends home tree names (tree.descend home names) := by
  induction names using List.reverseRecOn with
  | nil =>
    have hhere : tree.descend home [] = .ok (home ++ []) := by
      rw [List.append_nil]
      rfl
    rw [hhere]
    exact .arrives fun way hway hne => absurd (List.prefix_nil.1 hway) hne
  | append_singleton init last ih =>
    rw [FileTree.descend_concat]
    exact (ih hnames.of_concat).concat h hnames

/-! ### Paths that lead down -/

theorem Path.down_concat (directory : Path) (init : List String) (last : String) :
    directory.down (init ++ [last]) = ⟨directory.segments ++ init ++ [last]⟩ := by
  unfold Path.down
  rw [List.append_assoc]

theorem Passes.withoutLastSlashes (h : Passes directory (init ++ [last])) :
    (directory.down (init ++ [last])).withoutLastSlashes = directory.down (init ++ [last]) := by
  rw [Path.down_concat]
  exact Path.withoutLastSlashes_concat
    (Path.ne_empty_of_not_isIdle (h.ordinary last (by simp)).1)

theorem Passes.ne_empty (h : Passes directory (init ++ [last])) :
    directory.down (init ++ [last]) ≠ .empty := by
  rw [Path.down_concat]
  exact Path.concat_ne_empty (Path.ne_empty_of_not_isIdle (h.ordinary last (by simp)).1)

theorem Path.down_nil (directory : Path) : directory.down [] = directory := by
  unfold Path.down
  rw [List.append_nil]

namespace Reaches

variable (h : Reaches base directory home tree)
include h

theorem segments_ne_nil : directory.segments ≠ [] := by
  obtain ⟨stem, name, rfl, -⟩ := h.named
  exact List.concat_ne_nil _ _

theorem locate : tree.locate base directory = .ok home := by
  apply FileTree.locate_of_locateName h.leads
  intro target
  have hlink := h.own.not_link [] target
  rwa [List.append_nil] at hlink

theorem followStem_down (hnames : Passes directory names) :
    tree.followStem base (directory.segments ++ names) = tree.descend home names :=
  FileTree.followStem_append h.segments_ne_nil (FileTree.followStem_of_locate h.locate)
    hnames.ordinary fun way _ target => h.own.not_link way target

/-- **Down**: a path that leads down from the directory names what is below it. -/
theorem locateName_down (hnames : Passes directory (init ++ [last])) :
    tree.locateName base (directory.down (init ++ [last])) =
      tree.descend home (init ++ [last]) := by
  have hlast : Scratch.IsOrdinary last := hnames.ordinary last (by simp)
  rw [Path.down_concat, FileTree.descend_concat, ← h.followStem_down hnames.of_concat]
  exact FileTree.locateWith_concat (Path.ne_empty_of_not_isIdle hlast.1) hlast.2 (Or.inl rfl)
    (hnames.followable init last (List.prefix_refl _))

/-- It leads there, too. -/
theorem locate_down (hnames : Passes directory (init ++ [last])) :
    tree.locate base (directory.down (init ++ [last])) = tree.descend home (init ++ [last]) := by
  have hlast : Scratch.IsOrdinary last := hnames.ordinary last (by simp)
  rw [← h.followStem_down hnames, Path.down_concat, ← List.append_assoc]
  exact FileTree.locate_eq_followStem (Path.ne_empty_of_not_isIdle hlast.1)
    (hnames.followable init last (List.prefix_refl _))

/-- Looking for a directory there. -/
theorem hasDirectory_down (hnames : Passes directory (init ++ [last])) :
    tree.hasDirectory base (directory.down (init ++ [last])) = true ↔
      tree.surface? (home ++ (init ++ [last])) = some .empty := by
  unfold FileTree.hasDirectory FileTree.find
  rw [h.locate_down hnames]
  have hdescends := descends h.own hnames
  generalize tree.descend home (init ++ [last]) = result at hdescends ⊢
  cases hdescends with
  | arrives above =>
    dsimp only [bind, Except.bind]
    rcases h.own.cases (init ++ [last]) with hnone | hempty | ⟨f, hfile⟩
    · rw [FileTree.get?_eq_none_iff_surface?.2 hnone, hnone]
      exact iff_of_false Bool.false_ne_true nofun
    · obtain ⟨entries, hnode⟩ := FileTree.get?_of_surface?_empty hempty
      rw [hnode]
      exact iff_of_true rfl hempty
    · rw [FileTree.get?_of_surface?_file hfile, hfile]
      exact iff_of_false Bool.false_ne_true nofun
  | blocked ahead less file =>
    -- below a file there is nothing
    apply iff_of_false Bool.false_ne_true
    intro hempty
    have habove := h.own.above (by rw [hempty]; exact nofun) ahead less
    rw [file] at habove
    exact absurd habove nofun
  | misses missing free =>
    -- nor is there anything below what is missing
    apply iff_of_false Bool.false_ne_true
    intro hempty
    have habove := h.own.above (by rw [hempty]; exact nofun) (List.dropLast_prefix _) (by simp)
    rw [missing] at habove
    exact absurd habove nofun

/-- It stays so when more is put there, as long as that is nothing special. -/
theorem extend {tree' : FileTree}
    (hkept : ∀ there node, tree.surface? there = some node → tree'.surface? there = some node)
    (hnew : ∀ way node, tree'.surface? (home ++ way) = some node →
      node = .empty ∨ ∃ f, node = .file f) : Reaches base directory home tree' where
  named := h.named
  leads := by
    refine FileTree.locateName_of_isPart ?_ h.leads
    intro there shape hshape
    rw [FileTree.shape?_eq_map_surface?] at hshape ⊢
    obtain ⟨node, hnode, rfl⟩ := Option.map_eq_some_iff.1 hshape
    rw [hkept there node hnode]
    rfl
  own := ⟨hkept home _ h.own.top, hnew⟩

/-! ### Making directories further down -/

/-- In a directory that is there, going down comes to the last name. -/
theorem locateName_of_above (hnames : Passes directory (init ++ [last]))
    (habove : tree.surface? (home ++ init) = some .empty) :
    tree.locateName base (directory.down (init ++ [last])) = .ok (home ++ (init ++ [last])) := by
  rw [h.locateName_down hnames]
  have hdescends := descends h.own hnames
  generalize tree.descend home (init ++ [last]) = result at hdescends ⊢
  -- a file on the way or a gap would be above the directory
  cases hdescends with
  | arrives above => rfl
  | @blocked way f ahead less file =>
    rcases prefix_concat_cases ahead less with rfl | ⟨hway, hne⟩
    · rw [habove] at file
      exact absurd file nofun
    · have hway' := h.own.above (by rw [habove]; exact nofun) hway hne
      rw [hway'] at file
      exact absurd file nofun
  | misses missing free =>
    rw [List.dropLast_concat, habove] at missing
    exact absurd missing nofun

/-- What is found in the directory is what is there. -/
theorem find_child (hname : Passes directory [name]) : tree.find base (directory.down [name]) =
    (tree.get? (home ++ [name])).elim (.error .notFound) .ok := by
  have htop : tree.surface? (home ++ []) = some .empty := by
    rw [List.append_nil]
    exact h.own.top
  have hname' : Passes directory ([] ++ [name]) := hname
  have hlocate := h.locateName_of_above hname' htop
  rw [h.locateName_down hname', ← h.locate_down hname'] at hlocate
  exact Scratch.find_of_locate hlocate

/-- The directory of a path that leads down. -/
theorem parent?_down (hnames : Passes directory (init ++ [last])) :
    (directory.down (init ++ [last])).parent? = some (directory.down init) := by
  obtain ⟨stem, name, hdirectory, hname⟩ := h.named
  have hlast : Scratch.IsOrdinary last := hnames.ordinary last (by simp)
  -- the name before the last one is one of those, or that of the directory
  have hbefore : ∃ stem' name', directory.segments ++ init = stem' ++ [name'] ∧
      Scratch.IsOrdinary name' := by
    rcases List.eq_nil_or_concat init with rfl | ⟨init', name', rfl⟩
    · exact ⟨stem, name, by rw [List.append_nil, hdirectory], hname⟩
    · rw [List.concat_eq_append] at hnames ⊢
      refine ⟨directory.segments ++ init', name', by rw [List.append_assoc], ?_⟩
      exact hnames.ordinary name' (by simp)
  obtain ⟨stem', name', hconcat, hname'⟩ := hbefore
  rw [Path.down_concat, hconcat]
  unfold Path.down
  rw [hconcat]
  exact Path.parent?_concat (Path.ne_empty_of_not_isIdle hname'.1) hname'.1 hlast.1

end Reaches

/-- What **making directories** along names comes to: all of them are there afterwards, or a file
    is in the way and nothing changes. -/
inductive MadeDown (home : Location) (names : List String) (tree : FileTree) :
    Except FileFault Unit × FileTree → Prop where
  /-- All of them are there. -/
  | made {made : FileTree}
      (free : ∀ way, way <+: names → ∀ f, tree.surface? (home ++ way) ≠ some (.file f))
      (along : ∀ way, way <+: names → made.surface? (home ++ way) = some .empty)
      (elsewhere : ∀ there, (∀ way, way <+: names → there ≠ home ++ way) →
        made.surface? there = tree.surface? there) :
      MadeDown home names tree (.ok (), made)
  /-- A file is in the way. -/
  | blocked {fault : FileFault} {way : List String} {f : File} (ahead : way <+: names)
      (file : tree.surface? (home ++ way) = some (.file f)) :
      MadeDown home names tree (.error fault, tree)

/-- The last of them is there, and nothing changes at a name in it, or outside. -/
theorem MadeDown.spec (h : MadeDown home init tree (.ok (), made))
    (hnames : names = init ++ [last]) : made.surface? (home ++ init) = some .empty ∧
      made.surface? (home ++ names) = tree.surface? (home ++ names) ∧
      ∀ there, ¬ home <+: there → made.surface? there = tree.surface? there := by
  cases h with
  | made free along elsewhere =>
    refine ⟨along init (List.prefix_refl _), elsewhere _ ?_,
      fun there hthere => elsewhere there ?_⟩
    · intro way hway heq
      exact not_concat_prefix (hnames ▸ List.append_cancel_left heq ▸ hway)
    · intro way _ heq
      exact hthere (heq ▸ List.prefix_append _ _)

/-- What was there before stays. -/
theorem MadeDown.kept (h : MadeDown home names tree (.ok (), made)) (hown : IsOwn home tree)
    {node : FileTree} (hnode : tree.surface? there = some node) :
    made.surface? there = some node := by
  cases h with
  | made free along elsewhere =>
    by_cases hway : ∃ way, way <+: names ∧ there = home ++ way
    · obtain ⟨way, hway, rfl⟩ := hway
      rw [along way hway]
      rcases hown.below way node hnode with rfl | ⟨f, rfl⟩
      · rfl
      · exact absurd hnode (free way hway f)
    · rw [elsewhere there fun way hbegins heq => hway ⟨way, hbegins, heq⟩, hnode]

/-- The directory is reached afterwards. -/
theorem Reaches.of_madeDown (h : Reaches base directory home tree)
    (hmade : MadeDown home names tree (.ok (), made)) : Reaches base directory home made := by
  apply h.extend (fun there node hnode => hmade.kept h.own hnode)
  intro way node hnode
  cases hmade with
  | made free along elsewhere =>
    by_cases hway : way <+: names
    · rw [along way hway, Option.some.injEq] at hnode
      exact Or.inl hnode.symm
    · apply h.own.below way node
      rwa [elsewhere (home ++ way) fun way' hway' heq =>
        hway (List.append_cancel_left heq ▸ hway')] at hnode

/-- Nothing is to be made where all directories are there. -/
theorem madeDown_of_all (hall : ∀ way, way <+: names → tree.surface? (home ++ way) = some .empty) :
    MadeDown home names tree (.ok (), tree) := by
  refine .made ?_ hall fun _ _ => rfl
  intro way hway f hfile
  rw [hall way hway] at hfile
  exact absurd hfile nofun

/-- **One more directory**, in one that is there. -/
theorem madeDown_makeOne (h : Reaches base directory home tree)
    (hnames : Passes directory (init ++ [last]))
    (habove : tree.surface? (home ++ init) = some .empty) :
    MadeDown home (init ++ [last]) tree
      (Scratch.makeOne base (directory.down (init ++ [last])) tree) := by
  have hlocate := h.locateName_of_above hnames habove
  have hdirectory := h.hasDirectory_down hnames
  have hinit : ∀ way, way <+: init → tree.surface? (home ++ way) = some .empty := by
    intro way hway
    by_cases heq : way = init
    · rw [heq, habove]
    · exact h.own.above (by rw [habove]; exact nofun) hway heq
  rw [← hnames.withoutLastSlashes] at hlocate
  unfold Scratch.makeOne
  rw [Scratch.makeDirectory_of_locateName hlocate]
  rcases h.own.cases (init ++ [last]) with hnone | hempty | ⟨f, hfile⟩
  · -- it is made
    have hnode := FileTree.get?_eq_none_iff_surface?.2 hnone
    have hopen : tree.isOpenAbove (home ++ (init ++ [last])) = true := by
      rw [← List.append_assoc]
      exact isOpenAbove_of_surface? habove last
    rw [hnode, Option.isSome_none, if_neg Bool.false_ne_true, if_pos hopen]
    have hfree : ∀ way, way <+: init ++ [last] →
        ∀ f, tree.surface? (home ++ way) ≠ some (.file f) := by
      apply forall_prefix_concat
      · intro f hfile
        exact absurd (hfile.symm.trans hnone) nofun
      · intro way hway f hfile
        exact absurd (hfile.symm.trans (hinit way hway)) nofun
    refine .made hfree (forall_prefix_concat ?_ ?_) ?_
    · rw [FileTree.surface?_set_empty hnode hopen, if_pos rfl]
    · intro way hway
      rw [FileTree.surface?_set_empty hnode hopen, hinit way hway, ite_self]
    · intro there hthere
      rw [FileTree.surface?_set_empty hnode hopen, if_neg (hthere _ (List.prefix_refl _))]
  · -- it is there already
    obtain ⟨entries, hnode⟩ := FileTree.get?_of_surface?_empty hempty
    rw [hnode, Option.isSome_some, if_pos rfl]
    dsimp only
    rw [if_pos (hdirectory.2 hempty)]
    exact madeDown_of_all (forall_prefix_concat hempty hinit)
  · -- a file is there
    rw [FileTree.get?_of_surface?_file hfile, Option.isSome_some, if_pos rfl]
    dsimp only
    rw [if_neg fun hyes => absurd (hfile.symm.trans (hdirectory.1 hyes)) nofun]
    exact .blocked (List.prefix_refl _) hfile

/-- First the directories along names, then one more. -/
theorem MadeDown.concat {result : Except FileFault Unit × FileTree}
    (h : MadeDown home init tree (.ok (), made))
    (hnone : tree.surface? (home ++ (init ++ [last])) = none)
    (h' : MadeDown home (init ++ [last]) made result) :
    MadeDown home (init ++ [last]) tree result := by
  have hsame : made.surface? (home ++ (init ++ [last])) = none := by
    rw [(h.spec rfl).2.1, hnone]
  cases h with
  | made free along elsewhere =>
    cases h' with
    | made free' along' elsewhere' =>
      have hfree : ∀ way, way <+: init ++ [last] →
          ∀ f, tree.surface? (home ++ way) ≠ some (.file f) :=
        forall_prefix_concat (fun f hfile => absurd (hfile.symm.trans hnone) nofun) free
      refine .made hfree along' ?_
      intro there hthere
      rw [elsewhere' there hthere]
      exact elsewhere there fun way hway => hthere way (hway.trans (List.prefix_append _ _))
    | blocked ahead file =>
      -- the directories made first leave no file in the way
      rcases List.prefix_concat_iff.1 ahead with rfl | hway
      · exact absurd (file.symm.trans hsame) nofun
      · exact absurd (file.symm.trans (along _ hway)) nofun

/-- The directory itself is there. -/
theorem Reaches.makeAlong_self (h : Reaches base directory home tree) (n : Nat) :
    FileTree.makeAlong base (directory.ancestorsUpTo n) tree = (.ok (), tree) := by
  obtain ⟨stem, name, rfl, hname⟩ := h.named
  have hne : name ≠ "" := Path.ne_empty_of_not_isIdle hname.1
  obtain ⟨entries, hnode⟩ := FileTree.get?_of_surface?_empty h.own.top
  have hlocate := h.leads
  rw [← Path.withoutLastSlashes_concat hne] at hlocate
  have hmake := Scratch.makeDirectory_of_locateName hlocate
  rw [hnode, Option.isSome_some, if_pos rfl] at hmake
  rw [Scratch.ancestorsUpTo_eq,
    Scratch.makeAlong_cons (Path.concat_ne_empty hne) (by rw [hmake]; exact nofun)]
  unfold Scratch.makeOne
  rw [hmake]
  dsimp only
  rw [if_pos (FileTree.hasDirectory_of_locateName h.leads hnode)]

/-- **Directories along names**: those that are missing are made, unless a file is in the way. -/
theorem madeDown_makeAlong (h : Reaches base directory home tree) (hnames : Passes directory names)
    {n : Nat} (hn : names.length ≤ n) :
    MadeDown home names tree
      (FileTree.makeAlong base ((directory.down names).ancestorsUpTo n) tree) := by
  induction names using List.reverseRecOn generalizing n with
  | nil =>
    rw [Path.down_nil, h.makeAlong_self]
    apply madeDown_of_all
    intro way hway
    rw [List.prefix_nil.1 hway, List.append_nil]
    exact h.own.top
  | append_singleton init last ih =>
    obtain ⟨m, rfl⟩ : ∃ m, n = m + 1 := ⟨n - 1, by simp at hn; omega⟩
    have hm : init.length ≤ m := by simpa using hn
    have hne := hnames.ne_empty
    have hmade := ih hnames.of_concat hm
    rw [Scratch.ancestorsUpTo_succ (h.parent?_down hnames)]
    have hlocate := h.locateName_down hnames
    have hdescends := descends h.own hnames
    rw [← hnames.withoutLastSlashes] at hlocate
    rw [← hlocate] at hdescends
    generalize hresult : tree.locateName base (directory.down (init ++ [last])).withoutLastSlashes =
      result at hdescends
    -- going down tells what making the last directory at once comes to
    cases hdescends with
    | arrives above =>
      have habove : tree.surface? (home ++ init) = some .empty :=
        above init (List.prefix_append _ _) (by simp)
      have hthere : tree.makeDirectory base (directory.down (init ++ [last])) ≠
          .error .notFound := by
        rw [Scratch.makeDirectory_of_locateName hresult]
        split
        · exact nofun
        · split <;> exact nofun
      rw [Scratch.makeAlong_cons hne hthere]
      exact madeDown_makeOne h hnames habove
    | @blocked way f ahead less file =>
      have hmake := Scratch.makeDirectory_of_error hresult
      rw [Scratch.makeAlong_cons hne (by rw [hmake]; exact nofun)]
      unfold Scratch.makeOne
      rw [hmake]
      dsimp only
      rw [if_neg fun hyes => ?_]
      · exact .blocked ahead file
      · have hempty := (h.hasDirectory_down hnames).1 hyes
        have hway := h.own.above (by rw [hempty]; exact nofun) ahead less
        exact absurd (file.symm.trans hway) nofun
    | misses missing free =>
      -- those ahead are made first, and then the last one is tried once more
      have hmake := Scratch.makeDirectory_of_error hresult
      generalize hready : FileTree.makeAlong base ((directory.down init).ancestorsUpTo m) tree =
        ready at hmade
      cases hmade with
      | @made ready' free' along elsewhere =>
        have hmade : MadeDown home init tree (.ok (), ready') := .made free' along elsewhere
        rw [Scratch.makeAlong_cons_of_ok hne hmake hready]
        have habove : ready'.surface? (home ++ init) = some .empty :=
          along init (List.prefix_refl _)
        refine hmade.concat ?_ (madeDown_makeOne (h.of_madeDown hmade) hnames habove)
        rw [List.dropLast_concat, ← FileTree.get?_eq_none_iff_surface?] at missing
        rw [← FileTree.get?_eq_none_iff_surface?, ← List.append_assoc]
        exact FileTree.get?_append_of_none missing [last]
      | @blocked fault way f ahead file =>
        have hway : way ≠ init ++ [last] := by
          rintro rfl
          exact not_concat_prefix ahead
        rcases free way (ahead.trans (List.prefix_append _ _)) hway with hnone | hempty
        · exact absurd (file.symm.trans hnone) nofun
        · exact absurd (file.symm.trans hempty) nofun

end MapAudit
