import MapAudit.Proofs.Files.Following
import MapAudit.Proofs.Files.Nodes
import Mathlib.Data.List.Infix

/-! # Parts of a tree

    A tree is part of another one if all that there is in it is there in the other one, too,
    in the same shape. What a path names in the part it names in the whole: it takes the same
    way, and what is more in the whole lies off that way, or at its end.

    A tree from which something is taken away is part of what it was before, and a tree is
    part of what it is after something new is put into it.
-/

namespace MapAudit.FileTree

variable {tree small big node : FileTree} {base here there location above : Location}
  {name : String} {p : Path} {a : Attributes} {entries : List (String × FileTree)}

/-- **Part of a tree**: what is there is there in the other tree, in the same shape. -/
def IsPart (small big : FileTree) : Prop :=
  ∀ location shape, small.shape? location = some shape → big.shape? location = some shape

theorem IsPart.refl (tree : FileTree) : IsPart tree tree :=
  fun _ _ h => h

/-! ### Ways -/

/-- A way can only go on from a directory. -/
theorem exists_shape?_of_walk {followLast : Bool}
    {atLink : Location → Path → List String → Except FileFault Location} {segments : List String}
    (hne : segments ≠ []) (h : tree.walk followLast atLink here segments = .ok location) :
    ∃ a, tree.shape? here = some (.directory a) := by
  obtain ⟨segment, rest, rfl⟩ := List.exists_cons_of_ne_nil hne
  unfold walk at h
  split at h
  · exact absurd h nofun
  · next a entries hhere => exact ⟨a, shape?_eq_directory_iff.2 ⟨entries, hhere⟩⟩
  · exact absurd h nofun

/-- From a directory of the part, a segment leads to the same in the whole, unless nothing is
    there in the part and a link in the whole. -/
theorem lead_of_isPart {segment : String} (h : IsPart small big)
    (hhere : small.shape? here = some (.directory a)) :
    big.lead here segment = small.lead here segment ∨
      small.get? (here ++ [segment]) = none ∧
        small.lead here segment = .goes (here ++ [segment]) ∧
        ∃ target, big.lead here segment = .link target := by
  obtain ⟨entries, hsmall⟩ := shape?_eq_directory_iff.1 hhere
  obtain ⟨entries', hbig⟩ := shape?_eq_directory_iff.1 (h _ _ hhere)
  simp only [lead, hsmall, hbig]
  by_cases hpass : (!a.isPassable) = true
  · simp only [if_pos hpass, true_or]
  by_cases hidle : Path.isIdle segment = true
  · simp only [if_neg hpass, if_pos hidle, true_or]
  by_cases hdots : segment = ".."
  · simp only [if_neg hpass, if_neg hidle, if_pos hdots, true_or]
  by_cases hlong : maxNameSize < segment.utf8ByteSize
  · simp only [if_neg hpass, if_neg hidle, if_neg hdots, if_pos hlong, true_or]
  simp only [if_neg hpass, if_neg hidle, if_neg hdots, if_neg hlong]
  -- what counts is whether a link is there
  cases hchild : small.get? (here ++ [segment]) with
  | none =>
    split
    · next target _ => exact Or.inr ⟨rfl, rfl, target, rfl⟩
    · exact Or.inl rfl
  | some child =>
    have hshape : big.shape? (here ++ [segment]) = some child.shape :=
      h _ _ (by rw [shape?, hchild, Option.map_some])
    obtain ⟨node, hnode, hsame⟩ := Option.map_eq_some_iff.1 hshape
    rw [hnode]
    cases child with
    | link target =>
      cases node with
      | link target' =>
        rw [Shape.link.inj hsame]
        exact Or.inl rfl
      | _ => cases hsame
    | _ =>
      cases node with
      | link target => cases hsame
      | _ => exact Or.inl rfl

theorem walk_of_isPart {atLink atLink' : Location → Path → List String → Except FileFault Location}
    {segments : List String} (h : IsPart small big)
    (hlink : ∀ here target rest location, atLink here target rest = .ok location →
      atLink' here target rest = .ok location)
    (hwalk : small.walk false atLink here segments = .ok location) :
    big.walk false atLink' here segments = .ok location := by
  induction segments generalizing here with
  | nil => exact hwalk
  | cons segment rest ih =>
    obtain ⟨a, hhere⟩ := exists_shape?_of_walk (List.cons_ne_nil segment rest) hwalk
    rw [walk_cons] at hwalk ⊢
    rcases lead_of_isPart h hhere with hsame | ⟨hnone, hlead, target, hbig⟩
    · rw [hsame]
      cases hlead : small.lead here segment with
      | nowhere fault =>
        rw [hlead] at hwalk
        cases hwalk
      | goes there =>
        rw [hlead] at hwalk
        exact ih hwalk
      | link target =>
        rw [hlead] at hwalk
        dsimp only at hwalk ⊢
        by_cases hrest : (rest.isEmpty && !false) = true
        · rw [if_pos hrest] at hwalk ⊢
          exact hwalk
        · rw [if_neg hrest] at hwalk ⊢
          exact hlink _ _ _ _ hwalk
    · -- where nothing is, the way is at its end
      rw [hlead] at hwalk
      obtain rfl : rest = [] := by
        by_contra hne
        obtain ⟨a', hthere⟩ := exists_shape?_of_walk hne hwalk
        rw [shape?, hnone] at hthere
        cases hthere
      rw [hbig]
      exact hwalk

theorem follow_of_isPart {links : Nat} {segments : List String} (h : IsPart small big)
    (hfollow : small.follow false links here segments = .ok location) :
    big.follow false links here segments = .ok location := by
  induction links generalizing here segments location with
  | zero =>
    refine walk_of_isPart h ?_ hfollow
    intro here target rest location hlink
    cases hlink
  | succ links ih =>
    refine walk_of_isPart h ?_ hfollow
    intro here target rest location hlink
    by_cases habsolute : target.isAbsolute = true
    · rw [if_pos habsolute] at hlink ⊢
      exact ih hlink
    · rw [if_neg habsolute] at hlink ⊢
      exact ih hlink

/-- **Names**: what a path names in a part of a tree it names in the whole. -/
theorem locateName_of_isPart (h : IsPart small big)
    (hlocate : small.locateName base p = .ok location) :
    big.locateName base p = .ok location := by
  obtain ⟨hname, hempty, hlong, hfollow⟩ := locateWith_eq_ok_iff.1 hlocate
  refine locateWith_eq_ok_iff.2 ⟨hname, hempty, hlong, ?_⟩
  by_cases habsolute : p.isAbsolute = true
  · rw [if_pos habsolute] at hfollow ⊢
    exact follow_of_isPart h hfollow
  · rw [if_neg habsolute] at hfollow ⊢
    exact follow_of_isPart h hfollow

/-! ### Changes -/

/-- What is left when something is taken away is part of what was there. -/
theorem isPart_erase (h : tree.get? above = some (directory a entries)) :
    IsPart (tree.erase (above ++ [name])) tree := by
  intro there shape hshape
  by_cases hbelow : above ++ [name] <+: there
  · obtain ⟨rest, rfl⟩ := hbelow
    have hnone := get?_append_of_none (get?_erase_entry h name) rest
    rw [FileTree.shape?, hnone] at hshape
    cases hshape
  · rwa [shape?_erase h hbelow] at hshape

/-- What was there is part of what there is when something new is put into it. -/
theorem isPart_set (h : tree.get? here = none) (node : FileTree) :
    IsPart tree (tree.set here node) := by
  intro there shape hshape
  by_cases hbelow : here <+: there
  · obtain ⟨rest, rfl⟩ := hbelow
    rw [FileTree.shape?, get?_append_of_none h rest] at hshape
    cases hshape
  · rwa [shape?_set hbelow]

/-- Where a new directory can be made, it is in one that is there. -/
theorem exists_of_isOpenAbove (hnone : tree.get? here = none)
    (hopen : tree.isOpenAbove here = true) : ∃ above name a entries, here = above ++ [name] ∧
      tree.get? above = some (directory a entries) := by
  rcases List.eq_nil_or_concat here with rfl | ⟨above, name, rfl⟩
  · exact absurd ((get?_nil tree).symm.trans hnone) nofun
  · rw [List.concat_eq_append] at *
    unfold isOpenAbove at hopen
    rw [List.dropLast_concat] at hopen
    split at hopen
    · next a entries habove => exact ⟨above, name, a, entries, rfl, habove⟩
    · exact absurd hopen Bool.false_ne_true

section New

variable (hnone : tree.get? here = none) (hopen : tree.isOpenAbove here = true)
include hnone hopen

theorem get?_set_new (node : FileTree) : (tree.set here node).get? here = some node := by
  obtain ⟨above, name, a, entries, rfl, habove⟩ := exists_of_isOpenAbove hnone hopen
  exact get?_set_entry habove name node

theorem get?_set_empty : (tree.set here .empty).get? here = some .empty :=
  get?_set_new hnone hopen .empty

/-- All that is new where a node with nothing in it is put is that node. -/
theorem surface?_set_bare (hbare : ∀ key rest, node.get? (key :: rest) = none) :
    (tree.set here node).surface? there =
      if there = here then some node.surface else tree.surface? there := by
  by_cases hbelow : here <+: there
  · obtain ⟨rest, rfl⟩ := hbelow
    rw [surface?, get?_append, get?_set_new hnone hopen]
    cases rest with
    | nil =>
      rw [List.append_nil, if_pos rfl, Option.bind_some, get?_nil]
      rfl
    | cons key others =>
      rw [if_neg (by simp), surface?, get?_append_of_none hnone, Option.bind_some, hbare]
  · have hne : there ≠ here := fun heq => hbelow (heq ▸ List.prefix_rfl)
    rw [if_neg hne, surface?_set hbelow]

/-- All that is new where a directory is made is that directory. -/
theorem surface?_set_empty : (tree.set here .empty).surface? there =
    if there = here then some .empty else tree.surface? there :=
  surface?_set_bare hnone hopen fun _ _ => rfl

end New

/-! ### Directories at the end of a path -/

/-- A directory that a path names is one that it leads to. -/
theorem hasDirectory_of_locateName (hlocate : tree.locateName base p = .ok location)
    (hnode : tree.get? location = some (directory a entries)) :
    tree.hasDirectory base p = true := by
  have hsame : tree.locate base p = .ok location :=
    locate_of_locateName hlocate fun target => by
      rw [hnode]
      exact nofun
  unfold hasDirectory find
  rw [hsame]
  dsimp only [bind, Except.bind]
  rw [hnode]

/-- Nothing is found where a path names nothing. -/
theorem exists_find_error (h : ∀ location, tree.locateName base p = .ok location →
    tree.get? location = none) : ∃ fault, tree.find base p = .error fault := by
  have hsame : tree.locate base p = tree.locateName base p :=
    locate_eq_locateName fun location target hlocate => by
      rw [h location hlocate]
      exact nofun
  unfold find
  rw [hsame]
  cases hlocate : tree.locateName base p with
  | error fault => exact ⟨fault, rfl⟩
  | ok location =>
    dsimp only [bind, Except.bind]
    rw [h location hlocate]
    exact ⟨.notFound, rfl⟩

theorem hasDirectory_eq_false (h : ∀ location, tree.locateName base p = .ok location →
    tree.get? location = none) : tree.hasDirectory base p = false := by
  obtain ⟨fault, hfind⟩ := exists_find_error h
  unfold hasDirectory
  rw [hfind]

end MapAudit.FileTree
