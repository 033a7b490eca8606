import MapAudit.Build.Scratch
import MapAudit.Proofs.Files.Following
import MapAudit.Proofs.Files.Nodes
import MapAudit.Proofs.Files.Paths
import MapAudit.Proofs.Text.Words

/-! # Places of scratch directories

    Scratch directories are told from everything else by their names. A location is
    outside if no name on the way is that of a scratch directory, and a place is where
    one may be: a scratch name in a directory outside. No place lies in another one.

    The scratch root is settled if it leads to a directory whatever is in the scratch
    directories. It is rooted if it is settled, or cannot be gone through yet and will be
    settled when the directories that are missing are made. Then a path of a scratch
    directory leads to a place in the root and nowhere else.
-/

namespace MapAudit

namespace Scratch

/-! ### Names -/

/-- The name of the scratch directory with a number. -/
def nameOf (number : Nat) : String :=
  namePrefix ++ toString number

theorem toList_nameOf (number : Nat) :
    (nameOf number).toList = ".verify-source-map".toList ++ Nat.toDigits 10 number := by
  rw [nameOf, String.toList_append, Text.toList_toString]
  rfl

theorem nameOf_injective {m n : Nat} (h : nameOf m = nameOf n) : m = n := by
  have hlist := congrArg String.toList h
  rw [toList_nameOf, toList_nameOf] at hlist
  exact Text.digits_inj.1 (List.append_cancel_left hlist)

theorem nameOf_ne {number : Nat} {s : String} (h : s.toList.take 2 ≠ ['.', 'v']) :
    nameOf number ≠ s := by
  rintro rfl
  rw [toList_nameOf] at h
  exact h rfl

theorem nameOf_ne_empty (number : Nat) : nameOf number ≠ "" :=
  nameOf_ne (by decide)

theorem nameOf_ne_up (number : Nat) : nameOf number ≠ ".." :=
  nameOf_ne (by decide)

theorem not_isIdle_nameOf (number : Nat) : Path.isIdle (nameOf number) = false := by
  have hdot : nameOf number ≠ "." := nameOf_ne (by decide)
  simp [Path.isIdle, nameOf_ne_empty, hdot]

theorem no_nul_nameOf (number : Nat) : (nameOf number).toList.contains '\x00' = false := by
  rw [toList_nameOf, List.contains_eq_mem]
  apply decide_eq_false
  intro h
  rcases List.mem_append.1 h with h | h
  · exact absurd h (by decide)
  · exact Text.not_mem_digits (by decide) number h

theorem pathOf_eq (root : Path) (number : Nat) :
    pathOf root number = ⟨root.stem ++ [nameOf number]⟩ :=
  Path.join_segment root _

/-! ### Locations -/

/-- **Outside**: no name on the way is that of a scratch directory. -/
def Outside (location : Location) : Prop :=
  ∀ name ∈ location, ∀ number, name ≠ nameOf number

/-- **Place** of a scratch directory: a scratch name in a directory outside. -/
def IsPlace (location : Location) : Prop :=
  ∃ above number, Outside above ∧ location = above ++ [nameOf number]

variable {place place' location location' : Location} {number number' : Nat} {root : Path}

theorem isPlace_concat (h : Outside location) (number : Nat) :
    IsPlace (location ++ [nameOf number]) :=
  ⟨location, number, h, rfl⟩

/-- No location outside is in a place. -/
theorem IsPlace.not_prefix_outside (h : IsPlace place) (hlocation : Outside location) :
    ¬ place <+: location := by
  obtain ⟨above, number, -, rfl⟩ := h
  intro hbelow
  exact hlocation (nameOf number) (hbelow.subset (by simp)) number rfl

/-- **Apart**: no place lies in another one. -/
theorem IsPlace.not_prefix (h : IsPlace place) (h' : IsPlace place') (hne : place ≠ place') :
    ¬ place <+: place' := by
  obtain ⟨above, number, habove, rfl⟩ := h'
  intro hbelow
  rcases List.prefix_concat_iff.1 hbelow with heq | hbelow
  · exact hne heq
  · exact h.not_prefix_outside habove hbelow

/-! ### Trees -/

variable {tree tree' tree'' node : FileTree}

/-- Two trees are the **same outside**: nodes outside have the same shapes. -/
def SameOutside (tree tree' : FileTree) : Prop :=
  ∀ location, Outside location → tree'.shape? location = tree.shape? location

/-- A tree is **grown** from another one: outside it has more directories at most. -/
def Grown (tree tree' : FileTree) : Prop :=
  ∀ location, Outside location → tree'.shape? location = tree.shape? location ∨
    tree.shape? location = none ∧
      tree'.shape? location = some (.directory (.usual 0o755))

theorem SameOutside.refl (tree : FileTree) : SameOutside tree tree :=
  fun _ _ => rfl

theorem SameOutside.symm (h : SameOutside tree tree') : SameOutside tree' tree :=
  fun location hout => (h location hout).symm

theorem SameOutside.trans (h : SameOutside tree tree') (h' : SameOutside tree' tree'') :
    SameOutside tree tree'' :=
  fun location hout => (h' location hout).trans (h location hout)

theorem SameOutside.grown (h : SameOutside tree tree') : Grown tree tree' :=
  fun location hout => Or.inl (h location hout)

theorem Grown.trans (h : Grown tree tree') (h' : Grown tree' tree'') : Grown tree tree'' := by
  intro location hout
  rcases h location hout with hsame | ⟨hnone, hdirectory⟩
  · rcases h' location hout with hsame' | ⟨hnone', hdirectory'⟩
    · exact Or.inl (hsame'.trans hsame)
    · exact Or.inr ⟨hsame ▸ hnone', hdirectory'⟩
  · rcases h' location hout with hsame' | ⟨hnone', -⟩
    · exact Or.inr ⟨hnone, hsame'.trans hdirectory⟩
    · rw [hdirectory] at hnone'
      exact absurd hnone' nofun

/-- What is put into a place changes nothing outside. -/
theorem sameOutside_set (h : IsPlace place) (hbelow : place <+: location) (node : FileTree) :
    SameOutside tree (tree.set location node) :=
  fun _ hout => FileTree.shape?_set (fun hp => h.not_prefix_outside hout (hbelow.trans hp)) node

/-! ### The scratch root -/

/-- Whether there is a directory at a location that can be gone through. -/
def IsPassableAt (tree : FileTree) (location : Location) : Prop :=
  ∃ a, tree.shape? location = some (.directory a) ∧ a.isPassable = true

/-- The scratch root is **settled** if it leads to a directory, its home, whatever is in the
    scratch directories. -/
def Settled (base : Location) (root : Path) (home : Location) (tree : FileTree) : Prop :=
  ∀ tree', SameOutside tree tree' → tree'.locate base (root.join ⟨["."]⟩) = .ok home

/-- The scratch root is **rooted** if it has a home outside: it is settled there, or cannot
    be gone through yet and will be settled when missing directories are made; and making
    those above it makes directories outside only. -/
structure Rooted (base : Location) (root : Path) (home : Location) (tree : FileTree) : Prop where
  /-- The home is outside. -/
  outside : Outside home
  /-- As soon as the home is there, the root leads to it, and before it leads nowhere. -/
  leads : ∀ tree', Grown tree tree' → Settled base root home tree' ∨
    ¬ IsPassableAt tree' home ∧ ∀ location, tree'.locate base (root.join ⟨["."]⟩) ≠ .ok location
  /-- The directories above are outside. -/
  above : ∀ tree' number q location, Grown tree tree' → q ∈ (pathOf root number).ancestors.tail →
    tree'.locateName base q.withoutLastSlashes = .ok location → Outside location

/-! ### Following paths of scratch directories -/

section Following

variable {base home : Location} {fault : FileFault}

/-- Whether neither the path nor the name of the scratch directory with a number is too
    long. -/
def Sized (root : Path) (number : Nat) : Prop :=
  FileTree.Followable root.stem (nameOf number) ∧
    (nameOf number).utf8ByteSize ≤ FileTree.maxNameSize

/-- If the path of a scratch directory can be followed, so can that of the root. -/
theorem followable_root (h : FileTree.Followable root.stem (nameOf number)) :
    FileTree.Followable root.stem "." := by
  obtain ⟨hname, hlong⟩ := h
  obtain ⟨n, hsize⟩ := Path.size_concat root.stem
  constructor
  · rw [List.any_append, Bool.or_eq_false_iff] at hname ⊢
    exact ⟨hname.1, by decide⟩
  · rw [hsize] at hlong ⊢
    have hdot : ".".utf8ByteSize = 1 := by decide
    have hone : 1 ≤ (nameOf number).utf8ByteSize := by
      rw [Nat.one_le_iff_ne_zero, ne_eq, String.utf8ByteSize_eq_zero_iff]
      exact nameOf_ne_empty number
    omega

theorem locate_root (h : FileTree.Followable root.stem ".") :
    tree.locate base (root.join ⟨["."]⟩) =
      (tree.followStem base root.stem).bind (tree.enter · ".") := by
  rw [Path.join_segment]
  exact FileTree.locateWith_concat (by decide) (by decide) (Or.inr (by decide)) h

theorem locateName_pathOf (h : FileTree.Followable root.stem (nameOf number)) :
    tree.locateName base (pathOf root number) =
      (tree.followStem base root.stem).bind (tree.enter · (nameOf number)) := by
  rw [pathOf_eq]
  exact FileTree.locateWith_concat (nameOf_ne_empty number) (nameOf_ne_up number) (Or.inl rfl) h

/-- A directory is entered without leaving it. -/
theorem enter_dot_eq_ok_iff :
    tree.enter location "." = .ok location' ↔
      location' = location ∧ IsPassableAt tree location := by
  have hidle : Path.isIdle "." = true := by decide
  unfold FileTree.enter IsPassableAt FileTree.shape?
  cases tree.get? location with
  | none => simp
  | some node =>
    cases node with
    | directory a entries =>
      have hshape : (∃ a', some (FileTree.shape (.directory a entries)) =
          some (FileTree.Shape.directory a') ∧ a'.isPassable = true) ↔ a.isPassable = true := by
        constructor
        · rintro ⟨a', heq, hpass⟩
          obtain rfl := FileTree.Shape.directory.inj (Option.some.inj heq)
          exact hpass
        · exact fun hpass => ⟨a, rfl, hpass⟩
      rw [Option.map_some, hshape]
      by_cases hpass : a.isPassable = true
      · simp [hpass, hidle, eq_comm]
      · simp [hpass]
    | _ => simp [FileTree.shape]

/-- A scratch directory is entered from a directory, if its name is not too long. -/
theorem enter_nameOf (h : IsPassableAt tree location) :
    tree.enter location (nameOf number) =
      if FileTree.maxNameSize < (nameOf number).utf8ByteSize then .error .nameTooLong
      else .ok (location ++ [nameOf number]) := by
  obtain ⟨a, hshape, hpass⟩ := h
  obtain ⟨entries, hnode⟩ := FileTree.shape?_eq_directory_iff.1 hshape
  unfold FileTree.enter
  simp only [hnode, hpass, not_isIdle_nameOf, Bool.not_true, Bool.false_eq_true, if_false]

theorem isPassableAt_of_enter {segment : String} (h : tree.enter location segment = .ok location') :
    IsPassableAt tree location := by
  unfold FileTree.enter at h
  unfold IsPassableAt FileTree.shape?
  cases hnode : tree.get? location with
  | none => exact absurd h (by simp [hnode])
  | some node =>
    cases node with
    | directory a entries =>
      refine ⟨a, rfl, ?_⟩
      by_cases hpass : a.isPassable = true
      · exact hpass
      · exact absurd h (by simp [hnode, hpass])
    | _ => exact absurd h (by simp [hnode])

/-- **Where a scratch directory is**: in the directory that the root leads to. -/
theorem exists_of_locateName (h : tree.locateName base (pathOf root number) = .ok location) :
    ∃ home, tree.locate base (root.join ⟨["."]⟩) = .ok home ∧
      location = home ++ [nameOf number] ∧ Sized root number := by
  have hfollow : FileTree.Followable root.stem (nameOf number) := by
    rw [pathOf_eq] at h
    exact FileTree.followable_of_locateWith h
  rw [locateName_pathOf hfollow] at h
  rw [locate_root (followable_root hfollow)]
  cases hstem : tree.followStem base root.stem with
  | error fault =>
    rw [hstem] at h
    exact absurd h nofun
  | ok home =>
    rw [hstem] at h
    have henter : tree.enter home (nameOf number) = .ok location := h
    have hpass := isPassableAt_of_enter henter
    rw [enter_nameOf hpass] at henter
    split at henter
    · exact absurd henter nofun
    · next hsize =>
      refine ⟨home, enter_dot_eq_ok_iff.2 ⟨rfl, hpass⟩, (Except.ok.inj henter).symm, hfollow, ?_⟩
      omega

/-- The root leads to a directory that can be gone through. -/
theorem exists_followStem (h : tree.locate base (root.join ⟨["."]⟩) = .ok home) :
    FileTree.Followable root.stem "." ∧ tree.followStem base root.stem = .ok home ∧
      IsPassableAt tree home := by
  have hfollow : FileTree.Followable root.stem "." := by
    rw [Path.join_segment] at h
    exact FileTree.followable_of_locateWith h
  rw [locate_root hfollow] at h
  cases hstem : tree.followStem base root.stem with
  | error fault =>
    rw [hstem] at h
    exact absurd h nofun
  | ok home' =>
    rw [hstem] at h
    obtain ⟨rfl, hpass⟩ := enter_dot_eq_ok_iff.1 h
    exact ⟨hfollow, rfl, hpass⟩

/-- **Where a scratch directory is found**, if its path and its name are not too long. -/
theorem locateName_of_locate_root (h : tree.locate base (root.join ⟨["."]⟩) = .ok home)
    (hsized : Sized root number) :
    tree.locateName base (pathOf root number) = .ok (home ++ [nameOf number]) := by
  obtain ⟨-, hstem, hpass⟩ := exists_followStem h
  rw [locateName_pathOf hsized.1, hstem]
  show tree.enter home (nameOf number) = _
  rw [enter_nameOf hpass, if_neg (by have := hsized.2; omega)]

/-- From a root that leads somewhere, nothing is missing on the way. -/
theorem locateName_ne_notFound (h : tree.locate base (root.join ⟨["."]⟩) = .ok home) :
    tree.locateName base (pathOf root number) ≠ .error .notFound := by
  obtain ⟨hfollow, hstem, hpass⟩ := exists_followStem h
  by_cases hnumber : FileTree.Followable root.stem (nameOf number)
  · rw [locateName_pathOf hnumber, hstem]
    show tree.enter home (nameOf number) ≠ _
    rw [enter_nameOf hpass]
    split <;> simp
  · -- a path that cannot be followed is too long
    have hname : ((root.stem ++ [nameOf number]).any (·.toList.contains '\x00')) = false := by
      have hroot := hfollow.1
      rw [List.any_append, Bool.or_eq_false_iff] at hroot ⊢
      refine ⟨hroot.1, ?_⟩
      rw [List.any_cons, no_nul_nameOf]
      rfl
    have hlong : FileTree.maxPathSize < (pathOf root number).text.utf8ByteSize := by
      by_contra hle
      rw [pathOf_eq] at hle
      exact hnumber ⟨hname, by omega⟩
    have hempty : pathOf root number ≠ .empty := by
      intro heq
      rw [heq] at hlong
      exact absurd hlong (by decide)
    unfold FileTree.locateName FileTree.locateWith
    rw [if_neg (by rw [pathOf_eq, hname]; exact Bool.false_ne_true), if_neg hempty, if_pos hlong]
    simp

end Following

end Scratch

end MapAudit
