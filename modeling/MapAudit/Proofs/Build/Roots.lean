import MapAudit.Proofs.Build.Places

/-! # Plain scratch roots

    A scratch root is rooted if its path is plain: an absolute path of names none of which
    is that of a scratch directory, without a step up and without a symbolic link on the way.
    Directories on the way may be missing.
-/

namespace MapAudit

open FileTree (Followable followStem enter)

variable {tree tree' : FileTree} {base here location : Location} {segments : List String}
  {links : Nat} {root q : Path} {number : Nat}

/-! ### Plain segments -/

/-- The names among the segments of a path. -/
def Path.namesOf (segments : List String) : Location :=
  segments.filter fun segment => !isIdle segment

namespace FileTree

end FileTree

namespace Scratch

/-! ### Directories above a plain root -/

/-- Whether a path leads to a directory that is above a location, or there. -/
def IsAbove (home : Location) (q : Path) : Prop :=
  ∃ segments, q = ⟨"" :: segments⟩ ∧ (∀ segment ∈ segments, segment ≠ "..") ∧
    Path.namesOf segments <+: home

variable {home : Location}

theorem isAbove_of_prefix {segments' : List String} (hup : ∀ segment ∈ segments, segment ≠ "..")
    (hnames : Path.namesOf segments <+: home) (h : segments' <+: segments) :
    IsAbove home ⟨"" :: segments'⟩ :=
  ⟨segments', rfl, fun s hs => hup s (h.subset hs), (h.filter _).trans hnames⟩

theorem IsAbove.withoutLastSlashes (h : IsAbove home q) : IsAbove home q.withoutLastSlashes := by
  obtain ⟨segments, rfl, hup, hnames⟩ := h
  have hless : (("" :: segments).reverse.dropWhile (· == "")).reverse <+: "" :: segments := by
    rw [← List.reverse_suffix, List.reverse_reverse]
    exact List.dropWhile_suffix _
  unfold Path.withoutLastSlashes
  dsimp only
  split
  · exact ⟨segments, rfl, hup, hnames⟩
  · next first hne =>
    rcases List.prefix_cons_iff.1 hless with hnil | ⟨rest, hrest, hrest'⟩
    · exact absurd hnil (by simpa using hne)
    · rw [hrest]
      exact isAbove_of_prefix hup hnames hrest'

/-- Whether at every location on the way there is a directory that can be gone through, or
    nothing. -/
def IsFreeWay (tree : FileTree) (home : Location) : Prop :=
  ∀ way, way <+: home → tree.shape? way = none ∨ IsPassableAt tree way

theorem IsFreeWay.not_link {way : Location} (h : IsFreeWay tree home) (hway : way <+: home)
    (target : Path) : tree.get? way ≠ some (.link target) := by
  intro hlink
  have hshape : tree.shape? way = some (.link target) := by
    rw [FileTree.shape?, hlink]
    rfl
  rcases h way hway with hnone | ⟨a, hdirectory, -⟩
  · cases hshape.symm.trans hnone
  · cases hshape.symm.trans hdirectory

theorem IsFreeWay.of_grown (h : IsFreeWay tree home) (hout : Outside home)
    (hgrown : Grown tree tree') : IsFreeWay tree' home := by
  intro way hway
  rcases hgrown way fun name hname => hout name (hway.subset hname) with hsame | ⟨-, hmade⟩
  · unfold IsPassableAt
    rw [hsame]
    exact h way hway
  · exact Or.inr ⟨_, hmade, by decide⟩

/-- If the end of a free way is there, so is all of it. -/
theorem IsFreeWay.isPassableAt {way : Location} (h : IsFreeWay tree home)
    (hhome : IsPassableAt tree home) (hway : way <+: home) : IsPassableAt tree way := by
  refine (h way hway).resolve_left ?_
  intro hnone
  obtain ⟨rest, rfl⟩ := hway
  obtain ⟨a, hshape, -⟩ := hhome
  rw [FileTree.shape?_eq_none_iff] at hnone
  have hmissing : tree.shape? (way ++ rest) = none :=
    FileTree.shape?_eq_none_iff.2 (FileTree.get?_append_of_none hnone rest)
  exact absurd (hmissing.symm.trans hshape) nofun

end Scratch

end MapAudit
