import MapAudit.Fixture.Basic
import MapAudit.Proofs.Mentions

/-! # The files of a fixture

    A fixture is made from a list of files in which a path may be repeated. What it then
    holds can be told from the list without going through it step by step: of each path the
    last file given, and the paths in the order in which they were first given.

    Both are shown by adding one file at the end of the list, since this is how the files of
    the fixture are collected. A file whose path is new is put behind all others, and one
    whose path is there takes the place of the file that had it.
-/

namespace MapAudit

namespace FixtureFile

variable {f g : FixtureFile} {files l : List FixtureFile}

/-! ### One more file -/

/-- Putting a file into files with different paths takes out the one with the same path. -/
theorem mem_put_iff (h : (l.map path).Nodup) :
    f ∈ put g l ↔ f = g ∨ f.path ≠ g.path ∧ f ∈ l := by
  induction l with
  | nil => simp [put]
  | cons k rest ih =>
    rw [List.map_cons, List.nodup_cons] at h
    obtain ⟨hk, hrest⟩ := h
    rw [put]
    by_cases hpath : k.path = g.path
    · -- the paths behind the file that is replaced are others
      have hothers : f ∈ rest → f.path ≠ g.path := by
        intro hf hsame
        exact hk (by rw [hpath, ← hsame]; exact List.mem_map_of_mem hf)
      rw [if_pos hpath, List.mem_cons, List.mem_cons]
      constructor
      · rintro (rfl | hf)
        · exact Or.inl rfl
        · exact Or.inr ⟨hothers hf, Or.inr hf⟩
      · rintro (rfl | ⟨hne, rfl | hf⟩)
        · exact Or.inl rfl
        · exact absurd hpath hne
        · exact Or.inr hf
    · rw [if_neg hpath, List.mem_cons, List.mem_cons, ih hrest]
      constructor
      · rintro (rfl | rfl | ⟨hne, hf⟩)
        · exact Or.inr ⟨hpath, Or.inl rfl⟩
        · exact Or.inl rfl
        · exact Or.inr ⟨hne, Or.inr hf⟩
      · rintro (rfl | ⟨hne, rfl | hf⟩)
        · exact Or.inr (Or.inl rfl)
        · exact Or.inl rfl
        · exact Or.inr (Or.inr ⟨hne, hf⟩)

/-- Putting a file in adds its path at the end, if it is not there. -/
theorem paths_put (f : FixtureFile) (l : List FixtureFile) :
    (put f l).map path = if f.path ∈ l.map path then l.map path else l.map path ++ [f.path] := by
  induction l with
  | nil => rfl
  | cons g rest ih =>
    rw [put]
    by_cases hpath : g.path = f.path
    · simp [hpath]
    · have hne : f.path ≠ g.path := fun h => hpath h.symm
      rw [if_neg hpath, List.map_cons, ih]
      by_cases hmem : f.path ∈ rest.map path
      · rw [if_pos hmem, if_pos (List.mem_map.2 (by simpa using Or.inr (List.mem_map.1 hmem)))]
        rfl
      · rw [if_neg hmem, if_neg (by simpa [hne] using hmem)]
        rfl

theorem merge_concat (files : List FixtureFile) (f : FixtureFile) :
    merge (files ++ [f]) = put f (merge files) := by
  rw [merge, List.foldl_append]
  rfl

/-! ### All files -/

/-- **Last of its path**: no file behind it in the list has the same path. -/
def IsLast (files : List FixtureFile) (f : FixtureFile) : Prop :=
  ∃ front back, files = front ++ f :: back ∧ ∀ g ∈ back, g.path ≠ f.path

theorem not_isLast_nil : ¬ IsLast [] f := by
  rintro ⟨front, back, hsplit, -⟩
  simp at hsplit

/-- One more file is the last of its path, and the others stay so if they have another. -/
theorem isLast_concat_iff : IsLast (files ++ [g]) f ↔ f = g ∨ f.path ≠ g.path ∧ IsLast files f := by
  constructor
  · rintro ⟨front, back, hsplit, hback⟩
    rcases List.eq_nil_or_concat back with rfl | ⟨back, last, rfl⟩
    · -- nothing is behind it, so it is the new one
      obtain ⟨-, hlast⟩ := List.append_inj' hsplit rfl
      exact Or.inl (List.singleton_inj.1 hlast).symm
    · -- the new one is the last of those behind it
      rw [List.concat_eq_append, ← List.cons_append, ← List.append_assoc] at hsplit
      obtain ⟨rfl, hlast⟩ := List.append_inj' hsplit rfl
      obtain rfl := List.singleton_inj.1 hlast
      rw [List.concat_eq_append] at hback
      refine Or.inr ⟨fun h => hback g (by simp) h.symm, front, back, rfl, ?_⟩
      intro k hk
      exact hback k (List.mem_append_left _ hk)
  · rintro (rfl | ⟨hne, front, back, rfl, hback⟩)
    · exact ⟨files, [], rfl, fun k hk => absurd hk List.not_mem_nil⟩
    · refine ⟨front, back ++ [g], by simp, ?_⟩
      intro k hk
      rcases List.mem_append.1 hk with hk | hk
      · exact hback k hk
      · rw [List.mem_singleton.1 hk]
        exact fun h => hne h.symm

/-- **Contents**: the files that are kept are the last ones of their paths. -/
theorem mem_merge_iff : f ∈ merge files ↔ IsLast files f := by
  -- the last file given is the last one put in
  induction files using List.reverseRecOn with
  | nil => exact iff_of_false List.not_mem_nil not_isLast_nil
  | append_singleton files g ih =>
    rw [merge_concat, mem_put_iff (nodup_merge files), isLast_concat_iff, ih]

/-- **Paths**: each path that is given, at its first place. -/
theorem paths_merge (files : List FixtureFile) :
    (merge files).map path = (files.map path).eraseDups := by
  induction files using List.reverseRecOn with
  | nil => rfl
  | append_singleton files f ih =>
    rw [merge_concat, paths_put, ih, List.map_append, List.map_singleton, eraseDups_concat]
    simp only [List.mem_eraseDups]

theorem mem_paths_merge_iff {p : String} : p ∈ (merge files).map path ↔ p ∈ files.map path := by
  rw [paths_merge, List.mem_eraseDups]

/-- **Order**: the paths are in the order in which they first occur. -/
theorem pairwise_paths_merge (files : List FixtureFile) :
    ((merge files).map path).Pairwise fun p q =>
      (files.map path).idxOf p < (files.map path).idxOf q := by
  rw [paths_merge]
  exact (firstMentions_eraseDups (files.map path)).inOrder

end FixtureFile

namespace Fixture

variable {fixture : Fixture} {path : String}

/-! ### Lookup -/

theorem mem_of_file? {file : FixtureFile} (h : fixture.file? path = some file) :
    file ∈ fixture.files ∧ file.path = path :=
  ⟨List.mem_of_find?_eq_some h, by simpa using List.find?_some h⟩

/-- **Files by path**: a path leads to the one file that has it. -/
theorem file?_eq_some_iff {file : FixtureFile} :
    fixture.file? path = some file ↔ file ∈ fixture.files ∧ file.path = path := by
  refine ⟨mem_of_file?, ?_⟩
  rintro ⟨hmem, hpath⟩
  cases hfind : fixture.file? path with
  | none =>
    have hnone := List.find?_eq_none.1 hfind file hmem
    simp [hpath] at hnone
  | some g =>
    obtain ⟨hg, hgpath⟩ := mem_of_file? hfind
    rw [List.inj_on_of_nodup_map fixture.distinct hg hmem (hgpath.trans hpath.symm)]

theorem file?_eq_none_iff :
    fixture.file? path = none ↔ ∀ f ∈ fixture.files, f.path ≠ path := by
  simp [file?]

theorem isSome_file?_iff : (fixture.file? path).isSome = true ↔ path ∈ fixture.paths := by
  simp [file?, paths]

/-- The path of the entry file is the first one. -/
theorem map_path_entry (fixture : Fixture) :
    fixture.entry?.map FixtureFile.path = fixture.paths.head? :=
  List.head?_map.symm

/-! ### Fixtures made from files -/

/-- **Fixture of given files**, whose paths may be repeated. -/
structure HasGiven (fixture : Fixture) (given : List FixtureFile) : Prop where
  /-- No path is listed twice. -/
  once : fixture.paths.Nodup
  /-- The paths are those that were given. -/
  listed : ∀ path, path ∈ fixture.paths ↔ path ∈ given.map FixtureFile.path
  /-- They are in the order in which they were first given. -/
  inOrder : fixture.paths.Pairwise fun p q =>
    (given.map FixtureFile.path).idxOf p < (given.map FixtureFile.path).idxOf q
  /-- Each has the source with which it was last given. -/
  last : ∀ f, f ∈ fixture.files ↔ FixtureFile.IsLast given f
  /-- A path leads to a file exactly when it is listed. -/
  found : ∀ path, (fixture.file? path).isSome = true ↔ path ∈ fixture.paths
  /-- The file is the one that is listed with the path. -/
  file : ∀ path f, fixture.file? path = some f ↔ f ∈ fixture.files ∧ f.path = path
  /-- The entry file is the first one listed. -/
  entry : ∀ f, fixture.entry? = some f ↔ ∃ rest, fixture.files = f :: rest
  /-- Its path is the first one given. -/
  entry_path : fixture.entry?.map FixtureFile.path = given.head?.map FixtureFile.path
  /-- There is no entry file exactly when no file was given. -/
  entry_none : fixture.entry? = none ↔ given = []

theorem head?_of_pairwise_idxOf {paths given : List String}
    (hlisted : ∀ p, p ∈ paths ↔ p ∈ given)
    (horder : paths.Pairwise fun p q => given.idxOf p < given.idxOf q) :
    paths.head? = given.head? := by
  cases given with
  | nil => rw [List.eq_nil_iff_forall_not_mem.2 fun p hp => List.not_mem_nil ((hlisted p).1 hp)]
  | cons first later =>
    have hfirst : (first :: later).idxOf first = 0 := List.idxOf_cons_self
    cases paths with
    | nil => exact absurd ((hlisted first).2 List.mem_cons_self) List.not_mem_nil
    | cons p rest =>
      -- nothing stands before the path that is given first
      rcases List.mem_cons.1 ((hlisted first).2 List.mem_cons_self) with rfl | hmem
      · rfl
      · have hlt := (List.pairwise_cons.1 horder).1 first hmem
        omega

/-- **Files of a fixture**: a fixture lists each path that it is given once, in order of
    first occurrence and with the source of its last occurrence. Lookup and entry file agree
    with the list. -/
theorem hasGiven_ofFiles (variant : Variant) (given : List FixtureFile) (probes : List Probe) :
    (ofFiles variant given probes).HasGiven given := by
  have hlisted : ∀ path, path ∈ (ofFiles variant given probes).paths ↔
      path ∈ given.map FixtureFile.path := fun path => FixtureFile.mem_paths_merge_iff
  -- the first path given comes first, since the paths keep the order of first occurrence
  have hfirst : (ofFiles variant given probes).paths.head? =
      (given.map FixtureFile.path).head? :=
    head?_of_pairwise_idxOf hlisted (FixtureFile.pairwise_paths_merge given)
  refine ⟨FixtureFile.nodup_merge given, hlisted, FixtureFile.pairwise_paths_merge given,
    fun f => FixtureFile.mem_merge_iff, fun path => isSome_file?_iff,
    fun path f => file?_eq_some_iff, fun f => List.head?_eq_some_iff, ?_, ?_⟩
  · rw [map_path_entry, hfirst, List.head?_map]
  · rw [← Option.map_eq_none_iff (f := FixtureFile.path), map_path_entry, hfirst, List.head?_map,
      Option.map_eq_none_iff, List.head?_eq_none_iff]

/-- A path that is given again keeps its place at the head and takes the new source. -/
example :
    let fixture := ofFiles .es6 [⟨"z.js", "1"⟩, ⟨"a.js", "2"⟩, ⟨"z.js", "3"⟩] []
    fixture.files = [⟨"z.js", "3"⟩, ⟨"a.js", "2"⟩] ∧ fixture.entry? = some ⟨"z.js", "3"⟩ := by
  decide

end Fixture

end MapAudit
