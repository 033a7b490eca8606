import MapAudit.Proofs.Fixture.Validity

/-! # Where probes are inferred to originate

    A probe can be made from its identifier alone: it is taken to originate from the file
    whose path shares the first character with it. This works out when there is exactly one
    such path, and then the file is there. Otherwise the error says which of the two ways it
    went wrong, and names all paths that were in question.

    What is inferred does not depend on the order of the files. Only the paths in question
    are named in that order.
-/

namespace MapAudit

variable {id origin path : String} {paths paths' : List String} {first : Char} {p : Probe}
  {result : Except FixtureError Probe}

namespace Probe

/-- **Shared initial**: a path begins with the first character of an identifier. -/
def SharesInitial (id path : String) : Prop :=
  ∃ first more rest, id.toList = first :: more ∧ path.toList = first :: rest

/-- What there is to say about **the paths in question**: they are the ones that share the
    initial, in the order of all paths. -/
structure InQuestion (id : String) (paths candidates : List String) : Prop where
  /-- They are in order. -/
  ordered : candidates.Sublist paths
  /-- They are all. -/
  mem_iff : ∀ path, path ∈ candidates ↔ path ∈ paths ∧ SharesInitial id path

/-- **Inference** of a probe from an identifier and paths. -/
inductive Infers (id : String) (paths : List String) : Except FixtureError Probe → Prop
  /-- One path shares the initial, and no other one does. -/
  | one {origin : String} (hmem : origin ∈ paths) (hshares : SharesInitial id origin)
      (honly : ∀ path ∈ paths, SharesInitial id path → path = origin) :
      Infers id paths (.ok ⟨id, origin⟩)
  /-- No path does. This is so for the empty identifier. -/
  | none (hnone : ∀ path ∈ paths, ¬ SharesInitial id path) :
      Infers id paths (.error (.noOriginMatch id))
  /-- Different paths do. -/
  | several {candidates : List String} (hcandidates : InQuestion id paths candidates)
      (hseveral : 2 ≤ candidates.length) :
      Infers id paths (.error (.ambiguousOrigin id candidates))

/-- **Same outcome**: the same probe, or the same kind of error about the same paths. -/
inductive SameOutcome : Except FixtureError Probe → Except FixtureError Probe → Prop
  | ok (p : Probe) : SameOutcome (.ok p) (.ok p)
  | noMatch (id : String) : SameOutcome (.error (.noOriginMatch id)) (.error (.noOriginMatch id))
  | ambiguous (id : String) {candidates candidates' : List String}
      (hsame : candidates.Perm candidates') :
      SameOutcome (.error (.ambiguousOrigin id candidates))
        (.error (.ambiguousOrigin id candidates'))

/-! ### The paths in question -/

theorem sharesInitial_iff {more : List Char} (hid : id.toList = first :: more) :
    SharesInitial id path ↔ path.toList.head? = some first := by
  rw [List.head?_eq_some_iff]
  constructor
  · rintro ⟨c, _, rest, hc, hpath⟩
    obtain ⟨rfl, -⟩ := List.cons.inj (hid.symm.trans hc)
    exact ⟨rest, hpath⟩
  · rintro ⟨rest, hpath⟩
    exact ⟨first, more, rest, hid, hpath⟩

/-- The empty identifier shares its initial with nothing. -/
theorem not_sharesInitial_of_nil (hid : id.toList = []) : ¬ SharesInitial id path := by
  rintro ⟨first, more, rest, hfirst, -⟩
  rw [hid] at hfirst
  exact absurd hfirst (by simp)

theorem inQuestion_candidates {more : List Char} (hid : id.toList = first :: more)
    (paths : List String) : InQuestion id paths (candidates first paths) where
  ordered := List.filter_sublist
  mem_iff path := by
    rw [candidates, List.mem_filter, sharesInitial_iff hid, beq_iff_eq]

/-- Paths without repetition keep what is in order among them when the others are dropped. -/
theorem filter_mem_of_sublist {candidates : List String} (hpaths : paths.Nodup)
    (h : candidates.Sublist paths) : paths.filter (· ∈ candidates) = candidates := by
  have hall : candidates.filter (· ∈ candidates) = candidates :=
    List.filter_eq_self.2 fun path hpath => decide_eq_true hpath
  have hsub : candidates.Sublist (paths.filter (· ∈ candidates)) := by
    have hkept := h.filter (· ∈ candidates)
    rwa [hall] at hkept
  have hperm : candidates.Perm (paths.filter (· ∈ candidates)) := by
    refine (List.perm_ext_iff_of_nodup (hpaths.sublist h) (hpaths.filter _)).2 ?_
    intro path
    rw [List.mem_filter, decide_eq_true_iff]
    exact ⟨fun hpath => ⟨h.subset hpath, hpath⟩, And.right⟩
  exact (hsub.eq_of_length hperm.length_eq).symm

/-- Without repeated paths, there is one list of those in question. -/
theorem InQuestion.unique {candidates candidates' : List String} (hpaths : paths.Nodup)
    (h : InQuestion id paths candidates) (h' : InQuestion id paths candidates') :
    candidates = candidates' := by
  have hmem : ∀ path, path ∈ candidates ↔ path ∈ candidates' := fun path =>
    (h.mem_iff path).trans (h'.mem_iff path).symm
  rw [← filter_mem_of_sublist hpaths h.ordered, ← filter_mem_of_sublist hpaths h'.ordered]
  exact List.filter_congr fun path _ => by rw [decide_eq_decide, hmem path]

/-! ### What is inferred -/

/-- Which probe is inferred depends on the paths in question alone. -/
theorem inferred_eq {more : List Char} (hid : id.toList = first :: more) (paths : List String) :
    inferred id paths =
      match candidates first paths with
      | [] => .error (.noOriginMatch id)
      | [origin] => .ok { id, origin }
      | several => .error (.ambiguousOrigin id several) := by
  unfold inferred
  split
  · next hnil => exact absurd (hnil.symm.trans hid) nofun
  · next c rest hcons =>
    obtain ⟨rfl, -⟩ := List.cons.inj (hcons.symm.trans hid)
    rfl

theorem inferred_of_nil (hid : id.toList = []) (paths : List String) :
    inferred id paths = .error (.noOriginMatch id) := by
  unfold inferred
  rw [hid]

theorem infers_inferred (id : String) (paths : List String) :
    Infers id paths (inferred id paths) := by
  cases hid : id.toList with
  | nil =>
    rw [inferred_of_nil hid]
    exact .none fun path _ => not_sharesInitial_of_nil hid
  | cons first more =>
    have hquestion := inQuestion_candidates hid paths
    rw [inferred_eq hid]
    generalize candidates first paths = found at hquestion ⊢
    -- none, one, or at least two are in question
    rcases found with _ | ⟨origin, _ | ⟨other, rest⟩⟩
    · refine .none ?_
      intro path hpath hshares
      exact List.not_mem_nil ((hquestion.mem_iff path).2 ⟨hpath, hshares⟩)
    · obtain ⟨hmem, hshares⟩ := (hquestion.mem_iff origin).1 List.mem_cons_self
      refine .one hmem hshares ?_
      intro path hpath hshares'
      exact List.mem_singleton.1 ((hquestion.mem_iff path).2 ⟨hpath, hshares'⟩)
    · exact .several hquestion (by simp)

/-- Where paths are in question, some path shares the initial. -/
theorem InQuestion.exists_sharesInitial {candidates : List String}
    (h : InQuestion id paths candidates) (hseveral : 2 ≤ candidates.length) :
    ∃ path ∈ paths, SharesInitial id path := by
  obtain ⟨path, hpath⟩ :=
    List.exists_mem_of_length_pos (Nat.lt_of_lt_of_le Nat.two_pos hseveral)
  obtain ⟨hmem, hshares⟩ := (h.mem_iff path).1 hpath
  exact ⟨path, hmem, hshares⟩

/-- Different paths in question are more than one. -/
theorem InQuestion.not_only {candidates : List String} (hpaths : paths.Nodup)
    (h : InQuestion id paths candidates) (hseveral : 2 ≤ candidates.length) :
    ¬ ∀ path ∈ paths, SharesInitial id path → path = origin := by
  intro honly
  have hall : ∀ path ∈ candidates, path = origin := by
    intro path hpath
    obtain ⟨hmem, hshares⟩ := (h.mem_iff path).1 hpath
    exact honly path hmem hshares
  have hrepeated := List.eq_replicate_iff.2 ⟨rfl, hall⟩
  have hnodup := hpaths.sublist h.ordered
  rw [hrepeated, List.nodup_replicate] at hnodup
  omega

/-- Without repeated paths, there is only one way for an inference to come out. -/
theorem Infers.unique {result' : Except FixtureError Probe} (hpaths : paths.Nodup)
    (h : Infers id paths result) (h' : Infers id paths result') : result = result' := by
  cases h with
  | one hmem hshares honly =>
    cases h' with
    | one hmem' hshares' honly' => rw [honly _ hmem' hshares']
    | none hnone => exact absurd hshares (hnone _ hmem)
    | several hcandidates hseveral =>
      exact absurd honly (hcandidates.not_only hpaths hseveral)
  | none hnone =>
    cases h' with
    | one hmem hshares honly => exact absurd hshares (hnone _ hmem)
    | none hnone' => rfl
    | several hcandidates hseveral =>
      obtain ⟨path, hmem, hshares⟩ := hcandidates.exists_sharesInitial hseveral
      exact absurd hshares (hnone path hmem)
  | several hcandidates hseveral =>
    cases h' with
    | one hmem hshares honly => exact absurd honly (hcandidates.not_only hpaths hseveral)
    | none hnone =>
      obtain ⟨path, hmem, hshares⟩ := hcandidates.exists_sharesInitial hseveral
      exact absurd hshares (hnone path hmem)
    | several hcandidates' hseveral' => rw [hcandidates.unique hpaths hcandidates']

/-- **Inference decided** by which of the paths share the initial. -/
theorem inferred_eq_iff (hpaths : paths.Nodup) :
    inferred id paths = result ↔ Infers id paths result := by
  constructor
  · rintro rfl
    exact infers_inferred id paths
  · exact (infers_inferred id paths).unique hpaths

/-- A probe is inferred exactly when one path shares the initial with it. -/
theorem exists_inferred_iff (hpaths : paths.Nodup) :
    (∃ p, inferred id paths = .ok p) ↔ ∃! path, path ∈ paths ∧ SharesInitial id path := by
  constructor
  · rintro ⟨p, hp⟩
    cases (inferred_eq_iff hpaths).1 hp with
    | one hmem hshares honly => exact ⟨_, ⟨hmem, hshares⟩, fun path h => honly path h.1 h.2⟩
  · rintro ⟨origin, ⟨hmem, hshares⟩, honly⟩
    exact ⟨⟨id, origin⟩,
      (inferred_eq_iff hpaths).2 (.one hmem hshares fun path h h' => honly path ⟨h, h'⟩)⟩

/-- **Reordered paths** have the same outcome. -/
theorem sameOutcome_of_perm (h : paths.Perm paths') (id : String) :
    SameOutcome (inferred id paths) (inferred id paths') := by
  cases hid : id.toList with
  | nil =>
    rw [inferred_of_nil hid, inferred_of_nil hid]
    exact .noMatch id
  | cons first more =>
    have hperm : (candidates first paths).Perm (candidates first paths') := h.filter _
    rw [inferred_eq hid, inferred_eq hid]
    -- How many are in question decides, and that is the same in both orders.
    generalize candidates first paths = before at hperm
    generalize candidates first paths' = after at hperm
    match before, after, hperm with
    | [], [], _ => exact .noMatch id
    | [a], [b], hperm =>
      obtain rfl := List.singleton_perm_singleton.1 hperm
      exact .ok ⟨id, a⟩
    | _ :: _ :: _, _ :: _ :: _, hperm => exact .ambiguous id hperm
    | [], _ :: _, hperm | [_], [], hperm | [_], _ :: _ :: _, hperm | _ :: _ :: _, [], hperm
    | _ :: _ :: _, [_], hperm => exact absurd hperm.length_eq (by simp)

end Probe

namespace Fixture

open Probe (Infers SameOutcome SharesInitial inferred)

variable {fixture : Fixture}

/-- What is inferred from the paths of a fixture is one of its files. -/
theorem exists_file_of_inferred (h : inferred id fixture.paths = .ok p) :
    p.id = id ∧ ∃ file, fixture.file? p.origin = some file ∧ SharesInitial id file.path := by
  cases (Probe.inferred_eq_iff fixture.distinct).1 h with
  | one hmem hshares honly =>
    obtain ⟨file, hfile, hpath⟩ := List.mem_map.1 hmem
    exact ⟨rfl, file, file?_eq_some_iff.2 ⟨hfile, hpath⟩, hpath ▸ hshares⟩

/-- No probe whose origin is there is refused for it. -/
theorem validate_ne_missingOrigin (h : ∀ p ∈ fixture.probes, p.origin ∈ fixture.paths)
    (id origin : String) : fixture.validate ≠ .error (.missingOrigin id origin) := by
  intro herror
  cases validate_eq_error_iff.1 herror with
  | @probe front back p _ hfiles hsplit hfront hbreaks =>
    cases hbreaks with
    | origin hnew hmissing =>
      have hp : p ∈ fixture.probes := by
        rw [hsplit]
        simp
      exact hmissing (h p hp)

/-- **Origins inferred** among the files of a fixture: for an identifier that is not empty,
    exactly when one path begins as it does; and then that file is there, so that probes made
    this way are never refused for a missing file. Otherwise the error tells whether no path
    or several ones do, and names these in order. The order of the files does not matter. -/
theorem inferred_among_files (fixture : Fixture) (id : String) :
    ((∃ p, inferred id fixture.paths = .ok p) ↔
      id ≠ "" ∧ ∃! path, path ∈ fixture.paths ∧ SharesInitial id path) ∧
    (∀ result, inferred id fixture.paths = result ↔ Infers id fixture.paths result) ∧
    (∀ p, inferred id fixture.paths = .ok p →
      p.id = id ∧ ∃ file, fixture.file? p.origin = some file ∧ SharesInitial id file.path) ∧
    ((∀ p ∈ fixture.probes, inferred p.id fixture.paths = .ok p) →
      ∀ id origin, fixture.validate ≠ .error (.missingOrigin id origin)) ∧
    (∀ reordered : Fixture, reordered.files.Perm fixture.files →
      SameOutcome (inferred id fixture.paths) (inferred id reordered.paths)) := by
  refine ⟨?_, fun result => Probe.inferred_eq_iff fixture.distinct,
    fun p => exists_file_of_inferred, fun hinferred => ?_, fun reordered hperm => ?_⟩
  · have hdecided : (∃ p, inferred id fixture.paths = .ok p) ↔
        ∃! path, path ∈ fixture.paths ∧ SharesInitial id path :=
      Probe.exists_inferred_iff fixture.distinct
    rw [hdecided]
    refine ⟨fun hone => ⟨?_, hone⟩, And.right⟩
    rintro rfl
    obtain ⟨path, ⟨-, hshares⟩, -⟩ := hone
    exact Probe.not_sharesInitial_of_nil rfl hshares
  · refine validate_ne_missingOrigin fun p hp => ?_
    obtain ⟨-, file, hfile, -⟩ := exists_file_of_inferred (hinferred p hp)
    obtain ⟨hmem, hpath⟩ := mem_of_file? hfile
    exact hpath ▸ List.mem_map_of_mem hmem
  · exact Probe.sameOutcome_of_perm (hperm.symm.map FixtureFile.path) id

/-- One path begins with `é`, two with `a` and none with `b`. -/
example :
    inferred "é0" ["a.js", "élan.js", "ab.js"] = .ok ⟨"é0", "élan.js"⟩ ∧
      inferred "a0" ["a.js", "élan.js", "ab.js"] =
        .error (.ambiguousOrigin "a0" ["a.js", "ab.js"]) ∧
      inferred "b0" ["a.js", "élan.js", "ab.js"] = .error (.noOriginMatch "b0") := by
  decide +kernel

end Fixture

end MapAudit
