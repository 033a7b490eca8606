import MapAudit.Fixture.Validity
import MapAudit.Proofs.Fixture.Files
import MapAudit.Proofs.Text.Matches

/-! # What validation guarantees

    Of every probe of an accepted fixture, the file it originates from is there and
    its literal is matched in it exactly once, and so occurs in it.

    A fixture is refused when it has no files, and otherwise for the first of its probes
    that breaks a rule. The probes in front of that one are fit, and the rules are tried on
    it in order: its identifier is new, its file is there, its literal is matched once.
-/

namespace MapAudit.Fixture

open Text (MatchedTimes)

variable {fixture : Fixture} {seen : List String} {p : Probe} {probes : List Probe}
  {e : FixtureError} {count : Nat}

/-! ### Accepted fixtures -/

/-- The literal of a probe is its identifier between quotes. -/
theorem toList_literal (p : Probe) : p.literal.toList = Text.marked '"' p.id.toList := by
  have hquote : "\"".toList = ['"'] := rfl
  simp only [Probe.literal, String.toList_append, hquote, Text.marked, List.cons_append,
    List.nil_append]

/-- **One probe** is accepted when it is new, has a file, and is matched there once. -/
theorem validateProbe_eq_ok_iff :
    fixture.validateProbe seen p = .ok () ↔
      p.id ∉ seen ∧ ∃ file, fixture.file? p.origin = some file ∧ literalCount p file.source = 1 := by
  unfold validateProbe
  by_cases hseen : p.id ∈ seen
  · simp [hseen]
  · cases hfile : fixture.file? p.origin with
    | none => simp [hseen]
    | some file => by_cases hcount : literalCount p file.source = 1 <;> simp [hseen, hcount]

/-- Probes are accepted when the first one is, and the others after it. -/
theorem validateProbes_cons_eq_ok_iff :
    fixture.validateProbes seen (p :: probes) = .ok () ↔
      fixture.validateProbe seen p = .ok () ∧
        fixture.validateProbes (p.id :: seen) probes = .ok () := by
  simp only [validateProbes]
  cases fixture.validateProbe seen p with
  | error e => simp [bind, Except.bind]
  | ok u => simp [bind, Except.bind]

/-- Every one of some accepted probes is matched once in the file it originates from. -/
theorem literalCount_of_validateProbes (h : fixture.validateProbes seen probes = .ok ())
    (hmem : p ∈ probes) :
    ∃ file, fixture.file? p.origin = some file ∧ literalCount p file.source = 1 := by
  induction probes generalizing seen with
  | nil => simp at hmem
  | cons q rest ih =>
    obtain ⟨hq, hrest⟩ := validateProbes_cons_eq_ok_iff.1 h
    rcases List.mem_cons.1 hmem with rfl | hmem
    · exact (validateProbe_eq_ok_iff.1 hq).2
    · exact ih hrest hmem

/-- **Some probes** are accepted when all of them are new and different, and each has a file
    in which it is matched once. -/
theorem validateProbes_eq_ok_iff :
    fixture.validateProbes seen probes = .ok () ↔
      (probes.map Probe.id).Nodup ∧ (∀ p ∈ probes, p.id ∉ seen) ∧
        ∀ p ∈ probes, ∃ file, fixture.file? p.origin = some file ∧
          literalCount p file.source = 1 := by
  induction probes generalizing seen with
  | nil => simp [validateProbes]
  | cons q rest ih =>
    rw [validateProbes_cons_eq_ok_iff, validateProbe_eq_ok_iff, ih, List.map_cons,
      List.nodup_cons, List.forall_mem_cons, List.forall_mem_cons]
    constructor
    · rintro ⟨⟨hseen, hfile⟩, hnodup, hnew, hfiles⟩
      refine ⟨⟨?_, hnodup⟩, ⟨hseen, ?_⟩, hfile, hfiles⟩
      · intro hmem
        obtain ⟨p, hp, hid⟩ := List.mem_map.1 hmem
        exact hnew p hp (by simp [hid])
      · intro p hp
        exact fun hmem => hnew p hp (List.mem_cons_of_mem _ hmem)
    · rintro ⟨⟨hfirst, hnodup⟩, ⟨hseen, hnew⟩, hfile, hfiles⟩
      refine ⟨⟨hseen, hfile⟩, hnodup, ?_, hfiles⟩
      intro p hp hmem
      rcases List.mem_cons.1 hmem with hid | hmem
      · exact hfirst (hid ▸ List.mem_map_of_mem hp)
      · exact hnew p hp hmem

/-- **Validation** accepts just the fixtures with a file, with different probes, and with
    each of them matched once in the file it originates from. -/
theorem validate_eq_ok_iff :
    fixture.validate = .ok () ↔
      fixture.files ≠ [] ∧ (fixture.probes.map Probe.id).Nodup ∧
        ∀ p ∈ fixture.probes, ∃ file, fixture.file? p.origin = some file ∧
          literalCount p file.source = 1 := by
  unfold validate
  cases hfiles : fixture.files with
  | nil => simp
  | cons f rest => simp [validateProbes_eq_ok_iff]

theorem validateProbes_of_validate (h : fixture.validate = .ok ()) :
    fixture.validateProbes [] fixture.probes = .ok () := by
  unfold validate at h
  split at h
  · exact absurd h (by simp)
  · exact h

/-- **Accepted fixtures**: the literal of every probe occurs in the file it originates
    from. -/
theorem exists_occursAt_of_validate (h : fixture.validate = .ok ()) (hmem : p ∈ fixture.probes) :
    ∃ file, fixture.file? p.origin = some file ∧
      ∃ n, Text.OccursAt p.literal.toList file.source.toList n := by
  obtain ⟨file, hfile, hcount⟩ :=
    literalCount_of_validateProbes (validateProbes_of_validate h) hmem
  have hmatched : Text.countMatches p.literal.toList file.source.toList ≠ 0 := by
    unfold literalCount at hcount
    omega
  exact ⟨file, hfile, Text.exists_occursAt_of_countMatches hmatched⟩

/-! ### Rules -/

/-- **Matched in its file**: a probe's literal is matched a number of times in the file it
    originates from. -/
def MatchedInOrigin (fixture : Fixture) (p : Probe) (count : Nat) : Prop :=
  ∃ file ∈ fixture.files, file.path = p.origin ∧
    MatchedTimes p.literal.toList file.source.toList count

theorem matchedInOrigin_iff :
    fixture.MatchedInOrigin p count ↔
      ∃ file, fixture.file? p.origin = some file ∧ literalCount p file.source = count := by
  have hliteral : p.literal.toList ≠ [] := by
    rw [toList_literal]
    exact List.cons_ne_nil _ _
  simp only [MatchedInOrigin, file?_eq_some_iff, Text.matchedTimes_iff hliteral, literalCount,
    and_assoc]

theorem MatchedInOrigin.unique {count' : Nat} (h : fixture.MatchedInOrigin p count)
    (h' : fixture.MatchedInOrigin p count') : count = count' := by
  obtain ⟨file, hfile, rfl⟩ := matchedInOrigin_iff.1 h
  obtain ⟨file', hfile', rfl⟩ := matchedInOrigin_iff.1 h'
  rw [Option.some.inj (hfile.symm.trans hfile')]

/-- **Fit probes** can be told from each other, and each is matched once in its file. -/
structure Fit (fixture : Fixture) (probes : List Probe) : Prop where
  /-- No identifier is used twice. -/
  different : (probes.map Probe.id).Nodup
  /-- The files are there, and have one match each. -/
  matched : ∀ p ∈ probes, fixture.MatchedInOrigin p 1

/-- **Broken rule** of a probe behind probes with the identifiers `earlier`, as the error
    that tells of it. -/
inductive Breaks (fixture : Fixture) (earlier : List String) (p : Probe) : FixtureError → Prop
  /-- The identifier is not new. -/
  | duplicate (hold : p.id ∈ earlier) : Breaks fixture earlier p (.duplicateProbe p.id)
  /-- The identifier is new, but the file is not there. -/
  | origin (hnew : p.id ∉ earlier) (hmissing : p.origin ∉ fixture.paths) :
      Breaks fixture earlier p (.missingOrigin p.id p.origin)
  /-- The identifier is new and the file is there, but the literal is not matched once. -/
  | literal {count : Nat} (hnew : p.id ∉ earlier) (hcount : fixture.MatchedInOrigin p count)
      (hne : count ≠ 1) : Breaks fixture earlier p (.literalCount p.id p.origin count)

/-- **Refused**: a fixture has no files, or the probes in front of one that breaks a rule
    are fit. -/
inductive Refused (fixture : Fixture) : FixtureError → Prop
  /-- There are no files, whatever the probes. -/
  | empty (hfiles : fixture.files = []) : Refused fixture (.empty fixture.variant)
  /-- There are files, and a probe is the first one that breaks a rule. -/
  | probe {front back : List Probe} {p : Probe} {e : FixtureError} (hfiles : fixture.files ≠ [])
      (hsplit : fixture.probes = front ++ p :: back) (hfront : fixture.Fit front)
      (hbreaks : fixture.Breaks (front.map Probe.id) p e) : Refused fixture e

/-! ### Refused fixtures -/

/-- Only whether the identifier of the probe is among the earlier ones matters. -/
theorem Breaks.of_mem_iff {earlier : List String} (h : p.id ∈ earlier ↔ p.id ∈ seen)
    (hbreaks : fixture.Breaks earlier p e) : fixture.Breaks seen p e := by
  cases hbreaks with
  | duplicate hold => exact .duplicate (h.1 hold)
  | origin hnew hmissing => exact .origin (mt h.2 hnew) hmissing
  | literal hnew hcount hne => exact .literal (mt h.2 hnew) hcount hne

/-- **One probe** is refused for the first rule it breaks. -/
theorem validateProbe_eq_error_iff :
    fixture.validateProbe seen p = .error e ↔ fixture.Breaks seen p e := by
  unfold validateProbe
  constructor
  · -- each rule is tried when those before it hold, as in the constructors
    intro h
    split at h
    · next hold =>
      cases h
      exact .duplicate hold
    · next hnew =>
      split at h
      · next hnone =>
        cases h
        exact .origin hnew (by simpa [paths] using file?_eq_none_iff.1 hnone)
      · next file hfile =>
        by_cases hcount : literalCount p file.source = 1
        · rw [if_pos hcount] at h
          cases h
        · rw [if_neg hcount] at h
          cases h
          rw [(mem_of_file? hfile).2]
          exact .literal hnew (matchedInOrigin_iff.2 ⟨file, hfile, rfl⟩) hcount
  · intro hbreaks
    cases hbreaks with
    | duplicate hold => rw [if_pos hold]
    | origin hnew hmissing =>
      have hnone : fixture.file? p.origin = none :=
        file?_eq_none_iff.2 (by simpa [paths] using hmissing)
      rw [if_neg hnew, hnone]
    | literal hnew hcount hne =>
      obtain ⟨file, hfile, rfl⟩ := matchedInOrigin_iff.1 hcount
      rw [if_neg hnew, hfile]
      simp only [if_neg hne, (mem_of_file? hfile).2]

/-- **Some probes** are refused for the first one that is refused, behind others that are
    accepted. -/
theorem validateProbes_eq_error_iff :
    fixture.validateProbes seen probes = .error e ↔
      ∃ front p back, probes = front ++ p :: back ∧
        fixture.validateProbes seen front = .ok () ∧
          fixture.validateProbe ((front.map Probe.id).reverse ++ seen) p = .error e := by
  induction probes generalizing seen with
  | nil => simp [validateProbes]
  | cons q rest ih =>
    constructor
    · intro h
      rw [validateProbes] at h
      cases hq : fixture.validateProbe seen q with
      | error e' =>
        rw [hq] at h
        cases h
        exact ⟨[], q, rest, rfl, rfl, hq⟩
      | ok u =>
        rw [hq] at h
        obtain ⟨front, p, back, rfl, hfront, hp⟩ := ih.1 h
        refine ⟨q :: front, p, back, rfl, validateProbes_cons_eq_ok_iff.2 ⟨hq, hfront⟩, ?_⟩
        simpa using hp
    · rintro ⟨front, p, back, hsplit, hfront, hp⟩
      rw [validateProbes]
      cases front with
      | nil =>
        obtain ⟨rfl, rfl⟩ := List.cons.inj hsplit
        rw [show fixture.validateProbe seen q = .error e from hp]
        rfl
      | cons q' front =>
        obtain ⟨rfl, rfl⟩ := List.cons.inj hsplit
        obtain ⟨hq, hfront⟩ := validateProbes_cons_eq_ok_iff.1 hfront
        rw [hq]
        exact ih.2 ⟨front, p, back, rfl, hfront, by simpa using hp⟩

theorem fit_iff_literalCount :
    fixture.Fit probes ↔
      (probes.map Probe.id).Nodup ∧
        ∀ p ∈ probes, ∃ file, fixture.file? p.origin = some file ∧
          literalCount p file.source = 1 := by
  simp only [← matchedInOrigin_iff]
  exact ⟨fun h => ⟨h.different, h.matched⟩, fun h => ⟨h.1, h.2⟩⟩

/-- Probes are accepted from the beginning exactly when they are fit. -/
theorem validateProbes_eq_ok_iff_fit :
    fixture.validateProbes [] probes = .ok () ↔ fixture.Fit probes := by
  rw [validateProbes_eq_ok_iff, fit_iff_literalCount]
  simp

/-- Probes are refused from the beginning exactly for the first one that breaks a rule. -/
theorem validateProbes_eq_error_iff_breaks :
    fixture.validateProbes [] probes = .error e ↔
      ∃ front p back, probes = front ++ p :: back ∧ fixture.Fit front ∧
        fixture.Breaks (front.map Probe.id) p e := by
  simp only [validateProbes_eq_error_iff, validateProbes_eq_ok_iff_fit, validateProbe_eq_error_iff]
  -- the identifiers have been collected in the other order
  constructor
  · rintro ⟨front, p, back, hsplit, hfront, hbreaks⟩
    exact ⟨front, p, back, hsplit, hfront, hbreaks.of_mem_iff (by simp)⟩
  · rintro ⟨front, p, back, hsplit, hfront, hbreaks⟩
    exact ⟨front, p, back, hsplit, hfront, hbreaks.of_mem_iff (by simp)⟩

/-- **Fit** are those probes of which none breaks a rule. -/
theorem fit_iff :
    fixture.Fit probes ↔
      ∀ front p back, probes = front ++ p :: back →
        ∀ e, ¬ fixture.Breaks (front.map Probe.id) p e := by
  constructor
  · rintro ⟨hdifferent, hmatched⟩ front p back rfl e hbreaks
    have hone := hmatched p (by simp)
    cases hbreaks with
    | duplicate hold =>
      rw [List.map_append, List.nodup_append] at hdifferent
      exact hdifferent.2.2 _ hold _ List.mem_cons_self rfl
    | origin _ hmissing =>
      obtain ⟨file, hfile, hpath, -⟩ := hone
      exact hmissing (hpath ▸ List.mem_map_of_mem hfile)
    | literal _ hcount hne => exact hne (hcount.unique hone)
  · intro hnone
    rw [← validateProbes_eq_ok_iff_fit]
    cases hprobes : fixture.validateProbes [] probes with
    | ok u => rfl
    | error e =>
      -- an error names a probe that breaks a rule, and there is none
      obtain ⟨front, p, back, hsplit, -, hbreaks⟩ := validateProbes_eq_error_iff_breaks.1 hprobes
      exact absurd hbreaks (hnone front p back hsplit e)

theorem validate_eq_error_iff : fixture.validate = .error e ↔ fixture.Refused e := by
  unfold validate
  constructor
  · intro h
    split at h
    · next hempty =>
      cases h
      exact .empty (List.isEmpty_iff.1 hempty)
    · next hfiles =>
      obtain ⟨front, p, back, hsplit, hfront, hbreaks⟩ := validateProbes_eq_error_iff_breaks.1 h
      exact .probe (mt List.isEmpty_iff.2 hfiles) hsplit hfront hbreaks
  · intro hrefused
    cases hrefused with
    | empty hempty => rw [if_pos (List.isEmpty_iff.2 hempty)]
    | probe hfiles hsplit hfront hbreaks =>
      rw [if_neg (mt List.isEmpty_iff.1 hfiles)]
      exact validateProbes_eq_error_iff_breaks.2 ⟨_, _, _, hsplit, hfront, hbreaks⟩

/-- **Validation is decided by the rules**: a fixture is accepted exactly when it has a file
    and its probes are fit, and otherwise it is refused for the first rule that is broken. -/
theorem validate_decided (fixture : Fixture) :
    (fixture.validate = .ok () ↔ fixture.files ≠ [] ∧ fixture.Fit fixture.probes) ∧
      ∀ e, fixture.validate = .error e ↔ fixture.Refused e := by
  refine ⟨?_, fun e => validate_eq_error_iff⟩
  rw [validate_eq_ok_iff, fit_iff_literalCount]

/-- The second probe is refused as a duplicate of the first, although its file is not there
    either. The third one is not looked at. -/
example :
    (ofFiles .es6 [⟨"a.js", "f(\"a0\")"⟩]
      [⟨"a0", "a.js"⟩, ⟨"a0", "b.js"⟩, ⟨"a1", "a.js"⟩]).validate =
        .error (.duplicateProbe "a0") := by
  decide +kernel

end MapAudit.Fixture
