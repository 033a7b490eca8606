import MapAudit.Proofs.Verification.Recorder
import MapAudit.Verification.Report
import Mathlib.Data.List.Forall2

/-! # Checking probes one after another

    A loop over probes either records one check for each probe, or stops at the
    first probe whose places cannot be found. In the second case it has recorded
    what it would have recorded for the probes before that one alone.

    The loop looks at the files of the fixture and at nothing else in it, so it does
    not matter which other probes the fixture has.

    What a verification reports are the checks that did not hold, of all checks that it
    makes or of those before the fault that stops it.
-/

namespace MapAudit

open Text (LineIndex)

/-- The fixture with other probes. -/
def Fixture.withProbes (fixture : Fixture) (probes : List Probe) : Fixture :=
  { fixture with probes }

namespace Verification

variable {fixture : Fixture} {map : SourceMap} {output : LineIndex}
  {r r' : Recorder} {probes : List Probe}

/-- The check of a probe whose places can be found. -/
def CheckOf (fixture : Fixture) (map : SourceMap) (output : LineIndex) (p : Probe) (c : Check) :
    Prop :=
  ∃ expected generated, probePlaces fixture output p = .ok (expected, generated) ∧
    c = checkPlace map expected generated

/-! ### One probe -/

theorem CheckOf.unique {p : Probe} {c c' : Check} (h : CheckOf fixture map output p c)
    (h' : CheckOf fixture map output p c') : c = c' := by
  obtain ⟨expected, generated, hplaces, rfl⟩ := h
  obtain ⟨expected', generated', hplaces', rfl⟩ := h'
  obtain ⟨rfl, rfl⟩ := Prod.mk.inj (Except.ok.inj (hplaces.symm.trans hplaces'))
  rfl

theorem checkProbes_cons_ok {p : Probe} {c : Check} (h : CheckOf fixture map output p c) :
    checkProbes fixture map output r (p :: probes) =
      checkProbes fixture map output (r.record c) probes := by
  obtain ⟨expected, generated, hplaces, rfl⟩ := h
  simp only [checkProbes, hplaces]

theorem checkProbes_cons_error {p : Probe} {fault : VerificationFault}
    (h : probePlaces fixture output p = .error fault) :
    checkProbes fixture map output r (p :: probes) = (r, some fault) := by
  simp only [checkProbes, h]

/-- The places of a probe are found, or there is a fault. -/
theorem checkOf_or_error (fixture : Fixture) (map : SourceMap) (output : LineIndex) (p : Probe) :
    (∃ c, CheckOf fixture map output p c) ∨
      ∃ fault, probePlaces fixture output p = .error fault := by
  cases hplaces : probePlaces fixture output p with
  | error fault => exact Or.inr ⟨fault, rfl⟩
  | ok places => exact Or.inl ⟨_, places.1, places.2, hplaces, rfl⟩

/-! ### The loop -/

/-- **Loop without fault**: every probe has its check, in order. -/
theorem checkProbes_eq_none_iff :
    checkProbes fixture map output r probes = (r', none) ↔
      ∃ checks, List.Forall₂ (CheckOf fixture map output) probes checks ∧
        r' = r.recordAll checks := by
  induction probes generalizing r with
  | nil =>
    constructor
    · intro h
      exact ⟨[], .nil, (Prod.mk.inj h).1.symm⟩
    · rintro ⟨checks, hchecks, rfl⟩
      cases hchecks
      rfl
  | cons p rest ih =>
    rcases checkOf_or_error fixture map output p with ⟨c, hc⟩ | ⟨fault, hfault⟩
    · rw [checkProbes_cons_ok hc, ih]
      constructor
      · rintro ⟨checks, hchecks, rfl⟩
        exact ⟨c :: checks, .cons hc hchecks, rfl⟩
      · rintro ⟨checks, hchecks, rfl⟩
        cases hchecks with
        | cons hhead htail =>
          obtain rfl := hc.unique hhead
          exact ⟨_, htail, rfl⟩
    · rw [checkProbes_cons_error hfault]
      constructor
      · intro h
        exact absurd (Prod.mk.inj h).2 (by simp)
      · rintro ⟨checks, hchecks, rfl⟩
        cases hchecks with
        | cons hhead _ =>
          obtain ⟨expected, generated, hok, -⟩ := hhead
          exact absurd (hfault.symm.trans hok) (by simp)

/-- **Loop with a fault**: it is that of a probe before which there is none, and what
    was recorded is what the probes before it give. -/
theorem checkProbes_eq_some_iff {fault : VerificationFault} :
    checkProbes fixture map output r probes = (r', some fault) ↔
      ∃ before p after, probes = before ++ p :: after ∧
        probePlaces fixture output p = .error fault ∧
        checkProbes fixture map output r before = (r', none) := by
  induction probes generalizing r with
  | nil => simp [checkProbes]
  | cons p rest ih =>
    rcases checkOf_or_error fixture map output p with ⟨c, hc⟩ | ⟨fault', hfault'⟩
    · rw [checkProbes_cons_ok hc, ih]
      constructor
      · rintro ⟨before, q, after, rfl, hq, hbefore⟩
        exact ⟨p :: before, q, after, rfl, hq, (checkProbes_cons_ok hc).trans hbefore⟩
      · rintro ⟨before, q, after, hsplit, hq, hbefore⟩
        cases before with
        | nil =>
          obtain ⟨rfl, -⟩ := List.cons.inj hsplit
          obtain ⟨expected, generated, hok, -⟩ := hc
          exact absurd (hq.symm.trans hok) (by simp)
        | cons b before =>
          obtain ⟨rfl, rfl⟩ := List.cons.inj hsplit
          exact ⟨before, q, after, rfl, hq, (checkProbes_cons_ok hc).symm.trans hbefore⟩
    · rw [checkProbes_cons_error hfault']
      constructor
      · intro h
        obtain ⟨rfl, hfault⟩ := Prod.mk.inj h
        exact ⟨[], p, rest, rfl, by rw [hfault', Option.some.inj hfault], rfl⟩
      · rintro ⟨before, q, after, hsplit, hq, hbefore⟩
        cases before with
        | nil =>
          obtain ⟨rfl, -⟩ := List.cons.inj hsplit
          obtain ⟨rfl, -⟩ := Prod.mk.inj hbefore
          rw [Except.error.inj (hfault'.symm.trans hq)]
        | cons b before =>
          obtain ⟨rfl, -⟩ := List.cons.inj hsplit
          rw [checkProbes_cons_error hfault'] at hbefore
          exact absurd (Prod.mk.inj hbefore).2 (by simp)

/-- In a loop without fault, each of the probes has its check. -/
theorem exists_checkOf_of_mem {p : Probe} {checks : List Check}
    (h : List.Forall₂ (CheckOf fixture map output) probes checks) (hmem : p ∈ probes) :
    ∃ c, CheckOf fixture map output p c := by
  induction h with
  | nil => simp at hmem
  | cons hhead _ ih =>
    rcases List.mem_cons.1 hmem with rfl | hmem
    · exact ⟨_, hhead⟩
    · exact ih hmem

/-- The loop does not look at the probes of the fixture. -/
theorem checkProbes_withProbes (others : List Probe) :
    checkProbes (fixture.withProbes others) map output r probes =
      checkProbes fixture map output r probes := by
  induction probes generalizing r with
  | nil => rfl
  | cons p rest ih =>
    have hplaces : probePlaces (fixture.withProbes others) output p =
        probePlaces fixture output p := rfl
    simp only [checkProbes, hplaces, ih]

/-! ### The verification -/

variable {kind : String} {text : List Char}

/-- The recorder of a verification when its probes come up. -/
def linked (kind : String) (text : List Char) : Recorder :=
  (Recorder.start kind).record (checkLink text)

theorem linked_consistent (kind : String) (text : List Char) : (linked kind text).Consistent :=
  (Recorder.consistent_start kind).record _

theorem ofMap_of_none
    (h : checkProbes fixture map (.ofText text) (linked kind text) fixture.probes = (r, none)) :
    ofMap kind fixture text map = { result := .ok r.toReport, reported := r.reported } := by
  unfold linked at h
  simp only [ofMap, h]

theorem ofMap_of_some {fault : VerificationFault}
    (h : checkProbes fixture map (.ofText text) (linked kind text) fixture.probes =
      (r, some fault)) :
    ofMap kind fixture text map = { result := .error fault, reported := r.reported } := by
  unfold linked at h
  simp only [ofMap, h]

/-- A verification that comes to a report has a check for every probe. -/
theorem exists_checks_of_ofMap_ok {report : Report}
    (h : (ofMap kind fixture text map).result = .ok report) :
    ∃ checks, List.Forall₂ (CheckOf fixture map (.ofText text)) fixture.probes checks ∧
      ofMap kind fixture text map =
        { result := .ok ((linked kind text).recordAll checks).toReport
          reported := ((linked kind text).recordAll checks).reported } := by
  cases hloop : checkProbes fixture map (.ofText text) (linked kind text) fixture.probes with
  | mk r stop =>
    cases stop with
    | none =>
      obtain ⟨checks, hchecks, rfl⟩ := checkProbes_eq_none_iff.1 hloop
      exact ⟨checks, hchecks, ofMap_of_none hloop⟩
    | some fault =>
      rw [ofMap_of_some hloop] at h
      exact absurd h (by simp)

/-- A verification that comes to a fault comes to that of a probe, and reports what it
    does for the probes before it alone. -/
theorem exists_probe_of_ofMap_error {fault : VerificationFault}
    (h : (ofMap kind fixture text map).result = .error fault) :
    ∃ before p after, fixture.probes = before ++ p :: after ∧
      probePlaces fixture (.ofText text) p = .error fault ∧
      (∃ report, (ofMap kind (fixture.withProbes before) text map).result = .ok report) ∧
      (ofMap kind fixture text map).reported =
        (ofMap kind (fixture.withProbes before) text map).reported := by
  cases hloop : checkProbes fixture map (.ofText text) (linked kind text) fixture.probes with
  | mk r stop =>
    cases stop with
    | none =>
      rw [ofMap_of_none hloop] at h
      exact absurd h (by simp)
    | some fault' =>
      obtain ⟨before, p, after, hsplit, hp, hbefore⟩ := checkProbes_eq_some_iff.1 hloop
      have hcut : checkProbes (fixture.withProbes before) map (.ofText text) (linked kind text)
          (fixture.withProbes before).probes = (r, none) :=
        (checkProbes_withProbes before).trans hbefore
      rw [ofMap_of_some hloop] at h ⊢
      obtain rfl := Except.error.inj h
      refine ⟨before, p, after, hsplit, hp, ?_⟩
      rw [ofMap_of_none hcut]
      exact ⟨⟨r.toReport, rfl⟩, rfl⟩

/-- A probe with a fault keeps a verification from coming to a report. -/
theorem exists_fault_of_mem {p : Probe} {fault : VerificationFault} (hmem : p ∈ fixture.probes)
    (hp : probePlaces fixture (.ofText text) p = .error fault) :
    ∃ fault', (ofMap kind fixture text map).result = .error fault' := by
  cases hresult : (ofMap kind fixture text map).result with
  | error fault' => exact ⟨fault', rfl⟩
  | ok report =>
    obtain ⟨checks, hchecks, -⟩ := exists_checks_of_ofMap_ok hresult
    obtain ⟨c, expected, generated, hok, -⟩ := exists_checkOf_of_mem hchecks hmem
    exact absurd (hp.symm.trans hok) (by simp)

end Verification

/-! ### The text of the map -/

variable {kind : String} {fixture : Fixture} {output map : String}

theorem verify_of_parse_error {e : MapError} (h : SourceMap.parse map = .error e) :
    verify kind fixture output map = { result := .error (.map e), reported := [] } := by
  simp only [verify, h]

theorem verify_of_parse_ok {m : SourceMap} (h : SourceMap.parse map = .ok m) :
    verify kind fixture output map = .ofMap kind fixture output.toList m := by
  simp only [verify, h]

/-! ### Checks of a verification -/

namespace Verification

/-- **Checks made** by a verification that comes to a result: all of them, those before the
    probe whose places cannot be found, or none if the map cannot be read. -/
inductive ChecksMade (fixture : Fixture) (output map : String) :
    Except VerificationFault Report → List Check → Prop where
  /-- The map cannot be read. -/
  | unread {e : MapError} (unread : SourceMap.parse map = .error e) :
      ChecksMade fixture output map (.error (.map e)) []
  /-- The places of a probe cannot be found. -/
  | stopped {m : SourceMap} {before after : List Probe} {p : Probe} {fault : VerificationFault}
      {checks : List Check} (read : SourceMap.parse map = .ok m)
      (split : fixture.probes = before ++ p :: after)
      (faulty : probePlaces fixture (.ofText output.toList) p = .error fault)
      (made : List.Forall₂ (CheckOf fixture m (.ofText output.toList)) before checks) :
      ChecksMade fixture output map (.error fault) (checkLink output.toList :: checks)
  /-- Every probe has its check. -/
  | finished {m : SourceMap} {report : Report} {checks : List Check}
      (read : SourceMap.parse map = .ok m)
      (made : List.Forall₂ (CheckOf fixture m (.ofText output.toList)) fixture.probes checks)
      (reported : report.checks = checkLink output.toList :: checks) :
      ChecksMade fixture output map (.ok report) report.checks

/-- What a recorder has reported after the link and some more checks. -/
theorem reported_recordAll_linked (kind : String) (text : List Char) (checks : List Check) :
    ((linked kind text).recordAll checks).reported =
      Check.diagnostics kind (checkLink text :: checks) := by
  have hconsistent := (linked_consistent kind text).recordAll checks
  rw [hconsistent.reported_eq]
  simp [linked, Recorder.start]

/-- **Diagnostics of a verification**: those of the checks that it makes. -/
theorem exists_checksMade (kind : String) (fixture : Fixture) (output map : String) :
    ∃ checks, ChecksMade fixture output map (verify kind fixture output map).result checks ∧
      (verify kind fixture output map).reported = Check.diagnostics kind checks := by
  cases hparse : SourceMap.parse map with
  | error e =>
    rw [verify_of_parse_error hparse]
    exact ⟨[], .unread hparse, rfl⟩
  | ok m =>
    rw [verify_of_parse_ok hparse]
    cases hloop : checkProbes fixture m (.ofText output.toList) (linked kind output.toList)
        fixture.probes with
    | mk r stop =>
      cases stop with
      | none =>
        obtain ⟨checks, hchecks, rfl⟩ := checkProbes_eq_none_iff.1 hloop
        rw [ofMap_of_none hloop, reported_recordAll_linked]
        have hreport : ((linked kind output.toList).recordAll checks).toReport.checks =
            checkLink output.toList :: checks := by
          simp [Recorder.toReport, linked, Recorder.start]
        exact ⟨_, .finished hparse hchecks hreport, by rw [hreport]⟩
      | some fault =>
        obtain ⟨before, p, after, hsplit, hp, hbefore⟩ := checkProbes_eq_some_iff.1 hloop
        obtain ⟨checks, hchecks, rfl⟩ := checkProbes_eq_none_iff.1 hbefore
        rw [ofMap_of_some hloop, reported_recordAll_linked]
        exact ⟨_, .stopped hparse hsplit hp hchecks, rfl⟩

end Verification

/-! ### A small verification -/

/-- A fixture with two probes, one of them outside ASCII. -/
def Fixture.twoProbes : Fixture :=
  .ofFiles .es6 [⟨"a.js", "x\n\"é\" \"b\""⟩] [⟨"é", "a.js"⟩, ⟨"b", "a.js"⟩]

/-- An output with both literals, the first of them behind a surrogate pair. -/
def twoProbesOutput : String :=
  "𝄞 \"é\"\n\"b\"\n" ++ Verification.mapLink

/-- A map that is right about the first literal and one column off at the second. -/
def twoProbesMap : String :=
  "\x7b\"sources\":[\"a.js\"],\"mappings\":\"GACA;AAAK\"\x7d"

end MapAudit
