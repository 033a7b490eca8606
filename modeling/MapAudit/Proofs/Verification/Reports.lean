import MapAudit.Proofs.SourceMap.Lookup
import MapAudit.Proofs.Verification.Places
import MapAudit.Proofs.Verification.Probes

/-! # What a report says

    A report can be told from the fixture, the output and the map without any index
    or search: places are counted in the text before the first occurrence of a
    literal, and the position a map answers with is found by scanning its mappings.
    The numbers of the report and the diagnostics follow from its checks.
-/

namespace MapAudit

open Text (OccursAt)

namespace Verification

/-- **Check by counting**: the check of a probe holds exactly when the map leads from
    where its literal first stands in the output to where it first stands in its
    source. -/
def CheckedByCounting (fixture : Fixture) (output : List Char) (map : SourceMap)
    (p : Probe) (c : Check) : Prop :=
  ∃ expected generated, Stands fixture output p expected generated ∧
    (c.success = true ↔ map.originalPosition generated = expected) ∧
    map.originalPosition generated = map.scannedPosition generated

/-- **Report by counting**: the report on a build when its checks are made by counting. -/
structure ReportedByCounting (kind : String) (fixture : Fixture) (output : List Char)
    (map : SourceMap) (report : Report) : Prop where
  /-- The report has the label of the run. -/
  kind_eq : report.kind = kind
  /-- There is a check for the link and one for every probe. -/
  length_eq : report.checks.length = 1 + fixture.probes.length
  /-- The first check holds exactly when the output links to its map. -/
  link : ∃ c, report.checks.head? = some c ∧
    (c.success = true ↔ ∃ n, OccursAt mapLink.toList output n)
  /-- The others are those of the probes, in order. -/
  probes : List.Forall₂ (CheckedByCounting fixture output map) fixture.probes report.checks.tail
  /-- The checks that held are counted. -/
  passed_eq : report.passed = report.checks.countP (·.success)
  /-- The checks that did not hold are counted. -/
  failed_eq : report.failed = report.checks.countP (!·.success)

variable {kind : String} {fixture : Fixture}

/-! ### The checks -/

theorem checkLink_success_iff {output : List Char} :
    (checkLink output).success = true ↔ ∃ n, OccursAt mapLink.toList output n :=
  Text.contains_iff

theorem checkedByCounting_of_checkOf {output : List Char} {map : SourceMap} {p : Probe}
    {c : Check} (h : CheckOf fixture map (.ofText output) p c) :
    CheckedByCounting fixture output map p c := by
  obtain ⟨expected, generated, hplaces, rfl⟩ := h
  refine ⟨expected, generated, stands_of_probePlaces hplaces, ?_,
    SourceMap.originalPosition_eq_scannedPosition generated⟩
  simp only [checkPlace, decide_eq_true_eq]
  exact eq_comm

/-- **Report of checks**: what the recorder of a verification comes to is the report by
    counting, if all probes have their checks. -/
theorem reportedByCounting_of_checks {output : List Char} {map : SourceMap}
    {checks : List Check}
    (h : List.Forall₂ (CheckOf fixture map (.ofText output)) fixture.probes checks) :
    ReportedByCounting kind fixture output map
      ((linked kind output).recordAll checks).toReport := by
  have hconsistent := (linked_consistent kind output).recordAll checks
  have hchecks : ((linked kind output).recordAll checks).checks = checkLink output :: checks := by
    simp [linked, Recorder.start]
  constructor
  · simp [Recorder.toReport, linked, Recorder.start]
  · simp only [Recorder.toReport, hchecks, List.length_cons, h.length_eq]
    omega
  · refine ⟨checkLink output, ?_, checkLink_success_iff⟩
    simp only [Recorder.toReport, hchecks, List.head?_cons]
  · simp only [Recorder.toReport, hchecks, List.tail_cons]
    exact h.imp fun p c => checkedByCounting_of_checkOf
  · exact hconsistent.passed_eq
  · exact hconsistent.failed_eq

end Verification

open Verification

/-! ### The verification -/

/-- **Reports**: a verification that comes to a report comes to the one by counting, and
    its diagnostics are those of the checks that did not hold. -/
theorem verify_reports_by_counting {kind : String} {fixture : Fixture} {output map : String}
    {report : Report} (h : (verify kind fixture output map).result = .ok report) :
    ∃ m, SourceMap.parse map = .ok m ∧
      ReportedByCounting kind fixture output.toList m report ∧
      (verify kind fixture output map).reported = Check.diagnostics kind report.checks := by
  cases hparse : SourceMap.parse map with
  | error e =>
    rw [verify_of_parse_error hparse] at h
    exact absurd h (by simp)
  | ok m =>
    refine ⟨m, rfl, ?_⟩
    rw [verify_of_parse_ok hparse] at h ⊢
    obtain ⟨checks, hchecks, hverify⟩ := exists_checks_of_ofMap_ok h
    rw [hverify] at h ⊢
    obtain rfl := Except.ok.inj h
    have hreported := ((linked_consistent kind output.toList).recordAll checks).reported_eq
    refine ⟨reportedByCounting_of_checks hchecks, hreported.trans ?_⟩
    simp [linked, Recorder.start, Recorder.toReport]

/-- One of the two probes drifted, and the report says so. -/
theorem verify_reports_drift :
    ∃ report, (verify "es6" .twoProbes twoProbesOutput twoProbesMap).result = .ok report ∧
      (report.passed = 2 ∧ report.failed = 1) ∧
      ∃ m, SourceMap.parse twoProbesMap = .ok m ∧
        ReportedByCounting "es6" .twoProbes twoProbesOutput.toList m report ∧
        (verify "es6" .twoProbes twoProbesOutput twoProbesMap).reported =
          Check.diagnostics "es6" report.checks := by
  have hcounts : (verify "es6" .twoProbes twoProbesOutput twoProbesMap).result.map
      (fun report => (report.passed, report.failed)) = .ok (2, 1) := by
    decide +kernel
  cases h : (verify "es6" .twoProbes twoProbesOutput twoProbesMap).result with
  | error fault =>
    rw [h] at hcounts
    exact absurd hcounts (by simp [Except.map])
  | ok report =>
    rw [h] at hcounts
    obtain ⟨hpassed, hfailed⟩ := Prod.mk.inj (Except.ok.inj hcounts)
    exact ⟨report, rfl, ⟨hpassed, hfailed⟩, verify_reports_by_counting h⟩

end MapAudit
