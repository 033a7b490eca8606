import MapAudit.Proofs.Fixture.Catalog
import MapAudit.Proofs.Verification.Reports
import MapAudit.Proofs.World.Activity
import MapAudit.Run.Basic

/-! # Reports of tasks

    A task that builds an output and a map verifies them and ends with the result, whatever
    else the world has to say; otherwise it ends with an error of the build. So a report is
    that of a verification, under the label of the task, and so is a fault.
-/

namespace MapAudit

/-- A verification that comes to a report has counted its checks. -/
theorem exists_reportedByCounting {kind output map : String} {fixture : Fixture}
    {report : Report} (h : (verify kind fixture output map).result = .ok report) :
    ∃ m, Verification.ReportedByCounting kind fixture output.toList m report := by
  cases hparse : SourceMap.parse map with
  | error e =>
    rw [verify_of_parse_error hparse] at h
    exact absurd h (by simp)
  | ok m =>
    rw [verify_of_parse_ok hparse] at h
    obtain ⟨checks, hchecks, hverify⟩ := Verification.exists_checks_of_ofMap_ok h
    rw [hverify] at h
    obtain rfl := Except.ok.inj h
    exact ⟨m, Verification.reportedByCounting_of_checks hchecks⟩

/-- It is under the given label. -/
theorem kind_of_verify_ok {kind output map : String} {fixture : Fixture} {report : Report}
    (h : (verify kind fixture output map).result = .ok report) : report.kind = kind := by
  obtain ⟨m, hcounted⟩ := exists_reportedByCounting h
  exact hcounted.kind_eq

namespace Task

open Activity

variable {config : Config} {tool : Path} {task : Task} {fixture : Fixture} {scratch : Scratch}
  {report : Report} {e : RunError} {result : Except RunError Report}

/-! ### How a task ends -/

/-- What belongs to the build fails with errors of the build. -/
theorem error_of_mayEnd_building {α : Type} {x : ExceptT BuildError Activity α}
    (h : MayEnd (building x).run (.error e)) : ∃ b, e = .build b := by
  obtain ⟨r, -, hr⟩ := mayEnd_run_adapt_iff.1 h
  cases r with
  | ok a => exact absurd hr (by simp [Except.mapError])
  | error b => exact ⟨b, Except.error.inj hr⟩

/-- Showing diagnostics does not fail. -/
theorem not_mayEnd_reports_error (diagnostics : List Diagnostic) :
    ¬ MayEnd (diagnostics.forM fun d =>
      (Activity.report d : ExceptT RunError Activity Unit)).run (.error e) := by
  induction diagnostics with
  | nil => exact fun h => absurd (mayEnd_run_pure_iff.1 h) (by simp)
  | cons d rest ih =>
    intro h
    rcases mayEnd_run_bind_iff.1 h with ⟨e', hreport, -⟩ | ⟨-, -, hrest⟩
    · exact not_mayEnd_run_lift_error hreport
    · exact ih hrest

/-- Verifying in a scratch directory comes to an error of the build, or to the result of some
    verification against the fixture. -/
theorem cases_of_mayEnd_verifyIn
    (h : MayEnd (task.verifyIn fixture tool scratch).run result) :
    (∃ b, result = .error (.build b)) ∨
      ∃ output map,
        result = (verify task.kind fixture output map).result.mapError .verification := by
  unfold verifyIn at h
  rcases mayEnd_run_bind_iff.1 h with ⟨e, hbuild, rfl⟩ | ⟨artifacts, -, h⟩
  · obtain ⟨b, rfl⟩ := error_of_mayEnd_building hbuild
    exact Or.inl ⟨b, rfl⟩
  -- reporting does not fail, so the result is that of the verification
  rcases mayEnd_run_bind_iff.1 h with ⟨e, hreports, -⟩ | ⟨-, -, h⟩
  · exact absurd hreports (not_mayEnd_reports_error _)
  refine Or.inr ⟨artifacts.output, artifacts.map, ?_⟩
  cases hresult : (verify task.kind fixture artifacts.output artifacts.map).result with
  | ok report =>
    rw [hresult] at h
    exact mayEnd_run_pure_iff.1 h
  | error fault =>
    rw [hresult] at h
    exact mayEnd_run_throw_iff.1 h

/-- **End of a task** whose fixture is accepted: an error of the build, or the result of some
    verification against the fixture. -/
theorem cases_of_mayEnd_perform (hvalid : (Fixture.ofVariant task.variant).validate = .ok ())
    (h : MayEnd (task.perform config tool).run result) :
    (∃ b, result = .error (.build b)) ∨
      ∃ output map, result =
        (verify task.kind (Fixture.ofVariant task.variant) output map).result.mapError
          .verification := by
  unfold perform at h
  simp only [hvalid] at h
  rcases mayEnd_run_bind_iff.1 h with ⟨e, hcreate, rfl⟩ | ⟨created, -, h⟩
  · obtain ⟨b, rfl⟩ := error_of_mayEnd_building hcreate
    exact Or.inl ⟨b, rfl⟩
  obtain ⟨scratch, -, h⟩ := mayEnd_run_lift_bind_iff.1 h
  obtain ⟨verified, hverified, h⟩ := mayEnd_run_lift_bind_iff.1 h
  obtain ⟨cleanup, -, h⟩ := mayEnd_run_lift_bind_iff.1 h
  have hcases := cases_of_mayEnd_verifyIn hverified
  -- an error of the verification comes before one of the removal
  cases verified with
  | error e =>
    obtain rfl := mayEnd_run_throw_iff.1 h
    exact hcases
  | ok report =>
    cases cleanup with
    | error b => exact Or.inl ⟨b, mayEnd_run_throw_iff.1 h⟩
    | ok u =>
      obtain rfl := mayEnd_run_pure_iff.1 h
      exact hcases

/-- **Report of a task**: that of some verification against the fixture of its variant. -/
theorem exists_verify_of_mayEnd_perform (h : MayEnd (task.perform config tool).run (.ok report)) :
    ∃ output map,
      (verify task.kind (Fixture.ofVariant task.variant) output map).result = .ok report := by
  obtain ⟨hvalid, -⟩ := Fixture.accepted_ofVariant task.variant
  rcases cases_of_mayEnd_perform hvalid h with ⟨b, hb⟩ | ⟨output, map, hresult⟩
  · exact absurd hb nofun
  · refine ⟨output, map, ?_⟩
    cases hverify : (verify task.kind (Fixture.ofVariant task.variant) output map).result with
    | error fault =>
      rw [hverify] at hresult
      exact absurd hresult nofun
    | ok report' =>
      rw [hverify] at hresult
      rw [Except.ok.inj hresult]

/-- **Label**: a report of a task has its variant and, if it minifies, says so. -/
theorem kind_of_mayEnd_perform (h : MayEnd (task.perform config tool).run (.ok report)) :
    report.kind = task.variant.name ++ if task.mode.minify then "-min" else "" := by
  obtain ⟨output, map, hverify⟩ := exists_verify_of_mayEnd_perform h
  exact kind_of_verify_ok hverify

end Task

end MapAudit
