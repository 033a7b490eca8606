import MapAudit.Verification.Check
import Mathlib.Data.List.Forall2
import Mathlib.Data.List.Infix

/-! # What a recorder keeps

    A recorder keeps a count of the checks that did not hold and a list of what it
    reported next to the checks themselves. Both are determined by the checks: a
    recorder is *consistent* when they agree, and recording keeps it so. What the
    accessors of a recorder say, and what has been reported, can therefore be told from
    the checks that were recorded, after every single call.
-/

namespace MapAudit

/-- **Diagnostics** of some checks: one for each check that did not hold, in order. -/
def Check.diagnostics (kind : String) (checks : List Check) : List Diagnostic :=
  (checks.filter (!·.success)).map fun c => ⟨kind, c.message⟩

theorem Check.diagnostics_append (kind : String) (as bs : List Check) :
    diagnostics kind (as ++ bs) = diagnostics kind as ++ diagnostics kind bs := by
  simp [diagnostics]

namespace Recorder

/-- Records checks in their order. -/
def recordAll (r : Recorder) (checks : List Check) : Recorder :=
  checks.foldl record r

/-- **Consistency** of what a recorder keeps with the checks it has seen. -/
structure Consistent (r : Recorder) : Prop where
  /-- The count is that of the checks that did not hold. -/
  failed_eq : r.failed = r.checks.countP (!·.success)
  /-- The checks that did not hold have been reported, and no others. -/
  reported_eq : r.reported = Check.diagnostics r.kind r.checks

/-! ### One check -/

@[simp] theorem record_kind (r : Recorder) (c : Check) : (r.record c).kind = r.kind := by
  unfold record
  split <;> rfl

@[simp] theorem record_checks (r : Recorder) (c : Check) :
    (r.record c).checks = r.checks ++ [c] := by
  unfold record
  split <;> rfl

theorem consistent_start (kind : String) : (start kind).Consistent :=
  ⟨rfl, rfl⟩

/-- **Step**: recording a check keeps a recorder consistent. -/
theorem Consistent.record {r : Recorder} (h : r.Consistent) (c : Check) :
    (r.record c).Consistent := by
  constructor
  · rw [record_checks, List.countP_append, ← h.failed_eq]
    unfold Recorder.record
    cases hc : c.success <;> simp [hc]
  · rw [record_checks, record_kind, Check.diagnostics_append, ← h.reported_eq]
    unfold Recorder.record
    cases hc : c.success <;> simp [hc, Check.diagnostics]

/-! ### Many checks -/

@[simp] theorem recordAll_kind (r : Recorder) (checks : List Check) :
    (r.recordAll checks).kind = r.kind := by
  induction checks generalizing r with
  | nil => rfl
  | cons c rest ih =>
    have hrest := ih (r.record c)
    rwa [record_kind] at hrest

@[simp] theorem recordAll_checks (r : Recorder) (checks : List Check) :
    (r.recordAll checks).checks = r.checks ++ checks := by
  induction checks generalizing r with
  | nil => simp [recordAll]
  | cons c rest ih =>
    have hrest := ih (r.record c)
    rw [record_checks, List.append_assoc] at hrest
    exact hrest

/-- **Run**: a recorder is consistent after any number of checks. -/
theorem Consistent.recordAll {r : Recorder} (h : r.Consistent) (checks : List Check) :
    (r.recordAll checks).Consistent := by
  induction checks generalizing r with
  | nil => exact h
  | cons c rest ih => exact ih (h.record c)

/-- The checks that held are the ones that are left. -/
theorem Consistent.passed_eq {r : Recorder} (h : r.Consistent) :
    r.passed = r.checks.countP (·.success) := by
  have hlen := List.length_eq_countP_add_countP (l := r.checks) Check.success
  have hnot : r.checks.countP (fun c => decide (¬ c.success = true)) =
      r.checks.countP (!·.success) :=
    List.countP_congr fun c _ => by simp
  rw [passed, h.failed_eq, hlen, hnot, Nat.add_sub_cancel]

/-! ### After every call -/

/-- **Account** of the checks that were recorded, by a recorder with a label. -/
structure Accounts (kind : String) (checks : List Check) (r : Recorder) : Prop where
  /-- The checks that were recorded are stored, in order. -/
  checks_eq : r.checks = checks
  /-- Those that did not hold are counted. -/
  failed_eq : r.failed = checks.countP (!·.success)
  /-- There are no more of these than checks: what is left can be had by a subtraction. -/
  failed_le : r.failed ≤ r.checks.length
  /-- Those that held are counted. -/
  passed_eq : r.passed = checks.countP (·.success)
  /-- Those that did not hold have been reported, each once, in order and under the label. -/
  reported_eq : r.reported = Check.diagnostics kind checks
  /-- The report of the latest check does not wait for another call. -/
  latest : ∀ c, checks.getLast? = some c → c.success = false →
    r.reported.getLast? = some ⟨kind, c.message⟩

theorem Consistent.accounts {r : Recorder} (h : r.Consistent) : r.Accounts r.kind r.checks where
  checks_eq := rfl
  failed_eq := h.failed_eq
  failed_le := h.failed_eq ▸ List.countP_le_length
  passed_eq := h.passed_eq
  reported_eq := h.reported_eq
  latest := by
    intro c hlast hfailed
    obtain ⟨before, hchecks⟩ := List.getLast?_eq_some_iff.1 hlast
    rw [h.reported_eq, hchecks, Check.diagnostics_append]
    simp [Check.diagnostics, hfailed]

/-- **Run**: the recorders between the calls, each with the calls that led to it. -/
theorem Consistent.forall₂_accounts {r : Recorder} (h : r.Consistent) (calls : List Check) :
    List.Forall₂ (fun made r' => r'.Accounts r.kind (r.checks ++ made)) calls.inits
      (calls.scanl Recorder.record r) := by
  induction calls generalizing r with
  | nil =>
    have hstart : r.Accounts r.kind (r.checks ++ []) := by
      rw [List.append_nil]
      exact h.accounts
    exact .cons hstart .nil
  | cons c rest ih =>
    have hstart : r.Accounts r.kind (r.checks ++ []) := by
      rw [List.append_nil]
      exact h.accounts
    -- The later ones start from a recorder that has the first check already.
    have hrest := ih (h.record c)
    rw [record_kind, record_checks] at hrest
    simp only [List.append_assoc, List.singleton_append] at hrest
    rw [List.inits_cons, List.scanl_cons]
    exact .cons hstart (List.forall₂_map_left_iff.2 hrest)

/-- **Accounting**: of a new recorder, and after every call that is made on it. -/
theorem accounts_after_every_call (kind : String) (calls : List Check) :
    List.Forall₂ (fun made r => r.Accounts kind made) calls.inits
      (calls.scanl record (start kind)) :=
  (consistent_start kind).forall₂_accounts calls

/-- A check that does not hold, between two that do. -/
example : [⟨true, "one"⟩, ⟨false, "two"⟩, ⟨true, "three"⟩].scanl record (start "run") =
    [⟨"run", [], 0, []⟩,
      ⟨"run", [⟨true, "one"⟩], 0, []⟩,
      ⟨"run", [⟨true, "one"⟩, ⟨false, "two"⟩], 1, [⟨"run", "two"⟩]⟩,
      ⟨"run", [⟨true, "one"⟩, ⟨false, "two"⟩, ⟨true, "three"⟩], 1, [⟨"run", "two"⟩]⟩] := by
  decide

end Recorder

end MapAudit
