/-! # Checks

    A check is a statement about a build that held or did not. While a build is
    verified its checks are recorded one after another, and each check that did
    not hold is reported at once, under the label of the run.

    A `Recorder` keeps what it reported, so that what a reader of the reports
    has seen at any moment can be spoken about.
-/

namespace MapAudit

/-- **Check**. -/
structure Check where
  /-- Whether it held. -/
  success : Bool
  /-- What was checked. -/
  message : String
  deriving DecidableEq, Repr

/-- **Diagnostic**: the report of a check that did not hold. -/
structure Diagnostic where
  /-- The label of the run. -/
  kind : String
  /-- The message of the check. -/
  message : String
  deriving DecidableEq, Repr

/-- **Recorder** of the checks of one run. -/
structure Recorder where
  /-- The label of the run. -/
  kind : String
  /-- The checks so far. -/
  checks : List Check
  /-- How many of them did not hold. -/
  failed : Nat
  /-- What has been reported. -/
  reported : List Diagnostic
  deriving DecidableEq, Repr

namespace Recorder

/-- A recorder that has seen no check. -/
def start (kind : String) : Recorder where
  kind := kind
  checks := []
  failed := 0
  reported := []

/-- Records a check and, if it did not hold, reports it. -/
def record (r : Recorder) (check : Check) : Recorder :=
  if check.success then
    { r with checks := r.checks ++ [check] }
  else
    { r with
      checks := r.checks ++ [check]
      failed := r.failed + 1
      reported := r.reported ++ [⟨r.kind, check.message⟩] }

/-- How many checks held. -/
def passed (r : Recorder) : Nat :=
  r.checks.length - r.failed

end Recorder

end MapAudit
