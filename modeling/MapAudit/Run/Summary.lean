import MapAudit.Config.Arguments
import MapAudit.Json.Printer
import MapAudit.Verification.Report

/-! # Summaries

    A summary has the reports of all tasks in the order in which the tasks were
    launched. It is written for people, with one line per task, a rule and a
    line of totals; or as a JSON document, whose keys are in alphabetical order.
-/

namespace MapAudit

/-- **Summary** of a run. -/
structure Summary where
  /-- The reports of the tasks. -/
  tasks : List Report
  deriving DecidableEq, Repr

namespace Summary

/-- How many checks held. -/
def passed (s : Summary) : Nat :=
  s.tasks.foldr (fun r n => r.passed + n) 0

/-- How many checks did not hold. -/
def failed (s : Summary) : Nat :=
  s.tasks.foldr (fun r n => r.failed + n) 0

/-- A noun for a number of things. -/
def plural (n : Nat) (one many : String) : String :=
  if n = 1 then one else many

/-- The line of a task. -/
def taskLine (r : Report) : String :=
  let total := r.passed + r.failed
  let checks := plural total "check" "checks"
  if r.failed = 0 then
    "✅ [" ++ r.kind ++ "] " ++ toString total ++ " " ++ checks ++ " passed\n"
  else
    "❌ [" ++ r.kind ++ "] " ++ toString r.failed ++ " of " ++ toString total ++ " " ++ checks
      ++ " failed\n"

/-- The rule between the tasks and the totals. -/
def rule : String :=
  "====================================\n"

/-- The line of totals. It is not ended. -/
def totalsLine (s : Summary) : String :=
  "verify-source-map found " ++ toString s.failed ++ " " ++ plural s.failed "failure" "failures"
    ++ " in " ++ toString s.tasks.length ++ " " ++ plural s.tasks.length "task" "tasks"

/-- The summary for people. -/
def humanText (s : Summary) : String :=
  String.join (s.tasks.map taskLine) ++ rule ++ s.totalsLine

/-- A check as a JSON value. -/
def checkJson (c : Check) : Json :=
  .object [("message", .string c.message), ("success", .bool c.success)]

/-- A report as a JSON value. -/
def reportJson (r : Report) : Json :=
  .object [
    ("checks", .array (r.checks.map checkJson)),
    ("failed", .ofNat r.failed),
    ("kind", .string r.kind),
    ("passed", .ofNat r.passed)]

/-- The summary as a JSON value. -/
def toJson (s : Summary) : Json :=
  .object [
    ("failed", .ofNat s.failed),
    ("passed", .ofNat s.passed),
    ("tasks", .array (s.tasks.map reportJson))]

/-- **Text** of a summary in a format. -/
def text (s : Summary) : OutputFormat → String
  | .human => s.humanText
  | .json => s.toJson.pretty

end Summary

/-- The line that shows a diagnostic. -/
def Diagnostic.line (d : Diagnostic) : String :=
  "❌ [" ++ d.kind ++ "] " ++ d.message

end MapAudit
