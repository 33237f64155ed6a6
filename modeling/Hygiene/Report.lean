import Hygiene.Error
import Hygiene.Failure
import Hygiene.Header.Verdict
import Hygiene.SystemPath
import Hygiene.Walk.Tally

/-!
# The report of a check

A check makes a record of every file that can carry a header and lists the
failures, each with the path that it concerns. A file is compliant when its
header was correct or was fixed. The check is passed when every record is
compliant and nothing failed, and the exit code says whether it is.

A report can be one on paths of any kind.
-/

set_option autoImplicit false

namespace Hygiene

/-- What was found of one file. The status is the one before any fix. -/
structure Record (π : Type := Path) where
  path : π
  kind : FileKind
  status : Header.Status
  fixed : Bool
  deriving DecidableEq

/-- Whether a file carries the notice after the check. -/
def Record.isCompliant {π : Type} (record : Record π) : Bool :=
  record.fixed || record.status == .correct

/-- The outcome of a check. -/
structure Report (π : Type := Path) where
  records : List (Record π)
  failures : List (Failure π)
  tally : Walk.Tally
  deriving DecidableEq

namespace Report

variable {π : Type}

/-- The files that were fixed. -/
def fixed (report : Report π) : List π :=
  (report.records.filter Record.fixed).map Record.path

/-- The files that are not compliant. -/
def failed (report : Report π) : List π :=
  (report.records.filter fun record => !record.isCompliant).map Record.path

/-- Whether nothing is left to complain of. -/
def passed (report : Report π) : Bool :=
  report.failures.isEmpty && report.failed.isEmpty

/-- The code with which the check ends. -/
def exitCode (report : Report π) : ExitCode :=
  if report.passed then .success else .checkFailed

/-- A check is passed when nothing failed and every record is compliant. -/
theorem passed_iff (report : Report π) :
    report.passed = true ↔
      report.failures = [] ∧ ∀ record ∈ report.records, record.isCompliant = true := by
  simp [passed, failed, List.filter_eq_nil_iff]

end Report

end Hygiene
