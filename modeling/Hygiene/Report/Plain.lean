import Hygiene.Report
import Hygiene.Report.Styled

/-!
# The report as text

A line for each fixed file, a line for each failure, then the files that are not
compliant below a heading, and at the end a line with the counts.
-/

set_option autoImplicit false

namespace Hygiene.Report

open Styled (Span Style)

variable {π : Type} [Spelled π]

/-- The heading above the files that are not compliant. -/
def failedHeading : String :=
  "The following files failed the copyright + license check:"

/-- The style of a path. -/
def pathStyle : Style := ⟨false, some .cyan⟩

/-- The style of the heading. -/
def headingStyle : Style := ⟨true, none⟩

/-- The style of a word in front of a line. -/
def labelStyle (color : Styled.Color) : Style := ⟨true, some color⟩

/-- The line of a fixed file. -/
def fixedLine (path : π) : List Span :=
  [.styled (labelStyle .green) "FIXED", .plain " ",
    .styled pathStyle (Spelled.display path ++ "\n")]

/-- The line of a failure. -/
def failureLine (failure : Failure π) : List Span :=
  [.styled (labelStyle .yellow) "ERROR", .plain (" " ++ failure.message ++ "\n")]

/-- The line of a file that is not compliant. -/
def failedLine (path : π) : List Span :=
  [.plain "\t", .styled pathStyle (Spelled.display path ++ "\n")]

/-- The files that are not compliant, below their heading. -/
def failedLines (paths : List π) : List Span :=
  if paths.isEmpty then []
  else .styled headingStyle (failedHeading ++ "\n") :: paths.flatMap failedLine

/-- The line with the counts. What failed without a record counts as failed. -/
def summaryLine (report : Report π) : List Span :=
  let checked := report.records.length
  let failed := report.failed.length + report.failures.length
  let verdict := if failed = 0 then Span.styled (labelStyle .green) "PASS"
    else .styled (labelStyle .red) "FAIL"
  let plural := if checked = 1 then "" else "s"
  [verdict, .plain
    s!": {checked} file{plural} checked, {report.fixed.length} fixed, {failed} failed\n"]

/-- The lines of a report. -/
def spans (report : Report π) : List Span :=
  report.fixed.flatMap fixedLine ++ report.failures.flatMap failureLine ++
    failedLines report.failed ++ summaryLine report

/-- The report as text, in color or without. -/
def text (colored : Bool) (report : Report π) : String :=
  Styled.render colored report.spans

end Hygiene.Report
