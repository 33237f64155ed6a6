import Hygiene.Check.File
import Hygiene.Walk.Targets

/-!
# Checking headers

The targets of a plan are resolved, and the files that they stand for are checked one
after the other. What goes wrong with one file does not keep the others from being
checked. Only a pattern that cannot be read ends the check before its report.
-/

set_option autoImplicit false

namespace Hygiene.Check

open Log (Event)

/-- What came of checking files: the workspace afterwards, the records, the failures, and
what was told on the way. -/
structure Progress where
  workspace : Workspace
  records : List Record
  failures : List Failure
  remarks : List String
  events : List Event

/-- What came of a file, in front of what came of the later ones. -/
def Progress.prepend (path : Path) (outcome : Outcome) (later : Progress) : Progress :=
  let remarks := outcome.remarks ++ later.remarks
  match outcome.record with
  | .ok record =>
    { later with
      records := record.toList ++ later.records, remarks := remarks
      events := outcome.events ++ later.events }
  | .error error =>
    { later with
      failures := ⟨path, error.message⟩ :: later.failures, remarks := remarks
      events := outcome.events ++ .warn error.message :: later.events }

/-- Files are checked one after the other, each in the workspace that the ones before it
left. -/
def checkFiles (plan : Plan) (currentYear : Nat) : Workspace → List Path → Progress
  | workspace, [] => ⟨workspace, [], [], [], []⟩
  | workspace, path :: others =>
    let outcome := checkFile workspace plan currentYear path
    (checkFiles plan currentYear outcome.workspace others).prepend path outcome

/-- The failure that a missing target is. -/
def missingFailure (target : Path) : Failure :=
  ⟨target, (Error.io target (.stated "no such file or directory")).message⟩

/-- A check that was made. -/
structure Run where
  workspace : Workspace
  report : Except Error Report
  remarks : List String
  events : List Event

/-- What is remarked of a report. -/
def closingRemarks (report : Report) : List String :=
  if report.passed then ["All files have disclaimer"] else []

/-- The check of the files that targets stand for. -/
def runResolved (workspace : Workspace) (plan : Plan) (currentYear : Nat)
    (resolution : Walk.Resolution) : Run :=
  let absent := resolution.missing.map missingFailure
  let checked := checkFiles plan currentYear workspace resolution.files
  let report : Report :=
    ⟨checked.records, absent ++ resolution.failures ++ checked.failures, resolution.tally⟩
  ⟨checked.workspace, .ok report, checked.remarks ++ closingRemarks report,
    absent.map (fun failure => .warn failure.message) ++ checked.events⟩

/-- The check that a plan asks for. -/
def run (workspace : Workspace) (plan : Plan) (currentYear : Nat) : Run :=
  match Walk.readPatterns plan.exclude with
  | .error error => ⟨workspace, .error error, [], []⟩
  | .ok patterns =>
    let resolved := Walk.resolve workspace .standard patterns plan.targets
    match resolved.value with
    | .error error => ⟨workspace, .error error, [], resolved.events⟩
    | .ok resolution =>
      let made := runResolved workspace plan currentYear resolution
      { made with events := resolved.events ++ made.events }

end Hygiene.Check
