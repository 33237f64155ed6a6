import Hygiene.Content
import Hygiene.Python.Lint

/-!
# Linting Python files

Each file has findings, or an error when it cannot be read or judged. What is wrong with
one file does not keep the others from being judged.
-/

set_option autoImplicit false

namespace Hygiene.Python

open Log (Event Told)

/-- What was found in files: the findings with their files, and the errors. -/
structure LintReport where
  findings : List (Path × Finding)
  errors : List Error

namespace LintReport

/-- The report on no files. -/
def empty : LintReport := ⟨[], []⟩

/-- The report on some files and then some others. -/
def append (first second : LintReport) : LintReport :=
  ⟨first.findings ++ second.findings, first.errors ++ second.errors⟩

/-- The code with which the lint ends. -/
def exitCode (report : LintReport) : ExitCode :=
  if report.findings.isEmpty && report.errors.isEmpty then .success else .checkFailed

end LintReport

/-- The findings of rules in the file at a path. -/
def lintContent (workspace : Workspace) (rules : List Rule) (path : Path) :
    Told (Except Error (List Finding)) := do
  return (← Content.readText workspace path).bind fun source =>
    (lint rules source).mapError (Refusal.error path)

/-- The report on one file. -/
def lintFile (workspace : Workspace) (rules : List Rule) (path : Path) : Told LintReport := do
  match ← lintContent workspace rules path with
  | .ok findings =>
    Told.tell (.debug s!"{path.display}: {findings.length} findings")
    return ⟨findings.map fun finding => (path, finding), []⟩
  | .error error =>
    Told.tell (.warn error.message)
    return ⟨[], [error]⟩

/-- The report on files, in order. -/
def lintFiles (workspace : Workspace) (rules : List Rule) (files : List Path) :
    Told LintReport := do
  return (← files.mapM (lintFile workspace rules)).foldr LintReport.append .empty

end Hygiene.Python
