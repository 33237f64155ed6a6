import Hygiene.Content
import Hygiene.Shell.Directive

/-!
# Linting shell scripts

A script is complained of once for each directive that it lacks, and once when it cannot
be read.
-/

set_option autoImplicit false

namespace Hygiene.Shell

open Log (Event Told)

/-- A complaint about a script. -/
structure Finding where
  path : Path
  message : String
  deriving DecidableEq

/-- The line in which a complaint is shown. -/
def Finding.display (finding : Finding) : String :=
  finding.path.display ++ ": " ++ finding.message

/-- The complaint about a missing directive. -/
def missing (path : Path) (directive : Directive) : Finding :=
  ⟨path, "error: Missing \x60" ++ String.ofList directive.line ++ "\x60 directive."⟩

/-- The complaint about a script that cannot be read. When a system call failed, the path
is not told again. -/
def unreadable (path : Path) (error : Error) : Finding :=
  match error with
  | .io _ cause => ⟨path, "error: " ++ cause.message⟩
  | _ => ⟨path, "error: " ++ error.message⟩

/-- The complaints about a script. -/
def lintFile (workspace : Workspace) (path : Path) : Told (List Finding) := do
  match ← Content.readText workspace path with
  | .ok content =>
    let lacking := missingDirectives content
    Told.tell (.debug s!"{path.display}: {lacking.length} missing directives")
    return lacking.map (missing path)
  | .error error =>
    Told.tell (.warn error.message)
    return [unreadable path error]

/-- The complaints about scripts, in order. -/
def lintFiles (workspace : Workspace) (files : List Path) : Told (List Finding) := do
  return (← files.mapM (lintFile workspace)).flatten

/-- The code with which the lint ends. -/
def exitCode (findings : List Finding) : ExitCode :=
  if findings.isEmpty then .success else .checkFailed

end Hygiene.Shell
