import Hygiene.Config.Settings
import Hygiene.Error
import Hygiene.Launch.Execution
import Hygiene.Log

/-!
# The linter of a repository

The settings can name a linter that is run on the same files after the rules. Its command
is made of words: the first one is the program, and the further ones, the arguments of the
settings and the files follow it. Without a command, and without files, there is nothing
to run. The code with which the linter ends is kept as it is, and a linter that a signal
ends counts as an internal failure.
-/

set_option autoImplicit false

namespace Hygiene.Python

open Launch (Execution Invocation Launcher)
open Log (Event Told)

/-- The run of the linter on some files, if there is something to run. -/
def linterFor? (settings : Config.LinterSettings) (files : List Path) : Option Invocation :=
  match settings.command, files with
  | [], _ => none
  | _, [] => none
  | program :: leading, files =>
    some ⟨program, leading ++ settings.arguments ++ files.map Path.spelling⟩

/-- What a linter came to: its code and what it wrote. -/
structure LinterResult where
  code : Nat
  output : Text
  errors : Text
  deriving DecidableEq, Repr

/-- What an execution of the linter comes to. -/
def judgeExecution (invocation : Invocation) (execution : Execution) : Told LinterResult := do
  match execution.ending with
  | .exited code => return ⟨code, execution.output, execution.errors⟩
  | .killed =>
    Told.tell (.warn (String.ofList invocation.program ++ " terminated by signal"))
    return ⟨ExitCode.internalError.toNat, execution.output, execution.errors⟩

/-- The linter is run. -/
def runLinter (launch : Launcher) (invocation : Invocation) :
    Told (Except Error LinterResult) := do
  Told.tell (.debug ("running " ++ String.ofList invocation.commandLine))
  match launch invocation with
  | .ok execution => return .ok (← judgeExecution invocation execution)
  | .error error => return .error (.linter (String.ofList invocation.program) (.system error))

end Hygiene.Python
