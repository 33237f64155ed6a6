import Hygiene.SystemError
import Hygiene.Text.Basic

/-!
# Running programs

An invocation is a program with its arguments. Running it fails when the program cannot be
started; otherwise it comes to an execution.
-/

set_option autoImplicit false

namespace Hygiene.Launch

/-- A program and its arguments. -/
structure Invocation where
  program : Text
  arguments : List Text
  deriving DecidableEq, Repr

/-- The words of an invocation on one line. -/
def Invocation.commandLine (invocation : Invocation) : Text :=
  Text.join [' '] (invocation.program :: invocation.arguments)

/-- How a program ended. -/
inductive Ending where
  | exited (code : Nat)
  /-- A signal ended it. -/
  | killed
  deriving DecidableEq, Repr

/-- What running a program came to: how it ended and what it wrote. -/
structure Execution where
  ending : Ending
  output : Text
  errors : Text
  deriving DecidableEq, Repr

/-- A way to run programs. -/
abbrev Launcher := Invocation → Except SystemError Execution

end Hygiene.Launch
