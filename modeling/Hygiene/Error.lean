import Hygiene.Path
import Hygiene.SystemError

/-!
# Errors and exit codes

Everything that can go wrong is one of the causes below. A cause has one
message, and it decides with which code a program ends when it is fatal.
-/

set_option autoImplicit false

namespace Hygiene

/-- Why reading or writing failed: a system call, or a reason stated in words. -/
inductive IoCause where
  | system (error : SystemError)
  | stated (reason : String)
  deriving DecidableEq, Repr

/-- The text of a failure to read or write. -/
def IoCause.message : IoCause → String
  | .system error => error.message
  | .stated reason => reason

/-- The causes of failure. -/
inductive Error where
  /-- A configuration that is missing or wrong, with its file when it has one. -/
  | config (reason : String) (path : Option Path)
  /-- An argument that the command line accepts and the program does not. -/
  | argument (reason : String)
  /-- A file that could not be read or written. -/
  | io (path : Path) (cause : IoCause)
  /-- A file whose bytes are no text. -/
  | encoding (path : Path)
  /-- A file above the size that is read. -/
  | fileTooLarge (path : Path) (size limit : Nat)
  /-- A fix whose result is not compliant. -/
  | fix (path : Path)
  /-- A source that cannot be judged, from a line on. -/
  | lint (path : Path) (line : Nat) (reason : String)
  /-- A linter that could not be started. -/
  | linter (command : String) (cause : IoCause)
  deriving DecidableEq

namespace Error

/-- The message that describes an error. -/
def message : Error → String
  | config reason _ => "config error: " ++ reason
  | argument reason => "argument error: " ++ reason
  | io path cause => "io error: " ++ path.display ++ ": " ++ cause.message
  | encoding path => path.display ++ " is not valid UTF-8"
  | fileTooLarge path size limit =>
    s!"file too large: {path.display} ({size} bytes, max: {limit} bytes)"
  | fix path => "fix did not work for " ++ path.display
  | lint path line reason => s!"{path.display}:{line}: {reason}"
  | linter command cause => "failed to run \x60" ++ command ++ "\x60: " ++ cause.message

end Error

/-- How a program ends. -/
inductive ExitCode where
  /-- Everything is compliant, or was fixed. -/
  | success
  /-- Something is not compliant or could not be judged. -/
  | checkFailed
  /-- The configuration or the arguments are wrong. -/
  | configError
  /-- Something failed that should not. -/
  | internalError
  deriving DecidableEq, Repr

/-- The number of an exit code. -/
def ExitCode.toNat : ExitCode → Nat
  | .success => 0
  | .checkFailed => 1
  | .configError => 2
  | .internalError => 3

/-- The code with which a program ends that an error stops. -/
def Error.exitCode : Error → ExitCode
  | .config _ _ | .argument _ | .linter _ _ => .configError
  | .io _ _ | .encoding _ | .fileTooLarge _ _ _ | .fix _ | .lint _ _ _ => .checkFailed

end Hygiene
