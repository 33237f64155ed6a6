import Hygiene.Path

/-!
# Failures

When something goes wrong with one path, the rest of the work goes on, and the failure is
reported at the end.
-/

set_option autoImplicit false

namespace Hygiene

/-- A path that could not be dealt with, and why. -/
structure Failure (π : Type := Path) where
  path : π
  message : String
  deriving DecidableEq

end Hygiene
