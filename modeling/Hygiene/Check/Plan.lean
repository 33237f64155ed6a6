import Hygiene.Header.Verdict
import Hygiene.Path

/-!
# What a check does

A check looks for a notice at the top of the files that its targets name, and
may put it there. It is told the notice, the targets, the patterns of the paths
that it leaves out, how far to look for an old notice, and whether files
without content count.
-/

set_option autoImplicit false

namespace Hygiene.Check

/-- What a check is told. -/
structure Plan where
  notice : Header.Notice
  fix : Bool
  targets : List Path
  exclude : List Text
  scanLines : Nat
  skipEmpty : Bool
  deriving DecidableEq

end Hygiene.Check
