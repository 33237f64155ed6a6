/-!
# What a search for files came to

The numbers that are reported of a search: the files that were kept and that
were excluded, the links that led in a circle, and the directories that could
not be read.
-/

set_option autoImplicit false

namespace Hygiene.Walk

/-- The numbers of a search. -/
structure Tally where
  filesFound : Nat
  filesExcluded : Nat
  linkLoops : Nat
  errors : Nat
  deriving DecidableEq, Repr

end Hygiene.Walk
