import Hygiene.Error
import Hygiene.Glob.Match

/-!
# Excluded paths

Paths are excluded by patterns. A pattern excludes a path when it matches the path, or
the path relative to the directory from which the work is done, or one of the directories
above either of these as they are spelled.
-/

set_option autoImplicit false

namespace Hygiene.Walk

open Glob (Pattern)

/-- The pattern that somebody wrote. -/
def readPattern (text : Text) : Except Error Pattern :=
  (Glob.read text).mapError fun fault =>
    .config ("invalid glob \x60" ++ String.ofList text ++ "\x60: " ++ fault.message text) none

/-- The patterns that somebody wrote. -/
def readPatterns (texts : List Text) : Except Error (List Pattern) :=
  texts.mapM readPattern

/-- The spellings of a path that are compared with patterns: the path, and what it is
relative to a directory. -/
def spellings (base path : Path) : List Path :=
  [path.normalize, ((Path.below? base path).getD path).normalize]

/-- Whether patterns exclude a path. -/
def isExcluded (patterns : List Pattern) (base path : Path) : Bool :=
  (spellings base path).any fun spelled =>
    spelled.ancestors.any fun above =>
      patterns.any fun pattern => Pattern.accepts pattern above.spelling

end Hygiene.Walk
