import Hygiene.Ignore.Listing
import Hygiene.Log

/-!
# Obstacles of a walk

A walk goes on past what it cannot read: a directory, or lines in the ignore files above
the directory where it begins. Such an obstacle is told with the path that it concerns,
spelled like the paths of the files that are found.
-/

set_option autoImplicit false

namespace Hygiene.Walk

/-- The path of a file below the directory `root`, which is read from `base`: relative to
`base` when the root is given relatively and the path lies below `base`. -/
def asSpelled (base root path : Path) : Path :=
  if root.isAbsolute then path else (Path.below? base path).getD path

/-- What a walk could not read. -/
inductive Obstacle where
  /-- A directory. -/
  | unreadable (directory : Path) (error : SystemError)
  /-- Lines of the ignore files above the beginning of the walk. -/
  | badLines (first : Ignore.Problem) (others : List Ignore.Problem)

namespace Obstacle

/-- The obstacle that problems of ignore files are, if there are any. -/
def ofProblems : List Ignore.Problem → List Obstacle
  | [] => []
  | first :: others => [.badLines first others]

/-- The path that an obstacle concerns. Lines in several places concern the walk. -/
def path (base root : Path) : Obstacle → Path
  | .unreadable directory _ => asSpelled base root directory
  | .badLines first [] => asSpelled base root first.file
  | .badLines _ (_ :: _) => root

/-- What is said of problems. -/
def problemsText (problems : List Ignore.Problem) : String :=
  String.intercalate "\n" (problems.map Ignore.Problem.message)

/-- What is said of an obstacle, without its path. -/
def reason : Obstacle → String
  | .unreadable _ error => error.kindText
  | .badLines first [] => first.fault.message
  | .badLines first others => problemsText (first :: others)

/-- The message of an obstacle. -/
def message (base root : Path) (obstacle : Obstacle) : String :=
  (obstacle.path base root).display ++ ": " ++ obstacle.reason

/-- The event that an obstacle is. -/
def event : Obstacle → Log.Event
  | .unreadable directory error =>
    .warn ("Walk error: " ++ directory.display ++ ": IO error for operation on " ++
      directory.display ++ ": " ++ error.message)
  | .badLines first others => .warn ("Walk error: " ++ problemsText (first :: others))

end Obstacle

end Hygiene.Walk
