import Hygiene.Error
import Hygiene.Workspace

/-!
# Finding the settings

The settings of a repository stand in a file at its top or in a directory below. From a
directory they are looked for upwards: the nearest settings file is taken, and the search
ends above the top of a repository. Settings that are asked for by a path must be there.
-/

set_option autoImplicit false

namespace Hygiene.Config

/-- The name of the settings file. -/
def fileName : Text := "sigoptlint.toml".toList

/-- The name that marks the top of a repository. -/
def repositoryMark : Text := ".git".toList

/-- The settings file for a directory, given with the directories above it. -/
def findAmong (workspace : Workspace) : List Path → Option Path
  | [] => none
  | directory :: above =>
    let file := directory.join ⟨fileName⟩
    if workspace.isFile file then some file
    else if workspace.holds (directory.join ⟨repositoryMark⟩) then none
    else findAmong workspace above

/-- The settings file for a directory. -/
def find? (workspace : Workspace) (directory : Path) : Option Path :=
  findAmong workspace directory.ancestors

/-- The settings file that is asked for, or else the one for the working directory. -/
def choose (workspace : Workspace) (asked : Option Path) : Except Error (Option Path) :=
  match asked with
  | some path =>
    if workspace.isFile path then .ok (some path)
    else .error (.config ("config file not found: " ++ path.display) (some path))
  | none => .ok (find? workspace workspace.directoryPath)

end Hygiene.Config
