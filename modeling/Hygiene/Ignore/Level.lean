import Hygiene.Ignore.Listing

/-!
# The levels of a directory

Whether a path is ignored is decided by the ignore files of the directory that holds it
and of every directory above. Each of these directories is a level. The rules in `.ignore`
always count. The rules of a repository count where some level is the top of one: those
in `.gitignore` and those that the repository keeps for itself, up to the nearest top.

Within one kind of rules the innermost level that says something decides, and the kinds
are asked in the order in which they are named here.
-/

set_option autoImplicit false

namespace Hygiene.Ignore

/-- The rules that a directory contributes. -/
structure Level where
  directory : Location
  /-- The rules in `.ignore`. -/
  general : List Rule
  /-- The rules in `.gitignore`. -/
  shared : List Rule
  /-- The rules that a repository keeps for itself. -/
  own : List Rule
  /-- The directory is the top of a repository. -/
  isTop : Bool

namespace Level

/-! ## Opinions -/

/-- The path of a location below a level, as its rules see it. -/
def pathOf (level : Level) (location : Location) : Text :=
  Text.join ['/'] (location.drop level.directory.length)

/-- The levels through the first one that is the top of a repository. -/
def throughTop : List Level → List Level
  | [] => []
  | level :: outer => level :: if level.isTop then [] else throughTop outer

/-- What one kind of rules says of a location, from the innermost level outwards. -/
def opinionOf (rules : Level → List Rule) (levels : List Level) (isDirectory : Bool)
    (location : Location) : Opinion :=
  Opinion.first <| levels.map fun level =>
    Rule.judge (rules level) isDirectory (level.pathOf location)

/-- What all rules say of a location. -/
def opinion (levels : List Level) (isDirectory : Bool) (location : Location) : Opinion :=
  let inRepository := if levels.any isTop then throughTop levels else []
  Opinion.first
    [opinionOf general levels isDirectory location,
      opinionOf shared inRepository isDirectory location,
      opinionOf own inRepository isDirectory location]

/-! ## Reading -/

/-- The name that marks the top of a repository. -/
def repositoryName : Text := ".git".toList

/-- The path of an entry of a directory. -/
def pathIn (directory : Location) (name : Text) : Path :=
  (directory.path).join ⟨name⟩

/-- The listing of an ignore file of a directory. -/
def loadIn (workspace : Workspace) (directory : Location) (name : Text) : Listing :=
  match workspace.tree.lookup (directory ++ [name]) with
  | some _ => Listing.load workspace (pathIn directory name)
  | none => Listing.empty

/-- The first line of a file. -/
def firstLine? (workspace : Workspace) (file : Path) : Option Text :=
  match workspace.bytes file with
  | .ok bytes => (Listing.byteLines bytes.data.toList).head?.bind Listing.decodeLine?
  | .error _ => none

/-- The directory where the repository of a directory keeps its own files. When `.git` is
a file, it names a directory, in which a further file names the one that is looked for. -/
def repository? (workspace : Workspace) (directory : Location) : Option Path :=
  let mark := pathIn directory repositoryName
  if workspace.isFile mark then do
    let linked ← Text.dropBeginning? (← firstLine? workspace mark) "gitdir: ".toList
    let common ← firstLine? workspace ((Path.mk linked).join ⟨"commondir".toList⟩)
    return if common.head? = some '.' then (Path.mk linked).join ⟨common⟩ else ⟨common⟩
  else if workspace.holds mark then some mark
  else none

/-- The listing of the rules that the repository of a directory keeps for itself. -/
def loadOwn (workspace : Workspace) (directory : Location) : Listing :=
  match repository? workspace directory with
  | some found => Listing.load workspace (found.join ⟨"info/exclude".toList⟩)
  | none => Listing.empty

/-- The level of a directory, and the problems of its ignore files. -/
def load (workspace : Workspace) (readsShared : Bool) (directory : Location) :
    Level × List Problem :=
  let general := loadIn workspace directory ".ignore".toList
  let shared := if readsShared then loadIn workspace directory ".gitignore".toList else .empty
  let marked := (workspace.tree.lookup (directory ++ [repositoryName])).isSome
  let isTop := marked && workspace.holds (pathIn directory repositoryName)
  let own := if isTop then loadOwn workspace directory else .empty
  (⟨directory, general.rules, shared.rules, own.rules, isTop⟩,
    general.told ++ shared.told ++ own.told)

/-- The levels above a directory, the innermost one first, and the problems of their
ignore files from the top down. Without the shared rules, repositories above the
directory do not count as such. -/
def above (workspace : Workspace) (readsShared : Bool) (directory : Location) :
    List Level × List Problem :=
  let loaded := ((List.range directory.length).map directory.take).map
    (load workspace readsShared)
  let levels := loaded.map fun (level, _) => { level with isTop := level.isTop && readsShared }
  (levels.reverse, loaded.flatMap Prod.snd)

end Level

end Hygiene.Ignore
