import Hygiene.Failure
import Hygiene.Log
import Hygiene.SystemPath
import Hygiene.Walk
import Hygiene.Walk.Exclusion
import Hygiene.Walk.Tally

/-!
# Targets

A target is a path or a pattern. The path of a file stands for the file, the path of a
directory for the files that a walk lists below it. What is neither, and could be a
pattern, stands for the files below the working directory that match it. Any other target
is missing.

The files that the targets stand for are kept unless they are excluded. They are sorted by
path, and of several spellings of one path the first is kept.
-/

set_option autoImplicit false

namespace Hygiene.Walk

open Glob (Pattern)
open Log (Event Told)

/-- The characters that make a target a pattern. -/
def patternCharacters : List Char := ['*', '?', '[', '\x7b']

/-- What a target is. -/
inductive TargetKind where
  | file
  | directory
  | pattern
  | missing
  deriving DecidableEq, Repr

/-- The pattern that a target could be: the text that it is, when a character of patterns stands
in it. A target that is no text is no pattern. -/
def patternOf? {π : Type} [Spelled π] (target : π) : Option Text :=
  (Spelled.text? target).filter fun text => text.any patternCharacters.contains

/-- What a target is in a workspace. -/
def targetKind (workspace : Workspace) (target : Path) : TargetKind :=
  let path := workspace.directoryPath.join target
  if workspace.isFile path then .file
  else if workspace.isDirectory path then .directory
  else if (patternOf? target).isSome then .pattern
  else .missing

/-- A pattern without the steps to the directory itself at its front. -/
def withoutHere : Text → Text
  | '.' :: '/' :: rest => withoutHere rest
  | text => text

/-- A path put in its place among sorted paths, unless it is there in some spelling. -/
def insertPath (path : Path) : List Path → List Path
  | [] => [path]
  | first :: others =>
    match path.order first with
    | .lt => path :: first :: others
    | .eq => first :: others
    | .gt => first :: insertPath path others

/-- What is known of the targets while they are gone through. -/
structure Search where
  files : List Path
  excluded : Nat
  missing : List Path
  failures : List Failure
  /-- The files below the working directory, once they were asked for. -/
  here : Option (List Path)

namespace Search

/-- The search before the first target. -/
def start : Search := ⟨[], 0, [], [], none⟩

/-- A file is kept unless it is excluded. -/
def keep (patterns : List Pattern) (base : Path) (search : Search) (path : Path) :
    Told Search :=
  if isExcluded patterns base path then do
    Told.tell (.debug ("excluded " ++ path.display))
    return { search with excluded := search.excluded + 1 }
  else return { search with files := insertPath path.normalize search.files }

/-- Files are kept one after the other. -/
def keepAll (patterns : List Pattern) (base : Path) (search : Search) (paths : List Path) :
    Told Search :=
  paths.foldlM (keep patterns base) search

/-- The files below a directory, with the obstacles on the way among the failures. -/
def walk (workspace : Workspace) (options : Options) (search : Search) (root : Path) :
    Told (Search × List Path) :=
  let (files, obstacles) := below workspace options root
  let failures := obstacles.map fun obstacle =>
    (⟨obstacle.path workspace.directoryPath root,
      obstacle.message workspace.directoryPath root⟩ : Failure)
  ⟨({ search with failures := search.failures ++ failures }, files), obstacles.map Obstacle.event⟩

/-- The files below the working directory. They are looked for only once. -/
def walkHere (workspace : Workspace) (options : Options) (search : Search) :
    Told (Search × List Path) :=
  match search.here with
  | some files => return (search, files)
  | none => do
    let (walked, files) ← search.walk workspace options ⟨['.']⟩
    return ({ walked with here := some files }, files)

/-- The search goes on with a target. -/
def addTarget (workspace : Workspace) (options : Options) (patterns : List Pattern)
    (search : Search) (target : Path) : Told (Except Error Search) :=
  let base := workspace.directoryPath
  match targetKind workspace target with
  | .file => return .ok (← search.keep patterns base target)
  | .directory => do
    let (walked, files) ← search.walk workspace options target
    return .ok (← walked.keepAll patterns base files)
  | .pattern =>
    match readPattern (withoutHere target.spelling) with
    | .error error => return .error error
    | .ok pattern => do
      let (walked, files) ← search.walkHere workspace options
      let found := files.filter fun path => Pattern.accepts pattern path.normalize.spelling
      Told.tell (.debug s!"glob {target.display} matched {found.length} files")
      return .ok (← walked.keepAll patterns base found)
  | .missing => return .ok { search with missing := search.missing ++ [target] }

/-- The search goes on with targets until one is an error. -/
def addTargets (workspace : Workspace) (options : Options) (patterns : List Pattern) :
    Search → List Path → Told (Except Error Search)
  | search, [] => return .ok search
  | search, target :: others => do
    match ← search.addTarget workspace options patterns target with
    | .ok next => addTargets workspace options patterns next others
    | .error error => return .error error

end Search

/-- What targets stand for. -/
structure Resolution where
  /-- The files that were kept, sorted by path. -/
  files : List Path
  /-- The targets that stand for nothing. -/
  missing : List Path
  /-- What a walk could not read. -/
  failures : List Failure
  tally : Tally

/-- What a search came to. -/
def Search.resolution (search : Search) : Resolution where
  files := search.files
  missing := search.missing
  failures := search.failures
  tally := ⟨search.files.length, search.excluded, 0, search.failures.length⟩

/-- What targets stand for when some paths are excluded. -/
def resolve (workspace : Workspace) (options : Options) (patterns : List Pattern)
    (targets : List Path) : Told (Except Error Resolution) := do
  return (← Search.addTargets workspace options patterns .start targets).map Search.resolution

end Hygiene.Walk
