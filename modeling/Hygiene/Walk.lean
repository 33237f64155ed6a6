import Hygiene.Ignore.Level
import Hygiene.Walk.Obstacle

/-!
# Walking a directory

A walk lists the files below a directory: those of each directory in the order of the
names, and what is below a directory in its place. Links are neither followed nor
listed. What is ignored or hidden is passed over with all that is below it, and so are
the directories that hold nothing of a project's own. The directory where a walk begins is
never passed over.
-/

set_option autoImplicit false

namespace Hygiene.Walk

open Ignore (Level Opinion)

/-- How a walk is made. -/
structure Options where
  /-- How many levels below its beginning a walk lists. -/
  maxDepth : Option Nat
  /-- The rules in `.gitignore` count. -/
  readsShared : Bool
  /-- Names that begin with a dot are passed over. -/
  skipsHidden : Bool
  deriving DecidableEq, Repr

/-- How a walk is made when nothing else is said. -/
def Options.standard : Options := ⟨some 100, true, true⟩

/-- What a walk comes upon: a file, by the names that lead to it, or an obstacle. -/
inductive Finding where
  | file (names : List Text)
  | obstacle (obstacle : Obstacle)

/-- Whether an entry is a directory. -/
def isDirectory : Entry → Bool
  | .directory _ => true
  | _ => false

/-- The directories that hold nothing of a project's own. -/
def foreignDirectories : List Text := ["node_modules".toList, ".git".toList]

/-- Whether a walk passes over an entry. -/
def passesOver (options : Options) (levels : List Level) (directory : Location)
    (placed : Text × Entry) : Bool :=
  let (name, entry) := placed
  let foreign := isDirectory entry && foreignDirectories.contains name
  match Level.opinion levels (isDirectory entry) (directory ++ [name]) with
  | .ignored => true
  | .kept => foreign
  | .none => foreign || (options.skipsHidden && name.head? == some '.')

/-- Whether a directory that many levels below the beginning is entered. -/
def enters (options : Options) (level : Nat) : Bool :=
  match options.maxDepth with
  | some bound => level < bound
  | none => true

/-- What is found in a directory, by the names that lead to it from the beginning of the
walk. The bound counts the levels that can still follow. -/
def visit (workspace : Workspace) (options : Options) (beginning : Path) (root : Location) :
    (bound : Nat) → List Level → List Text → List Finding
  | 0, _, _ => []
  | bound + 1, outer, names =>
    let directory := root ++ names
    if enters options names.length then
      match workspace.children directory.path with
      | .error error =>
        [.obstacle (.unreadable (names.foldl (fun path name => path.join ⟨name⟩) beginning) error)]
      | .ok entries =>
        let levels := (Level.load workspace options.readsShared directory).1 :: outer
        (entries.filter fun placed => !passesOver options levels directory placed).flatMap
          fun (name, entry) =>
            match entry with
            | .file _ _ => [.file (names ++ [name])]
            | .directory _ => visit workspace options beginning root bound levels (names ++ [name])
            | .link _ => []
    else []

/-- What is found below the directory that a path leads to. -/
def findings (workspace : Workspace) (options : Options) (beginning : Path) : List Finding :=
  match workspace.locate beginning with
  | .error error => [.obstacle (.unreadable beginning error)]
  | .ok root =>
    let (levels, problems) := Level.above workspace options.readsShared root
    ((Obstacle.ofProblems problems).map .obstacle) ++
      visit workspace options beginning root (workspace.tree.depth + 1) levels []

/-- The files that a walk lists. -/
def Finding.file? : Finding → Option (List Text)
  | .file names => some names
  | .obstacle _ => none

/-- The obstacles that a walk meets. -/
def Finding.obstacle? : Finding → Option Obstacle
  | .file _ => none
  | .obstacle met => some met

/-- The files below a directory and the obstacles on the way. The paths are spelled as the
directory is. -/
def below (workspace : Workspace) (options : Options) (root : Path) : List Path × List Obstacle :=
  let base := workspace.directoryPath
  let beginning := base.join root
  let found := findings workspace options beginning
  let spell := fun (names : List Text) =>
    asSpelled base root (names.foldl (fun path name => path.join ⟨name⟩) beginning)
  ((found.filterMap Finding.file?).map spell, found.filterMap Finding.obstacle?)

end Hygiene.Walk
