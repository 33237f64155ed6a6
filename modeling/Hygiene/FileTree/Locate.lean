import Hygiene.FileTree.Access
import Hygiene.SystemError

/-!
# Finding what a path names

A path is followed step by step from a location. Each step is taken in a directory that
may be searched. Where a step meets a link, the way goes on along the target of the link:
from the top when the target is absolute, and otherwise from the directory that holds the
link. After too many links the search is given up.
-/

set_option autoImplicit false

namespace Hygiene.FileTree

open Hygiene.Path (Component)

/-- The number of links that a path may lead through. -/
def maxLinks : Nat := 40

/-- The number of bytes that a name may have. -/
def maxNameSize : Nat := 255

/-- The number of bytes that a path may have. -/
def maxPathSize : Nat := 4095

/-- The step that a field of a path asks for. -/
def stepAlong (field : Text) : Component :=
  if field = ['.'] then .here else Path.stepOf field

/-- The steps that a path asks for. -/
def route (path : Path) : List Component :=
  (path.fields.filter fun field => !field.isEmpty).map stepAlong

/-- How far a search came without a link. -/
inductive Passage where
  | arrived (location : Location)
  /-- A link was met: the way goes on from a location along the steps. -/
  | redirected (location : Location) (steps : List Component)

/-- A step can be taken from a directory that may be searched. -/
def requireSearchable (tree : FileTree) (user : User) (location : Location) :
    Except SystemError Unit :=
  match tree.lookup location with
  | some (.directory mode) => if user.may .search mode then .ok () else .error .denied
  | _ => .error .notDirectory

/-- The steps are taken until all are, or a link is met. -/
def advance (tree : FileTree) (user : User) : Location → List Component → Except SystemError Passage
  | location, [] => .ok (.arrived location)
  | location, step :: later => do
    tree.requireSearchable user location
    match step with
    | .root => advance tree user [] later
    | .here => advance tree user location later
    | .above => advance tree user location.dropLast later
    | .name text =>
      if maxNameSize < Text.utf8Size text then throw .nameTooLong
      match tree.lookup (location ++ [text]) with
      | none => throw .notFound
      | some (.link target) =>
        return .redirected (if target.isAbsolute then [] else location) (route target ++ later)
      | some _ => advance tree user (location ++ [text]) later

/-- The location that steps lead to, through fewer links than the bound. -/
def follow (tree : FileTree) (user : User) :
    (bound : Nat) → Location → List Component → Except SystemError Location
  | 0, _, _ => .error .linkLoop
  | bound + 1, location, steps => do
    match ← tree.advance user location steps with
    | .arrived found => return found
    | .redirected base further => follow tree user bound base further

/-- Whether a directory stands at a location. -/
def isDirectoryAt (tree : FileTree) (location : Location) : Bool :=
  match tree.lookup location with
  | some (.directory _) => true
  | _ => false

/-- The location that a path names, when relative paths are read from a directory. A path
with a slash at its end can only name a directory. -/
def locate (tree : FileTree) (user : User) (directory : Location) (path : Path) :
    Except SystemError Location := do
  if path.spelling.isEmpty then throw .notFound
  if maxPathSize < Text.utf8Size path.spelling then throw .nameTooLong
  let start := if path.isAbsolute then [] else directory
  let location ← tree.follow user (maxLinks + 1) start (route path)
  if path.spelling.getLast? = some '/' && !tree.isDirectoryAt location then throw .notDirectory
  return location

end Hygiene.FileTree
