import Hygiene.FileTree.Locate

/-!
# Workspaces

A program works on a file tree, as a user, from a directory against which relative paths
are read. A workspace is these three. What the program can ask of it either has an answer
or fails with a system error.
-/

set_option autoImplicit false

namespace Hygiene

/-- A file tree, who works on it, and the directory from where. -/
structure Workspace where
  tree : FileTree
  user : User
  directory : Location
  deriving DecidableEq

namespace Workspace

/-- The absolute path of the directory from which the work is done. -/
def directoryPath (workspace : Workspace) : Path :=
  workspace.directory.path

/-- The location that a path names. -/
def locate (workspace : Workspace) (path : Path) : Except SystemError Location :=
  workspace.tree.locate workspace.user workspace.directory path

/-- What stands where a path leads. -/
def examine (workspace : Workspace) (path : Path) : Except SystemError Entry := do
  match workspace.tree.lookup (← workspace.locate path) with
  | some entry => return entry
  | none => throw .notFound

/-- Whether a path leads to a file. -/
def isFile (workspace : Workspace) (path : Path) : Bool :=
  match workspace.examine path with
  | .ok (.file _ _) => true
  | _ => false

/-- Whether a path leads to a directory. -/
def isDirectory (workspace : Workspace) (path : Path) : Bool :=
  match workspace.examine path with
  | .ok (.directory _) => true
  | _ => false

/-- Whether a path leads to anything. -/
def holds (workspace : Workspace) (path : Path) : Bool :=
  (workspace.examine path).isOk

/-- An entry, provided that it may be read. -/
def openEntry (workspace : Workspace) (path : Path) : Except SystemError Entry := do
  let entry ← workspace.examine path
  if workspace.user.may .read entry.mode then return entry else throw .denied

/-- The bytes of the file that a path leads to. -/
def bytes (workspace : Workspace) (path : Path) : Except SystemError ByteArray := do
  match ← workspace.openEntry path with
  | .file _ content => return content
  | _ => throw .isDirectory

/-- The entries of the directory that a path leads to, in the order of their names. -/
def children (workspace : Workspace) (path : Path) : Except SystemError (List (Text × Entry)) := do
  let location ← workspace.locate path
  match ← workspace.openEntry path with
  | .directory _ => return workspace.tree.children location
  | _ => throw .notDirectory

end Workspace

end Hygiene
