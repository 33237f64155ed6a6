import Hygiene.Error
import Hygiene.Text.Quoted
import Hygiene.Workspace

/-!
# Replacing the content of a file

The new content is written to a temporary file beside the old one. The temporary file gets
the permission bits of the old one and takes its place in a single step, so whoever reads the
file finds the old content or the new one. Links on the way to the file stay what they are.

A step can fail for a reason that lies in the tree, and every step can fail for one that lies
in the surroundings, such as a full disk. Once there is a temporary file, whatever fails makes
it go away again. Taking it away is assumed to work where making it did, so the surroundings
have no say in it.
-/

set_option autoImplicit false

namespace Hygiene.Workspace

/-! ## What is asked of the system -/

/-- Whether the names in a directory may be changed. -/
def mayChangeNames (workspace : Workspace) (directory : Location) : Bool :=
  match workspace.tree.lookup directory with
  | some (.directory mode) =>
    workspace.user.may .write mode && workspace.user.may .search mode
  | _ => false

/-- The workspace with an entry at a location, in place of what stood there. -/
def put (workspace : Workspace) (location : Location) (entry : Entry) : Workspace :=
  { workspace with tree := workspace.tree.put location entry }

/-- The workspace without the entry at a location. -/
def unlink (workspace : Workspace) (location : Location) : Workspace :=
  { workspace with tree := workspace.tree.unlink location }

/-- The permission bits of the file or the directory at a location. -/
def modeAt (workspace : Workspace) (location : Location) : Except SystemError Nat :=
  match workspace.tree.lookup location with
  | some (.file mode _) => .ok mode
  | some (.directory mode) => .ok mode
  | _ => .error .notFound

/-- The permission bits of a temporary file. -/
def temporaryMode : Nat := 0o600

/-- A temporary file is made where nothing stands yet. -/
def create (workspace : Workspace) (location : Location) : Except SystemError Workspace :=
  if workspace.mayChangeNames location.dropLast then
    match workspace.tree.lookup location with
    | some _ => .error .alreadyThere
    | none => .ok (workspace.put location (.file temporaryMode ByteArray.empty))
  else .error .denied

/-- A temporary file is made under the first of the given names that nothing has yet. -/
def createAmong (workspace : Workspace) (directory : Location) :
    List Text → Except SystemError (Location × Workspace)
  | [] => .error .alreadyThere
  | name :: others =>
    match workspace.create (directory ++ [name]) with
    | .ok after => .ok (directory ++ [name], after)
    | .error error =>
      if error = .alreadyThere then createAmong workspace directory others else .error error

/-- A file is given other permission bits. -/
def setMode (workspace : Workspace) (location : Location) (mode : Nat) :
    Except SystemError Workspace :=
  match workspace.tree.lookup location with
  | some (.file _ content) => .ok (workspace.put location (.file mode content))
  | _ => .error .notFound

/-- An open file is written. -/
def fill (workspace : Workspace) (location : Location) (content : ByteArray) : Workspace :=
  match workspace.tree.lookup location with
  | some (.file mode _) => workspace.put location (.file mode content)
  | _ => workspace

/-- A file takes the place of what stands at another location, unless that is a directory. -/
def rename (workspace : Workspace) (source destination : Location) :
    Except SystemError Workspace :=
  if destination = [] then .error .busy
  else if workspace.mayChangeNames source.dropLast &&
      workspace.mayChangeNames destination.dropLast then
    match workspace.tree.lookup source, workspace.tree.lookup destination with
    | some entry, some (.file _ _) => .ok ((workspace.unlink source).put destination entry)
    | some entry, none => .ok ((workspace.unlink source).put destination entry)
    | some _, some (.directory _) => .error .isDirectory
    | some entry, some (.link _) => .ok ((workspace.unlink source).put destination entry)
    | none, _ => .error .notFound
  else .error .denied

/-- A file is removed, if the names in its directory may be changed. -/
def remove (workspace : Workspace) (location : Location) : Workspace :=
  if workspace.mayChangeNames location.dropLast then workspace.unlink location else workspace

/-! ## The steps -/

/-- The steps in which a file is replaced. -/
inductive Stage where
  | resolve
  | examine
  | create
  | write
  | synchronize
  | grant
  | rename
  deriving DecidableEq, Repr

/-- What the surroundings do to a replacement: the names that are drawn for the temporary
file, the steps that they make fail, and how much is written before writing fails. -/
structure Surroundings where
  drawn : List Text
  fault? : Stage → Option SystemError
  written : Nat

/-- Something that is done with a workspace and can fail on the way. -/
abbrev Operation := EStateM IoCause Workspace

/-- The name of the temporary file. Its letters are drawn at random, so they are not told. -/
def temporaryName : Text := ".tmpXXXXXX".toList

/-- What is said when a temporary file in a directory cannot be made or written. -/
def temporaryCause (directory : Location) (error : SystemError) : IoCause :=
  .stated (error.message ++ " at path " ++
    String.ofList (Text.quoted (directory.path.join ⟨temporaryName⟩).spelling))

/-- A step that the surroundings can make fail, and otherwise the system. -/
def perform {α : Type} (cause : SystemError → IoCause) (fault : Option SystemError)
    (call : Workspace → Except SystemError (α × Workspace)) : Operation α := fun workspace =>
  match fault with
  | some error => .error (cause error) workspace
  | none =>
    match call workspace with
    | .ok (value, after) => .ok value after
    | .error error => .error (cause error) workspace

/-- The location that a path leads to, with the permission bits of what stands there. -/
def resolve (surroundings : Surroundings) (path : Path) : Operation (Location × Nat) := do
  let location ← perform .system (surroundings.fault? .resolve) fun workspace =>
    (workspace.locate path).map fun location => (location, workspace)
  let mode ← perform .system (surroundings.fault? .examine) fun workspace =>
    (workspace.modeAt location).map fun mode => (mode, workspace)
  return (location, mode)

/-- A temporary file in a directory. -/
def makeTemporary (surroundings : Surroundings) (directory : Location) : Operation Location :=
  perform (temporaryCause directory) (surroundings.fault? .create) fun workspace =>
    workspace.createAmong directory surroundings.drawn

/-- The content is written to the temporary file. When that fails, part of it is written. -/
def write (surroundings : Surroundings) (temporary : Location) (content : ByteArray) :
    Operation Unit := fun workspace =>
  match surroundings.fault? .write with
  | some error =>
    .error (temporaryCause temporary.dropLast error)
      (workspace.fill temporary (content.extract 0 surroundings.written))
  | none => .ok () (workspace.fill temporary content)

/-- The temporary file is written, and takes the place of the old file. -/
def exchange (surroundings : Surroundings) (location temporary : Location) (mode : Nat)
    (content : ByteArray) : Operation Unit := do
  write surroundings temporary content
  perform .system (surroundings.fault? .synchronize) fun workspace => .ok ((), workspace)
  perform .system (surroundings.fault? .grant) fun workspace =>
    (workspace.setMode temporary mode).map fun after => ((), after)
  perform .system (surroundings.fault? .rename) fun workspace =>
    (workspace.rename temporary location).map fun after => ((), after)

/-- The file that a path leads to gets a new content. -/
def replace (surroundings : Surroundings) (path : Path) (content : ByteArray) :
    Operation Unit := do
  let (location, mode) ← resolve surroundings path
  let temporary ← makeTemporary surroundings location.dropLast
  tryCatch (exchange surroundings location temporary mode content) fun cause => do
    modify fun workspace => workspace.remove temporary
    throw cause

/-! ## Replacing a file by a text -/

/-- A name that is drawn for a temporary file. Counting stands in for chance. -/
def drawnName (draw : Nat) : Text :=
  ".tmp".toList ++ Text.ofNat (100000 + draw)

/-- Surroundings in which nothing fails. As many names are drawn as it takes to find one that
nothing in the tree has. -/
def Surroundings.quiet (workspace : Workspace) : Surroundings where
  drawn := (List.range (workspace.tree.entries.length + 1)).map drawnName
  fault? := fun _ => none
  written := 0

/-- The workspace after a file was replaced by a text. A replacement that fails leaves the
workspace as it was, so only its cause is told. -/
def writeText (workspace : Workspace) (path : Path) (content : Text) : Except Error Workspace :=
  match (replace (.quiet workspace) path (String.ofList content).toUTF8).run workspace with
  | .ok _ after => .ok after
  | .error cause _ => .error (.io path cause)

end Hygiene.Workspace
