import Hygiene.Calendar
import Hygiene.CommandLine.Run
import Hygiene.Launch

/-!
# The programs

The programs work on a picture of the files around them: everything below the working
directory and below the paths that the command line names, and of the directories above
the files that can matter there. When a program has run, the files that it changed are
written. Which program is run is known by the name under which it was started, or else by
the first word of the command line.
-/

set_option autoImplicit false

namespace Hygiene

/-- The location of an absolute path. -/
def locationOf (path : String) : Location :=
  (Path.ofString path).fields.filter fun field => !Path.isVoid field

/-- The spelling of the path of a location. -/
def spellingOf (location : Location) : String :=
  location.path.display

/-- The picture with the file at a location. A file that cannot be read has no permission
bits. -/
def addFile (tree : FileTree) (location : Location) : IO FileTree := do
  try
    let content ← IO.FS.readBinFile (spellingOf location)
    return tree.plant location (.file Entry.fileMode content)
  catch _ => return tree.plant location (.file 0 ByteArray.empty)

/-- The picture with what stands at a path and below it. -/
partial def addTree (tree : FileTree) (entry : IO.FS.DirEntry) : IO FileTree := do
  let location := locationOf (toString entry.path)
  try
    match (← entry.path.symlinkMetadata).type with
    | .dir =>
      let made := tree.plant location (.directory Entry.directoryMode)
      try
        (← entry.path.readDir).foldlM addTree made
      catch _ => return tree.plant location (.directory 0)
    | .symlink =>
      let target ← IO.FS.realPath entry.path
      return tree.plant location (.link (Path.ofString (toString target)))
    | _ => addFile tree location
  catch _ => return tree

/-- The files that can matter in the directories above. -/
def markNames : List Text :=
  [Config.fileName, Config.repositoryMark, ".ignore".toList, ".gitignore".toList]

/-- The picture with the files that can matter in a directory. -/
def addMarks (tree : FileTree) (directory : Location) : IO FileTree :=
  markNames.foldlM
    (fun made name => do
      let location := directory ++ [name]
      if (made.lookup location).isSome then return made
      try
        match (← (← IO.FS.realPath (spellingOf location)).metadata).type with
        | .dir => return made.plant location (.directory Entry.directoryMode)
        | _ => addFile made location
      catch _ => return made)
    tree

/-- The picture with what stands at a path, below it and above it. -/
def addPath (tree : FileTree) (path : String) : IO FileTree := do
  try
    let found ← IO.FS.realPath path
    let location := locationOf (toString found)
    let below ← addTree tree ⟨(found.parent).getD found, found.fileName.getD ""⟩
    ((List.range location.length).map location.take).foldlM addMarks below
  catch _ => return tree

/-- The files that differ between two pictures are written. -/
def writeChanges (before after : FileTree) : IO Unit :=
  after.entries.forM fun (location, entry) =>
    match entry with
    | .file _ content =>
      if before.lookup location = some entry then pure ()
      else IO.FS.writeBinFile (spellingOf location) content
    | _ => pure ()

/-- The present year. A file that is made now tells the time. -/
def presentYear : IO Nat := do
  let (_, path) ← IO.FS.createTempFile
  let moment ← path.metadata
  IO.FS.removeFile path
  return Calendar.yearOf moment.modified.sec.toNat

/-- The program that is meant, and its words. -/
def chooseProgram (name : Option String) (words : List String) :
    Option (CommandLine.Program × List String) :=
  let named := fun (wanted : String) =>
    [CommandLine.Program.header, .shell, .python].find? fun program => program.name == wanted
  match name.bind named, words with
  | some program, _ => some (program, words)
  | none, word :: others => (named word).map fun program => (program, others)
  | none, [] => none

/-- What is written of a command line that is refused. -/
def refusalText (program : CommandLine.Program) : CommandLine.Refusal → String
  | .version => program.versionText
  | .help => "Usage: " ++ program.name ++ " [OPTIONS] [PATHS]...\n"
  | _ => "error: the command line of " ++ program.name ++ " cannot be read\n"

/-- A program is run on the files around it. -/
def runProgram (program : CommandLine.Program) (words : List String) : IO UInt32 := do
  let directory := toString (← IO.currentDir)
  let tree ← (directory :: words).foldlM addPath .bare
  let isSet := fun name => return (← IO.getEnv name).isSome
  let hints : ColorHints :=
    ⟨← isSet "NO_COLOR", ← isSet "COLOR", ← isSet "CI", ← (← IO.getStdout).isTty⟩
  let workspace : Workspace := ⟨tree, .owner, locationOf directory⟩
  let setting ← IO.getEnv CommandLine.settingsVariable
  let environment : CommandLine.Environment :=
    ⟨setting.map String.toList, hints, ← presentYear, Launch.start workspace⟩
  match CommandLine.run workspace environment program (words.map String.toList) with
  | .ok result =>
    writeChanges tree result.workspace.tree
    IO.print result.output
    IO.eprint result.errors
    return result.code.toUInt32
  | .error refusal =>
    if refusal.exitCode = 0 then IO.print (refusalText program refusal)
    else IO.eprint (refusalText program refusal)
    return refusal.exitCode.toUInt32

end Hygiene

/-- The program that the name or the first word tells is run. -/
def main (words : List String) : IO UInt32 := do
  match Hygiene.chooseProgram (← IO.appPath).fileName words with
  | some (program, rest) => Hygiene.runProgram program rest
  | none =>
    IO.eprintln "error: no program is named"
    return 2
