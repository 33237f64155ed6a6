import Hygiene.Error
import Hygiene.Log
import Hygiene.Text.Basic
import Hygiene.Workspace

/-!
# The contents of files

Files are read whole, so their size is limited: a larger file is refused before anything
of it is read, and a large one is mentioned in the log. A text is the content of a file
whose bytes are valid UTF-8. For files that may be scripts it is enough to look at the
first two bytes.
-/

set_option autoImplicit false

namespace Hygiene.Content

open Log (Event Told)

/-- The number of bytes from which on a file is mentioned in the log. -/
def largeSize : Nat := 1024 * 1024

/-- The number of bytes that a file may have. -/
def maxSize : Nat := 10 * 1024 * 1024

/-- The number of bytes that the names in a directory take. -/
def directorySize : Nat := 4096

/-- The size that is judged before anything is read. -/
def sizeOf : Entry → Nat
  | .file _ content => content.size
  | .directory _ => directorySize
  | .link target => Text.utf8Size target.spelling

/-- The event that a large file is read. -/
def readingLarge (path : Path) (size : Nat) : Event where
  level := .info
  message := "Reading large file"
  fields := [("path", .plain path.display), ("size_mb", .millions size)]

/-- The error of a failed system call on a path. -/
def failure (path : Path) (error : SystemError) : Error :=
  .io path (.system error)

/-- The bytes of a file. -/
def readBytes (workspace : Workspace) (path : Path) : Told (Except Error ByteArray) :=
  match workspace.examine path with
  | .error error => pure (.error (failure path error))
  | .ok entry =>
    let size := sizeOf entry
    if maxSize < size then pure (.error (.fileTooLarge path size maxSize))
    else do
      if largeSize < size then Told.tell (readingLarge path size)
      return (workspace.bytes path).mapError (failure path)

/-- The string that the bytes of a file are. -/
def decode (path : Path) (bytes : ByteArray) : Except Error String :=
  match String.fromUTF8? bytes with
  | some content => .ok content
  | none => .error (.encoding path)

/-- The string in a file. -/
def readString (workspace : Workspace) (path : Path) : Told (Except Error String) := do
  return (← readBytes workspace path).bind (decode path)

/-- The text in a file. -/
def readText (workspace : Workspace) (path : Path) : Told (Except Error Text) := do
  return (← readString workspace path).map String.toList

/-- Whether bytes begin with the mark of a script. -/
def beginsScript (bytes : ByteArray) : Bool :=
  bytes[0]? == some 35 && bytes[1]? == some 33

/-- Whether a file begins with the mark of a script. -/
def startsWithShebang (workspace : Workspace) (path : Path) : Except Error Bool :=
  ((workspace.bytes path).map beginsScript).mapError (failure path)

end Hygiene.Content
