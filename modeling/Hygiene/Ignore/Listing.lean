import Hygiene.Ignore.Rule
import Hygiene.Workspace

/-!
# Ignore files

An ignore file is read line by line. A byte order mark at its front is no part of the
first line. A line that holds no pattern is a problem of the file and is passed over;
the reading ends at a line that is no text. A file that cannot be read has no rules.
-/

set_option autoImplicit false

namespace Hygiene.Ignore

/-- What is wrong with a line. -/
inductive LineFault where
  | glob (line : Text) (fault : Glob.Fault)
  /-- The bytes of the line are no text. -/
  | noText
  deriving DecidableEq, Repr

/-- What is said of a line. -/
def LineFault.message : LineFault → String
  | .glob line fault => fault.message line
  | .noText => "stream did not contain valid UTF-8"

/-- A line of an ignore file that could not be used, counted from one. -/
structure Problem where
  file : Path
  line : Nat
  fault : LineFault
  deriving DecidableEq

/-- The line in which a problem is told. -/
def Problem.message (problem : Problem) : String :=
  problem.file.display ++ ": line " ++ toString problem.line ++ ": " ++ problem.fault.message

/-- The rules of an ignore file, and its problems. -/
structure Listing where
  rules : List Rule
  problems : List Problem

namespace Listing

/-- The listing without rules. -/
def empty : Listing := ⟨[], []⟩

/-- The lines of a file as bytes, each with its line feed. -/
def byteLines (bytes : List UInt8) : List (List UInt8) :=
  bytes.foldr
    (fun byte later =>
      if byte = 10 then [byte] :: later
      else match later with
        | [] => [[byte]]
        | line :: others => (byte :: line) :: others)
    []

/-- A line without its line feed and the carriage return before that. -/
def withoutTerminator (line : List UInt8) : List UInt8 :=
  match line.reverse with
  | 10 :: 13 :: before => before.reverse
  | 10 :: before => before.reverse
  | _ => line

/-- The text of a line, if it is one. -/
def decodeLine? (line : List UInt8) : Option Text :=
  (String.fromUTF8? ⟨(withoutTerminator line).toArray⟩).map String.toList

/-- The listing of a line in front of the later ones. -/
def prepend (file : Path) (number : Nat) (line : Text) (later : Listing) : Listing :=
  match Rule.read line with
  | .ok none => later
  | .ok (some rule) => { later with rules := rule :: later.rules }
  | .error (written, fault) =>
    { later with problems := ⟨file, number, .glob written fault⟩ :: later.problems }

/-- The listing of lines that are counted from a number. -/
def ofLines (file : Path) (number : Nat) : List (List UInt8) → Listing
  | [] => empty
  | line :: others =>
    match decodeLine? line with
    | none => ⟨[], [⟨file, number, .noText⟩]⟩
    | some text =>
      let content := if number = 1 then text.dropWhile (· = '\uFEFF') else text
      prepend file number content (ofLines file (number + 1) others)

/-- The listing of a file with the given bytes. -/
def ofBytes (file : Path) (bytes : ByteArray) : Listing :=
  ofLines file 1 (byteLines bytes.data.toList)

/-- The problems that are told. When the only one is that a line is no text, there is
nothing to tell. -/
def told (listing : Listing) : List Problem :=
  match listing.problems with
  | [⟨_, _, .noText⟩] => []
  | problems => problems

/-- The listing of the ignore file at a path. -/
def load (workspace : Workspace) (file : Path) : Listing :=
  match workspace.bytes file with
  | .ok bytes => ofBytes file bytes
  | .error _ => empty

end Listing

end Hygiene.Ignore
