import Hygiene.Check.Plan
import Hygiene.Content
import Hygiene.Header.Fix
import Hygiene.Report
import Hygiene.Workspace.Replace

/-!
# Checking one file

The kind of a file is known by its name, or else by its shebang line. A file without
either is not read any further, and a file of no known kind is skipped. Of every other
file the header is judged. A fix is made only when it leads to a correct header, which is
judged again before anything is written.
-/

set_option autoImplicit false

namespace Hygiene.Check

open Log (Event Told)

/-! ## Files that can carry a header -/

/-- A file that can carry a header. -/
structure Subject where
  kind : FileKind
  content : Text
  deriving DecidableEq

/-- Why a file is skipped. -/
inductive Skip where
  | unsupportedType
  | empty
  | unsupportedInterpreter
  deriving DecidableEq, Repr

/-- What is said of a skipped file. -/
def Skip.reason : Skip → String
  | unsupportedType => "unsupported type"
  | empty => "empty"
  | unsupportedInterpreter => "unsupported interpreter"

/-- The file with a content, or why it is skipped. -/
def subjectOf (skipEmpty : Bool) (byName : Option FileKind) (content : Text) :
    Except Skip Subject :=
  if skipEmpty && content.isEmpty then .error .empty
  else
    match byName.or ((Shebang.split content).1.bind Shebang.kind?) with
    | some kind => .ok ⟨kind, content⟩
    | none => .error .unsupportedInterpreter

/-- Whether a file is read at all: its name says what it is, or it looks like a script. -/
def mayCarryHeader (workspace : Workspace) (byName : Option FileKind) (full : Path) :
    Except Error Bool :=
  match byName with
  | some _ => .ok true
  | none => Content.startsWithShebang workspace full

/-- The file at a path, or why it is skipped. -/
def identify (workspace : Workspace) (plan : Plan) (path : Path) :
    Told (Except Error (Except Skip Subject)) :=
  let full := workspace.directoryPath.join path
  let byName := FileKind.ofPath? path
  match mayCarryHeader workspace byName full with
  | .error error => return .error error
  | .ok false => return .ok (.error .unsupportedType)
  | .ok true => do
    return (← Content.readText workspace full).map (subjectOf plan.skipEmpty byName)

/-! ## The outcome of a check -/

/-- What checking a file leads to: the workspace afterwards, the record of the file
unless it was skipped or could not be checked, and what is told on the way. -/
structure Outcome where
  workspace : Workspace
  record : Except Error (Option Record)
  remarks : List String
  events : List Event

/-- The header of a text as the plan judges it. -/
def statusOf (plan : Plan) (kind : FileKind) (content : Text) : Header.Status :=
  (Header.classify kind plan.notice plan.scanLines (Shebang.split content).2).status

/-- The fixed text, when the plan asks for one and it differs. -/
def fixed? (plan : Plan) (currentYear : Nat) (subject : Subject) : Option Text :=
  if plan.fix then
    Header.fix? subject.kind plan.notice plan.scanLines currentYear subject.content
  else none

/-- The event that a file was judged. -/
def classified (record : Record) : Event where
  level := .debug
  message := "classified"
  fields :=
    [("path", .plain record.path.display), ("filetype", .quoted record.kind.name),
      ("status", .quoted record.status.name)]

/-- The outcome for a file that was judged and is not to be changed. -/
def Outcome.ofRecord (workspace : Workspace) (record : Record) : Outcome :=
  ⟨workspace, .ok (some record), ["Checking: " ++ record.path.display], [classified record]⟩

/-- The outcome for a file that was judged, when it is replaced by a fixed text. -/
def applyFix (workspace : Workspace) (plan : Plan) (record : Record) (text : Text) : Outcome :=
  let judged := Outcome.ofRecord workspace record
  if statusOf plan record.kind text = .correct then
    let remarks := judged.remarks ++ ["Fixing " ++ record.path.display]
    match workspace.writeText (workspace.directoryPath.join record.path) text with
    | .ok after =>
      ⟨after, .ok (some { record with fixed := true }), remarks,
        judged.events ++ [.info ("fixed " ++ record.path.display)]⟩
    | .error error => ⟨workspace, .error error, remarks, judged.events⟩
  else { judged with record := .error (.fix record.path) }

/-- The outcome for a file that can carry a header. -/
def checkSubject (workspace : Workspace) (plan : Plan) (currentYear : Nat) (path : Path)
    (subject : Subject) : Outcome :=
  let record : Record :=
    ⟨path, subject.kind, statusOf plan subject.kind subject.content, false⟩
  match fixed? plan currentYear subject with
  | some text => applyFix workspace plan record text
  | none => .ofRecord workspace record

/-- The outcome for the file at a path. -/
def checkFile (workspace : Workspace) (plan : Plan) (currentYear : Nat) (path : Path) : Outcome :=
  let found := identify workspace plan path
  match found.value with
  | .error error => ⟨workspace, .error error, [], found.events⟩
  | .ok (.error skip) =>
    ⟨workspace, .ok none, [],
      found.events ++ [.debug s!"skipping {path.display} ({skip.reason})"]⟩
  | .ok (.ok subject) =>
    let outcome := checkSubject workspace plan currentYear path subject
    { outcome with events := found.events ++ outcome.events }

end Hygiene.Check
