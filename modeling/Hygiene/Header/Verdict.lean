import Hygiene.Header.Notice
import Hygiene.Shebang

/-!
# The verdict on a header

Only the top of a body is judged, the body being what follows the shebang line.
A body that begins with the notice is compliant. Otherwise the region at the top
decides: a block comment that the first line opens, the run of line comments at
the front, or, when there is no comment, the first paragraph. A region that
mentions a keyword within the window of lines that are scanned is a stale
notice, and the verdict carries the text that a fix takes away.

* Of a block comment everything through its closer is stale, and with it the
  rest of the closing line and the blank lines below when that rest is blank.
* Of a run of line comments the paragraphs through the one that holds the last
  keyword are stale, with the bare markers that follow it.
* A first line outside a comment is stale text only when it opens with a
  copyright notice; a keyword elsewhere on it is only reported.
-/

set_option autoImplicit false

namespace Hygiene.Header

/-- What a header was found to be. -/
inductive Status where
  | correct
  | incorrect
  | absent
  deriving DecidableEq, Repr

/-- The name under which a status is reported. -/
def Status.name : Status → String
  | .correct => "present-correct"
  | .incorrect => "present-incorrect"
  | .absent => "absent"

/-- The verdict on a body: its status, and the text at its front that a fix
removes. -/
structure Verdict where
  status : Status
  stale : Text
  deriving DecidableEq, Repr

namespace Verdict

/-- The verdict on a body that begins with the notice. -/
def correct : Verdict := ⟨.correct, []⟩

/-- The verdict on a body without any notice. -/
def absent : Verdict := ⟨.absent, []⟩

/-- The verdict on a body with a notice that is not the expected one. -/
def incorrect (stale : Text) : Verdict := ⟨.incorrect, stale⟩

end Verdict

/-- The number of lines that are scanned for keywords when nothing else is said. -/
def defaultScanLines : Nat := 10

/-- Whether a text mentions one of the words of a notice. -/
def mentionsKeyword (text : Text) : Bool :=
  text.mentions "copyright".toList || text.mentions "license".toList

/-- What stands on a line, from its first character that is not blank. -/
def indented (line : Text) : Text :=
  (Text.lineContent line).trimStart

/-! ## Block comments -/

/-- The block comment that the first line opens, through its closer, and the text
after it. -/
def leadingBlock? (body : Text) (firstLine : Text) : (Text × Text) → Option (Text × Text)
  | (opener, closer) =>
    let margin := firstLine.length - firstLine.trimStart.length + opener.length
    (Text.splitAfter? (body.drop margin) closer).map fun (inner, after) =>
      (body.take margin ++ inner, after)

/-- The verdict on a body that opens with a block comment. -/
def judgeBlock (scanLines : Nat) (block after : Text) : Verdict :=
  if mentionsKeyword ((Text.lines block).take scanLines).flatten then
    match Text.lines after with
    | [] => .incorrect block
    | line :: later =>
      if Text.isBlank line then
        .incorrect (block ++ ((line :: later).takeWhile Text.isBlank).flatten)
      else .incorrect (block ++ after.takeWhile fun c => c = ' ' || c = '\t')
  else .absent

/-! ## Line comments -/

/-- Whether a line is a comment behind the marker. -/
def isComment (marker line : Text) : Bool :=
  marker.isPrefixOf (indented line)

/-- Whether a line holds the marker and nothing else. -/
def isBareMarker (marker line : Text) : Bool :=
  line.trim == marker

/-- The lines through the last one that mentions a keyword. -/
def throughLastKeyword (lines : List Text) : List Text :=
  (lines.reverse.dropWhile fun line => !mentionsKeyword line).reverse

/-- The lines of a run of comments that a fix removes, when a keyword was found
in the lines `found`: these lines, the rest of their last paragraph, and the bare
markers after it. -/
def staleComments (marker : Text) (run found : List Text) : List Text :=
  let later := run.drop found.length
  let paragraph := later.takeWhile fun line => !isBareMarker marker line
  let bare := (later.drop paragraph.length).takeWhile (isBareMarker marker)
  found ++ paragraph ++ bare

/-- The verdict on a body that opens with line comments. -/
def judgeComments (scanLines : Nat) (marker : Text) (lines : List Text) : Verdict :=
  let run := lines.takeWhile (isComment marker)
  match throughLastKeyword (run.take scanLines) with
  | [] => .absent
  | line :: others =>
    let removed := staleComments marker run (line :: others)
    .incorrect (removed ++ (lines.drop removed.length).takeWhile Text.isBlank).flatten

/-! ## A first line outside a comment -/

/-- Whether a line opens with a copyright notice. -/
def opensNotice (line : Text) : Bool :=
  let text := indented line
  text.beginsIgnoringCase "copyright".toList || text.head? == some '©'

/-- The verdict on a body that opens with no comment. -/
def judgeFirstLine (scanLines : Nat) (lines : List Text) : Verdict :=
  match lines with
  | [] => .absent
  | first :: _ =>
    if scanLines = 0 || !mentionsKeyword first then .absent
    else if !opensNotice first then .incorrect []
    else
      let paragraph := lines.takeWhile fun line => !Text.isBlank line
      let blank := (lines.drop paragraph.length).takeWhile Text.isBlank
      .incorrect (paragraph ++ blank).flatten

/-! ## The verdict -/

/-- The region at the top of a body that can hold a notice. -/
inductive Region where
  /-- A block comment through its closer, and the text after it. -/
  | block (comment after : Text)
  /-- A run of line comments behind the marker. -/
  | comments (marker : Text)
  /-- No comment. A block comment that is never closed is none. -/
  | none

/-- The region at the top of a body whose first line is given. -/
def region (marks : CommentMarks) (body firstLine : Text) : Region :=
  let text := indented firstLine
  match marks.blocks.find? fun pair => pair.1.isPrefixOf text with
  | some pair =>
    match leadingBlock? body (Text.lineContent firstLine) pair with
    | some (comment, after) => .block comment after
    | Option.none => .none
  | Option.none =>
    match marks.line with
    | some marker => if marker.isPrefixOf text then .comments marker else .none
    | Option.none => .none

/-- The verdict on a body that does not begin with the notice. -/
def judge (marks : CommentMarks) (scanLines : Nat) (body : Text) : Verdict :=
  let lines := Text.lines body
  match lines with
  | [] => .absent
  | first :: _ =>
    match region marks body first with
    | .block comment after => judgeBlock scanLines comment after
    | .comments marker => judgeComments scanLines marker lines
    | .none => judgeFirstLine scanLines lines

/-- The verdict on the body of a file of a given kind. -/
def classify (kind : FileKind) (notice : Notice) (scanLines : Nat) (body : Text) : Verdict :=
  let opening := ((Text.lines body).take kind.layout.lineCount).map Text.lineContent
  if notice.matchesLines kind.layout opening then .correct
  else judge kind.marks scanLines body

end Hygiene.Header
