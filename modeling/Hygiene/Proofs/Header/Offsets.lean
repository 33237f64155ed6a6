import Hygiene.Proofs.Header.LineEnds
import Hygiene.Proofs.Header.TopOnly
import Hygiene.Proofs.Text.Cut

/-!
# The verdict by offsets

The verdict on a body can be computed without taking the body apart: each line is known by what
stands on it and by the position where it stops, and the stale text by its size
(`Offsets.measure`). The fix is then put together from what is behind these positions
(`Offsets.fix?`).

Such a computation cuts the body at positions that it has added up, takes items and parts of the
list of lines by numbers that it has counted, and takes sizes from one another. Each of these
steps asks whether it can be made (`Ranged`).
-/

set_option autoImplicit false

namespace Hygiene.Header

open Text (isBlank)

namespace Offsets

/-! ## The computation -/

/-- A line of a body: what stands on it, and the position in the body where it stops. -/
structure PlacedLine where
  content : Text
  stop : Nat

/-- Lines with the positions where they stop, when they start at a position. -/
def place (start : Nat) : List Text → List PlacedLine
  | [] => []
  | line :: later =>
    ⟨Text.lineContent line, start + line.utf8Size⟩ :: place (start + line.utf8Size) later

/-- The lines of a body. -/
def placedLines (body : Text) : List PlacedLine :=
  place 0 (Text.lines body)

/-- A verdict by the size of the text that a fix removes. -/
structure Measure where
  status : Status
  staleSize : Nat
  deriving DecidableEq, Repr

/-- The measure of a body without any notice. -/
def Measure.absent : Measure := ⟨.absent, 0⟩

/-- The measure of a body with a notice that is not the expected one. -/
def Measure.incorrect (staleSize : Nat) : Measure := ⟨.incorrect, staleSize⟩

/-- How far the comment at the top of a body extends. -/
inductive Extent where
  /-- A block comment over a number of lines, which stops at a position. -/
  | block (height stop : Nat)
  /-- A run of line comments. -/
  | comments (height : Nat)
  | none
  deriving DecidableEq, Repr

/-- The position of the first occurrence of a text in another one. -/
def findPosition? (text needle : Text) : Option Nat :=
  (Text.find? text needle).map fun index => Text.utf8Size (text.take index)

/-- The index of the last item of a kind. -/
def lastIndex? {α : Type} (holds : α → Bool) (items : List α) : Option Nat :=
  (items.reverse.findIdx? holds).map fun index => items.length - 1 - index

/-- How far the comment at the top extends. -/
def leadingComment (marks : CommentMarks) (body : Text) (lines : List PlacedLine) :
    Ranged Extent :=
  match lines with
  | [] => return .none
  | first :: _ =>
    let text := first.content.trimStart
    match marks.blocks.find? fun pair => pair.1.isPrefixOf text with
    | some (opener, closer) => do
      let indent ← Ranged.minus first.content.utf8Size text.utf8Size
      let start := indent + opener.utf8Size
      match findPosition? (← Ranged.behind body start) closer with
      | Option.none => return .none
      | some position =>
        let stop := start + position + closer.utf8Size
        match lines.findIdx? fun line => stop ≤ line.stop with
        | Option.none => return .none
        | some index => return .block (index + 1) stop
    | Option.none =>
      match marks.line with
      | some marker =>
        if marker.isPrefixOf text then
          let run := lines.takeWhile fun line => marker.isPrefixOf line.content.trimStart
          return .comments run.length
        else return .none
      | Option.none => return .none

/-- The number of lines before a position and of the blank ones from there on. -/
def skipBlank (lines : List PlacedLine) (start : Nat) : Ranged Nat := do
  let later ← Ranged.drop lines start
  return start + (later.takeWhile fun line => line.content.trim.isEmpty).length

/-- The position behind the first lines. -/
def stopOf (lines : List PlacedLine) (count : Nat) : Ranged Nat := do
  let first ← Ranged.take lines count
  return (first.getLast?.map PlacedLine.stop).getD 0

/-- The measure of a body that opens with a block comment in which a keyword was found. -/
def measureThroughBlock (body : Text) (lines : List PlacedLine) (height stop : Nat) :
    Ranged Measure := do
  let closing ← Ranged.item lines (← Ranged.minus height 1)
  let sameLine ← Ranged.between body stop closing.stop
  if sameLine.trim.isEmpty then
    return .incorrect (← stopOf lines (← skipBlank lines height))
  else
    let rest ← Ranged.behind body stop
    let kept : Text := rest.dropWhile fun c => c = ' ' || c = '\t'
    return .incorrect (← Ranged.minus (stop + rest.utf8Size) kept.utf8Size)

/-- The measure of a body that opens with a block comment. -/
def measureBlock (scanLines : Nat) (body : Text) (lines : List PlacedLine) (height stop : Nat) :
    Ranged Measure := do
  let window := min height scanLines
  if window = 0 then return .absent
  let scanned ← Ranged.before body (min (← stopOf lines window) stop)
  if !mentionsKeyword scanned then return .absent
  measureThroughBlock body lines height stop

/-- The number of lines through the paragraph in which the first lines of a run of comments end,
and through the bare markers behind it. -/
def throughParagraph (marker : Text) (lines : List PlacedLine) (start height : Nat) :
    Ranged Nat := do
  let below ← Ranged.inner lines start height
  let paragraph := start + (below.takeWhile fun line => line.content.trim != marker).length
  let behind ← Ranged.inner lines paragraph height
  return paragraph + (behind.takeWhile fun line => line.content.trim == marker).length

/-- The measure of a body that opens with line comments. -/
def measureComments (scanLines : Nat) (marker : Text) (lines : List PlacedLine) (height : Nat) :
    Ranged Measure := do
  let window := min height scanLines
  match lastIndex? (fun line => mentionsKeyword line.content) (← Ranged.take lines window) with
  | none => return .absent
  | some last =>
    let removed ← throughParagraph marker lines (last + 1) height
    return .incorrect (← stopOf lines (← skipBlank lines removed))

/-- Whether a text opens with a copyright notice. The first nine bytes are compared with the word
when they are whole characters. -/
def startsNotice (text : Text) : Bool :=
  (text.cut? 9).any (fun parts => Text.sameIgnoringCase parts.1 "copyright".toList) ||
    text.head? == some '©'

/-- The measure of a body that opens with no comment. -/
def measureFirstLine (scanLines : Nat) (lines : List PlacedLine) : Ranged Measure :=
  match lines with
  | [] => return .absent
  | first :: _ => do
    if scanLines = 0 || !mentionsKeyword first.content then return .absent
    if !startsNotice first.content.trimStart then return .incorrect 0
    let paragraph := (lines.takeWhile fun line => !line.content.trim.isEmpty).length
    return .incorrect (← stopOf lines (← skipBlank lines paragraph))

/-- The verdict on the body of a file of a given kind, by the size of what is stale. -/
def measure (kind : FileKind) (notice : Notice) (scanLines : Nat) (body : Text) :
    Ranged Measure := do
  let lines := placedLines body
  let opening := (lines.take kind.layout.lineCount).map PlacedLine.content
  if notice.matchesLines kind.layout opening then return ⟨.correct, 0⟩
  match ← leadingComment kind.marks body lines with
  | .block height stop => measureBlock scanLines body lines height stop
  | .comments height => measureComments scanLines (kind.marks.line.getD []) lines height
  | .none => measureFirstLine scanLines lines

/-- A content cut behind its shebang line. -/
def split (content : Text) : Ranged (Option Text × Text) :=
  if Shebang.opens content then
    match findPosition? content ['\n'] with
    | some position => do
      let line ← Ranged.before content (position + 1)
      let body ← Ranged.behind content (position + 1)
      return (some line, body)
    | none => return (some content, [])
  else return (none, content)

/-- A text without the blank lines at its front. -/
def dropBlankLines (text : Text) : Ranged Text :=
  Ranged.behind text (((Text.lines text).takeWhile fun line => line.trim.isEmpty).map
    Text.utf8Size).sum

/-- The content with the notice in its place, or nothing when the notice is in its place
already. -/
def fix? (kind : FileKind) (notice : Notice) (scanLines currentYear : Nat) (content : Text) :
    Ranged (Option Text) := do
  let (shebang, body) ← split content
  let found ← measure kind notice scanLines body
  if found.status = .correct then return none
  let rest ← dropBlankLines (← Ranged.behind body found.staleSize)
  return some (assemble shebang (notice.render kind.layout currentYear) rest)

end Offsets

/-! ## What it computes -/

/-- How far a region extends over lines. -/
def Region.extent (lines : List Text) : Region → Offsets.Extent
  | .block comment _ => .block (Text.lines comment).length (Text.utf8Size comment)
  | .comments marker => .comments (lines.takeWhile (isComment marker)).length
  | .none => .none

/-- A verdict by the size of the text that a fix removes. -/
def Verdict.measure (verdict : Verdict) : Offsets.Measure :=
  ⟨verdict.status, Text.utf8Size verdict.stale⟩

end Hygiene.Header
