import Hygiene.Report
import Hygiene.Text.Basic

/-!
# The report as JSON

The report is also written as one JSON object over several lines. Members stand
on lines of their own, indented by two spaces for each level, and an object or a
list without members is written as a pair of brackets. In a string, quotation
marks, backslashes and control characters are escaped, and everything else is
written as it is.
-/

set_option autoImplicit false

namespace Hygiene.Json

/-- A JSON value as far as reports need it. Numbers are natural. -/
inductive Value where
  | bool (value : Bool)
  | number (value : Nat)
  | string (text : String)
  | list (items : List Value)
  | object (members : List (String × Value))

/-- The digits of a number below sixteen squared, in base sixteen. -/
def hexByte (number : Nat) : List Char :=
  [Nat.digitChar (number / 16), Nat.digitChar (number % 16)]

/-- How a character is written inside a string. -/
def escape (c : Char) : List Char :=
  if c = '\x22' then ['\\', '\x22']
  else if c = '\\' then ['\\', '\\']
  else if c = '\n' then ['\\', 'n']
  else if c = '\t' then ['\\', 't']
  else if c = '\r' then ['\\', 'r']
  else if c = '\x08' then ['\\', 'b']
  else if c = '\x0c' then ['\\', 'f']
  else if c.toNat < 32 then '\\' :: 'u' :: '0' :: '0' :: hexByte c.toNat
  else [c]

/-- A string between quotation marks. -/
def quoted (text : String) : String :=
  "\x22" ++ String.ofList (text.toList.flatMap escape) ++ "\x22"

/-- A line feed and the indentation of a level. -/
def newline (level : Nat) : String :=
  String.ofList ('\n' :: List.replicate (2 * level) ' ')

/-- Written items between brackets, each on a line of its own. -/
def enclosed (level : Nat) (opener closer : String) : List String → String
  | [] => opener ++ closer
  | items =>
    opener ++ newline (level + 1) ++
      String.intercalate ("," ++ newline (level + 1)) items ++ newline level ++ closer

mutual

/-- A value as it is written at a level of indentation. -/
def Value.write (level : Nat) : Value → String
  | .bool value => if value then "true" else "false"
  | .number value => toString value
  | .string text => quoted text
  | .list items => enclosed level "[" "]" (writeItems (level + 1) items)
  | .object members => enclosed level "\x7b" "\x7d" (writeMembers (level + 1) members)

/-- The items of a list as they are written. -/
def writeItems (level : Nat) : List Value → List String
  | [] => []
  | item :: others => item.write level :: writeItems level others

/-- The members of an object as they are written. -/
def writeMembers (level : Nat) : List (String × Value) → List String
  | [] => []
  | (name, value) :: others =>
    (quoted name ++ ": " ++ value.write level) :: writeMembers level others

end

end Hygiene.Json

namespace Hygiene.Report

open Json (Value)

variable {π : Type} [Spelled π]

/-- A path as a value. -/
def pathValue (path : π) : Value := .string (Spelled.display path)

/-- A record as a value. -/
def recordValue (record : Record π) : Value :=
  .object
    [("path", pathValue record.path), ("filetype", .string record.kind.name),
      ("status", .string record.status.name), ("fixed", .bool record.fixed)]

/-- A failure as a value. -/
def failureValue (failure : Failure π) : Value :=
  .object [("path", pathValue failure.path), ("message", .string failure.message)]

/-- The numbers of a search as a value. -/
def tallyValue (tally : Walk.Tally) : Value :=
  .object
    [("files_found", .number tally.filesFound), ("files_excluded", .number tally.filesExcluded),
      ("symlink_loops", .number tally.linkLoops), ("errors", .number tally.errors)]

/-- A report as a value. -/
def value (report : Report π) : Value :=
  .object
    [("passed", .bool report.passed), ("fixed", .list (report.fixed.map pathValue)),
      ("failed", .list (report.failed.map pathValue)),
      ("errors", .list (report.failures.map failureValue)),
      ("files", .list (report.records.map recordValue)),
      ("walk", tallyValue report.tally)]

/-- The report as JSON, with a line feed at the end, as far as its paths are texts. -/
def json (report : Report π) : String :=
  report.value.write 0 ++ "\n"

/-- The paths in a report. -/
def paths (report : Report π) : List π :=
  report.records.map Record.path ++ report.failures.map Failure.path

/-- What is written of a report as JSON. Nothing is written of one with a path that is no text,
and the message says why. -/
def writeJson (report : Report π) : Except String String :=
  if report.paths.all fun path => (Spelled.text? path).isSome then .ok report.json
  else .error "path contains invalid UTF-8 characters"

/-- All paths in a report are texts. -/
def IsText (report : Report π) : Prop :=
  ∀ path ∈ report.paths, ∃ text, Spelled.text? path = some text

theorem isText_iff (report : Report π) :
    report.IsText ↔
      (report.paths.all fun path => (Spelled.text? path).isSome) = true := by
  simp only [IsText, List.all_eq_true, Option.isSome_iff_exists]

theorem writeJson_of_isText {report : Report π} (isText : report.IsText) :
    report.writeJson = .ok report.json :=
  if_pos (report.isText_iff.mp isText)

theorem writeJson_of_not_isText {report : Report π} (broken : ¬ report.IsText) :
    ∃ message, report.writeJson = .error message :=
  ⟨_, if_neg (mt report.isText_iff.mpr broken)⟩

/-- Paths that are given as texts are texts. -/
theorem isText (report : Report) : report.IsText :=
  fun path _ => ⟨path.spelling, rfl⟩

end Hygiene.Report
