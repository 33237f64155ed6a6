import Hygiene.Proofs.Report.Document
import Hygiene.Proofs.Report.Terminal
import Hygiene.Report.Json
import Hygiene.Report.Plain

/-!
# The renderings of a report agree

A report is written as text, in color or without, and as JSON, and the program ends with its
code. All of them tell the same (`renderings_agree`): what the JSON document says of a check is
enough to write the text (`Listing`), the code says whether the check is passed, and in color
nothing is added to the text but sequences that a terminal does not show, the last of which sets
it back.

This holds of any report, also of one that no check makes, such as with a file that was fixed
although its header was correct. Only the JSON document is missing when a path in the report is no
text, and a path with two records can be listed both as fixed and as failed
(`renderings_disagree`).
-/

set_option autoImplicit false

namespace Hygiene.Report

open Json (Value)
open Styled (Span Terminal)

variable {π : Type} [Spelled π]

/-! ## What is told -/

/-- What the renderings of a report tell. -/
structure Listing where
  passed : Bool
  /-- The paths of the files that are fixed. -/
  fixed : List String
  /-- The messages of what failed. -/
  messages : List String
  /-- The paths of the files that are not compliant. -/
  failed : List String
  /-- The number of files that are checked. -/
  files : Nat

namespace Listing

/-- Each item on a line of its own behind a beginning. -/
def lines (beginning : String) (items : List String) : String :=
  String.join (items.map fun item => beginning ++ item ++ "\n")

/-- The word for whether the check is passed. -/
def verdict (listing : Listing) : String :=
  if listing.passed then "PASS" else "FAIL"

/-- The counts behind the verdict. What failed without a record counts as failed. -/
def counts (listing : Listing) : String :=
  let plural := if listing.files = 1 then "" else "s"
  let failed := listing.failed.length + listing.messages.length
  s!": {listing.files} file{plural} checked, {listing.fixed.length} fixed, {failed} failed\n"

/-- The text that lists all this. -/
def text (listing : Listing) : String :=
  lines "FIXED " listing.fixed ++ lines "ERROR " listing.messages ++
    (if listing.failed = [] then "" else failedHeading ++ "\n" ++ lines "\t" listing.failed) ++
    listing.verdict ++ listing.counts

/-- What a document tells. -/
structure IsToldBy (listing : Listing) (document : Value) : Prop where
  passed : document.member? "passed" = some (.bool listing.passed)
  fixed : document.member? "fixed" = some (.list (listing.fixed.map .string))
  failed : document.member? "failed" = some (.list (listing.failed.map .string))
  messages : ∃ errors, document.member? "errors" = some (.list errors) ∧
    errors.map (fun error => error.member? "message") =
      listing.messages.map fun message => some (.string message)
  files : ∃ files, document.member? "files" = some (.list files) ∧ files.length = listing.files

end Listing

/-- What there is to tell of a report. -/
def listing (report : Report π) : Listing where
  passed := report.passed
  fixed := report.fixed.map Spelled.display
  messages := report.failures.map Failure.message
  failed := report.failed.map Spelled.display
  files := report.records.length

theorem read_json (report : Report π) : Json.read? report.json.toList = some report.value := by
  rw [json, String.toList_append]
  exact Json.read_write report.value (by decide)

theorem listing_isToldBy (report : Report π) : report.listing.IsToldBy report.value where
  passed := rfl
  fixed := by
    rw [listing, List.map_map]
    rfl
  failed := by
    rw [listing, List.map_map]
    rfl
  messages := ⟨_, rfl, by rw [listing, List.map_map, List.map_map]; rfl⟩
  files := ⟨_, rfl, List.length_map _⟩

/-! ## The text -/

theorem text_append (first second : List Span) :
    Styled.text (first ++ second) = Styled.text first ++ Styled.text second := by
  rw [← String.toList_inj]
  simp [Styled.text, String.toList_join]

/-- Lines that are made of items in the same way. -/
theorem text_flatMap {α : Type} (items : List α) (line : α → List Span) (beginning : String)
    (shown : α → String)
    (each : ∀ item, Styled.text (line item) = beginning ++ shown item ++ "\n") :
    Styled.text (items.flatMap line) = Listing.lines beginning (items.map shown) := by
  induction items with
  | nil => rfl
  | cons item items ih =>
    rw [List.flatMap_cons, text_append, ih, each, ← String.toList_inj]
    simp [Listing.lines, String.toList_join]

theorem text_fixedLine (path : π) :
    Styled.text (fixedLine path) = "FIXED " ++ Spelled.display path ++ "\n" := by
  rw [← String.toList_inj]
  simp [Styled.text, fixedLine, Span.styled, Span.plain]

omit [Spelled π] in
theorem text_failureLine (failure : Failure π) :
    Styled.text (failureLine failure) = "ERROR " ++ failure.message ++ "\n" := by
  rw [← String.toList_inj]
  simp [Styled.text, failureLine, Span.styled, Span.plain]

theorem text_failedLine (path : π) :
    Styled.text (failedLine path) = "\t" ++ Spelled.display path ++ "\n" := by
  rw [← String.toList_inj]
  simp [Styled.text, failedLine, Span.styled, Span.plain]

theorem text_failedLines (paths : List π) :
    Styled.text (failedLines paths) =
      if paths.map Spelled.display = [] then ""
      else failedHeading ++ "\n" ++ Listing.lines "\t" (paths.map Spelled.display) := by
  rw [failedLines]
  cases paths with
  | nil => rfl
  | cons path paths =>
    rw [if_neg (by simp), if_neg (by simp), ← List.singleton_append, text_append,
      text_flatMap _ _ "\t" Spelled.display text_failedLine]
    rfl

omit [Spelled π] in
/-- A check is passed when its report counts nothing as failed. -/
theorem passed_iff_count (report : Report π) :
    report.passed = true ↔ report.failed.length + report.failures.length = 0 := by
  simp [passed, and_comm]

/-- The last line has a verdict in color and the counts. -/
theorem summaryLine_eq (report : Report π) :
    ∃ style, summaryLine report =
      [.styled style report.listing.verdict, .plain report.listing.counts] := by
  have fixed : report.listing.fixed.length = report.fixed.length := List.length_map _
  have failed : report.listing.failed.length + report.listing.messages.length =
      report.failed.length + report.failures.length := by
    rw [listing, List.length_map, List.length_map]
  have passed : report.listing.passed = true ↔ _ := report.passed_iff_count
  rw [summaryLine, Listing.verdict, Listing.counts, fixed, failed]
  by_cases none : report.failed.length + report.failures.length = 0
  · rw [if_pos none, if_pos (passed.mpr none)]
    exact ⟨_, rfl⟩
  · rw [if_neg none, if_neg (mt passed.mp none)]
    exact ⟨_, rfl⟩

/-- The text tells what there is to tell. -/
theorem text_spans (report : Report π) : Styled.text report.spans = report.listing.text := by
  obtain ⟨style, summary⟩ := report.summaryLine_eq
  have last : Styled.text (summaryLine report) =
      report.listing.verdict ++ report.listing.counts := by
    rw [summary, ← String.toList_inj]
    simp [Styled.text, Span.styled, Span.plain]
  rw [spans, text_append, text_append, text_append, last, text_failedLines,
    text_flatMap _ _ "FIXED " Spelled.display text_fixedLine,
    text_flatMap _ _ "ERROR " Failure.message text_failureLine, ← String.append_assoc]
  rfl

/-! ## Color -/

/-- Nothing that a report names has an escape character in it. -/
def IsPlain (report : Report π) : Prop :=
  (∀ record ∈ report.records, Styled.escape ∉ (Spelled.display record.path).toList) ∧
    ∀ failure ∈ report.failures, Styled.escape ∉ failure.message.toList

theorem escape_not_mem_lines {beginning : String} (plain : Styled.escape ∉ beginning.toList)
    {items : List String} (each : ∀ item ∈ items, Styled.escape ∉ item.toList) :
    Styled.escape ∉ (Listing.lines beginning items).toList := by
  rw [Listing.lines, String.toList_join]
  intro found
  obtain ⟨line, made, found⟩ := List.mem_flatMap.mp found
  obtain ⟨item, member, rfl⟩ := List.mem_map.mp made
  rw [String.toList_append, String.toList_append, List.mem_append, List.mem_append] at found
  rcases found with (found | found) | found
  · exact plain found
  · exact each item member found
  · exact absurd found (by decide)

theorem escape_not_mem_number (number : Nat) : Styled.escape ∉ (toString number).toList := by
  have written : (toString number).toList = Nat.toDigits 10 number := Nat.toList_repr
  rw [written]
  intro found
  exact absurd (Nat.isDigit_of_mem_toDigits (by decide) (by decide) found) (by decide)

theorem escape_not_mem_verdict (listing : Listing) :
    Styled.escape ∉ listing.verdict.toList := by
  rw [Listing.verdict]
  split <;> decide

theorem escape_not_mem_counts (listing : Listing) :
    Styled.escape ∉ listing.counts.toList := by
  have plural : Styled.escape ∉ (if listing.files = 1 then "" else "s").toList := by
    split <;> decide
  have number := escape_not_mem_number
  simp only [Listing.counts, String.toList_append, List.mem_append, not_or]
  refine ⟨⟨⟨⟨⟨⟨⟨⟨?_, number _⟩, ?_⟩, plural⟩, ?_⟩, number _⟩, ?_⟩, number _⟩, ?_⟩ <;> decide

/-- The text of a report that names nothing with an escape character has none. -/
theorem escape_not_mem_text {report : Report π} (plain : report.IsPlain) :
    Styled.escape ∉ report.listing.text.toList := by
  have paths {some : Record π → Bool} :
      ∀ item ∈ ((report.records.filter some).map Record.path).map Spelled.display,
        Styled.escape ∉ item.toList := by
    intro item member
    obtain ⟨path, listed, rfl⟩ := List.mem_map.mp member
    obtain ⟨record, kept, rfl⟩ := List.mem_map.mp listed
    exact plain.1 record (List.mem_of_mem_filter kept)
  have messages : ∀ item ∈ report.failures.map Failure.message,
      Styled.escape ∉ item.toList := by
    intro item member
    obtain ⟨failure, listed, rfl⟩ := List.mem_map.mp member
    exact plain.2 failure listed
  have failed : Styled.escape ∉ (if report.listing.failed = [] then ""
      else failedHeading ++ "\n" ++ Listing.lines "\t" report.listing.failed).toList := by
    split
    · decide
    · rw [String.toList_append, List.mem_append, not_or]
      exact ⟨by decide, escape_not_mem_lines (by decide) paths⟩
  simp only [Listing.text, String.toList_append, List.mem_append, not_or]
  exact ⟨⟨⟨⟨escape_not_mem_lines (by decide) paths, escape_not_mem_lines (by decide) messages⟩,
    failed⟩, escape_not_mem_verdict _⟩, escape_not_mem_counts _⟩

theorem plain_spans {report : Report π} (plain : report.IsPlain) :
    ∀ span ∈ report.spans, Styled.escape ∉ span.text.toList := by
  intro span member found
  refine escape_not_mem_text plain ?_
  rw [← text_spans, Styled.text, String.toList_join, List.flatMap_map]
  exact List.mem_flatMap.mpr ⟨span, member, found⟩

/-! ## All renderings -/

/-- **The renderings of a report agree.** The text lists the fixed files, the messages of what
failed and the files that are not compliant, and it ends in a line that says whether the check is
passed, as the code does, and counts the files. When all paths are texts, the JSON text is written
and read as a document that tells all this; otherwise an error is all that comes of it. The fixed
files and those that are not compliant are taken from the records in their order. No record is
both, and one is neither exactly when its header was correct and it was not fixed. In color a
terminal shows the same text, unless an escape character stands in a path or a message, and in any
case it is set back at the end. -/
theorem renderings_agree (report : Report π) :
    report.text false = report.listing.text ∧
      (report.listing.passed = true ↔ report.exitCode = .success) ∧
      (report.IsText →
        ∃ written document, report.writeJson = .ok written ∧
          Json.read? written.toList = some document ∧ report.listing.IsToldBy document) ∧
      (¬ report.IsText → ∃ message, report.writeJson = .error message) ∧
      report.listing.fixed =
        (report.records.filter fun record => record.fixed).map
          (fun record => Spelled.display record.path) ∧
      report.listing.failed =
        (report.records.filter fun record => !record.isCompliant).map
          (fun record => Spelled.display record.path) ∧
      (∀ record : Record π, ¬ (record.fixed = true ∧ record.isCompliant = false)) ∧
      (∀ record : Record π, record.fixed = false ∧ record.isCompliant = true ↔
        record.status = .correct ∧ record.fixed = false) ∧
      (report.IsPlain →
        (Terminal.fresh.receiveAll (report.text true).toList).visible =
          (report.text false).toList) ∧
      (Terminal.fresh.receiveAll (report.text true).toList).IsReset := by
  have plainText : report.text false = report.listing.text := by
    rw [text, Styled.render_false, text_spans]
  refine ⟨plainText, ?_, fun isText => ?_, writeJson_of_not_isText, List.map_map ..,
    List.map_map .., fun record => ?_, fun record => ?_, fun plain => ?_, ?_⟩
  · rw [exitCode, listing]
    cases report.passed <;> simp
  · exact ⟨_, _, writeJson_of_isText isText, read_json report, listing_isToldBy report⟩
  · rw [Record.isCompliant]
    cases record.fixed <;> simp
  · rw [Record.isCompliant]
    cases record.fixed <;> simp
  · rw [plainText, text, Terminal.fresh, Terminal.receiveAll_render (plain_spans plain),
      Terminal.visible, text_spans, List.nil_append, List.append_nil]
  · obtain ⟨style, summary⟩ := report.summaryLine_eq
    rw [text, spans, summary]
    exact Terminal.isReset_render _ _ _ _ (escape_not_mem_counts _)

/-- A report on a file that was fixed and whose path is no text. -/
def unwritable : Report SystemPath :=
  ⟨[⟨⟨[0x62, 0xFF]⟩, .python, .absent, true⟩], [], ⟨1, 0, 0, 0⟩⟩

theorem unwritable_not_isText : ¬ unwritable.IsText := by
  intro isText
  obtain ⟨text, same⟩ := isText ⟨[0x62, 0xFF]⟩ (by simp [unwritable, paths])
  have none : Spelled.text? (SystemPath.mk [0x62, 0xFF]) = none := by decide +kernel
  rw [none] at same
  cases same

/-- The theorem at a report on a file that was fixed although its header was correct, on a file
that is not compliant, and on a failure: there is a document, the terminal shows the text and is
set back. And at a report with a path that is no text: there is none. -/
theorem renderings_agree_mixed :
    let report : Report :=
      ⟨[⟨⟨"a.py".toList⟩, .python, .correct, true⟩, ⟨⟨"b.sh".toList⟩, .shell, .absent, false⟩],
        [⟨⟨"c.py".toList⟩, "c.py is not valid UTF-8"⟩], ⟨2, 0, 0, 0⟩⟩
    report.IsPlain ∧ report.exitCode = .checkFailed ∧ report.listing.passed = false ∧
      (∃ written document, report.writeJson = .ok written ∧
        Json.read? written.toList = some document ∧ report.listing.IsToldBy document) ∧
      (Terminal.fresh.receiveAll (report.text true).toList).visible =
        (report.text false).toList ∧
      (Terminal.fresh.receiveAll (report.text true).toList).IsReset ∧
      (¬ unwritable.IsText ∧ ∃ message, unwritable.writeJson = .error message) := by
  intro report
  have plain : report.IsPlain := ⟨by decide, by decide⟩
  have isText := report.isText
  obtain ⟨-, -, written, -, -, -, -, -, shown, reset⟩ := renderings_agree report
  obtain ⟨-, -, -, refused, -⟩ := renderings_agree unwritable
  exact ⟨plain, rfl, rfl, written isText, shown plain, reset, unwritable_not_isText,
    refused unwritable_not_isText⟩

/-- A report with two records of one path, of which one was fixed. -/
def doubled : Report :=
  ⟨[⟨⟨"a.py".toList⟩, .python, .absent, true⟩, ⟨⟨"a.py".toList⟩, .python, .absent, false⟩], [],
    ⟨1, 0, 0, 0⟩⟩

/-- A check can be passed without a JSON document, when a path is no text. And a document can list
a path both as fixed and as failed, when there are two records of it. -/
theorem renderings_disagree :
    (unwritable.exitCode = .success ∧ unwritable.listing.passed = true ∧
      unwritable.listing.fixed = ["b\ufffd"] ∧
      ∃ message, unwritable.writeJson = .error message) ∧
    (doubled.listing.fixed = ["a.py"] ∧ doubled.listing.failed = ["a.py"] ∧
      ∃ written document, doubled.writeJson = .ok written ∧
        Json.read? written.toList = some document ∧ doubled.listing.IsToldBy document) := by
  exact ⟨⟨rfl, rfl, by decide +kernel, writeJson_of_not_isText unwritable_not_isText⟩,
    by decide +kernel, by decide +kernel, _, _, writeJson_of_isText doubled.isText,
    read_json doubled, listing_isToldBy _⟩

end Hygiene.Report
