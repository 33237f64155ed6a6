import Hygiene.Proofs.Header.Accepted
import Hygiene.Proofs.Header.Replaced
import Hygiene.Proofs.Text.Returns

/-!
# Line ends do not matter

A body whose lines end in a carriage return and a line feed gets the verdict that it gets with
line feeds alone, and what is stale of it is the same text with these line ends. So a fix leaves
the same rest, and a content is fixed with one kind of line ends exactly when it is with the other
(`fix_withReturns`).

Everything that a verdict is made from is followed on its own. What stands on a line is not
touched by its end, so the same lines are comments, bare markers, blank, or hold a keyword
(`judgeComments_map`, `judgeFirstLine_map`), and the closer of a block comment is found in the same
place (`region_withReturns`, `judgeBlock_withReturns`).
-/

set_option autoImplicit false

namespace Hygiene.Header

open Text (isBlank withReturns OneLine)

/-- The verdict with carriage returns in the stale text. -/
def Verdict.withReturns (verdict : Verdict) : Verdict :=
  ⟨verdict.status, verdict.stale.withReturns⟩

/-- The region with carriage returns in its texts. -/
def Region.withReturns : Region → Region
  | .block comment after => .block comment.withReturns after.withReturns
  | .comments marker => .comments marker
  | .none => .none

/-- No mark of a kind has an end of a line in it, and every closer has something in it. -/
structure PlainMarks (marks : CommentMarks) : Prop where
  line : ∀ marker ∈ marks.line, OneLine marker
  openers : ∀ pair ∈ marks.blocks, '\n' ∉ pair.1
  closers : ∀ pair ∈ marks.blocks, pair.2 ≠ [] ∧ OneLine pair.2

theorem plainMarks (kind : FileKind) : PlainMarks kind.marks := by
  cases kind <;> constructor <;> decide

/-! ## What is read off a line -/

section Line

variable {marker line : Text}

theorem indented_withReturns (line : Text) :
    indented (withReturns line) = withReturns (indented line) := by
  rw [indented, Text.lineContent_withReturns, Text.trimStart_withReturns, indented]

theorem isComment_withReturns (plain : OneLine marker) (line : Text) :
    isComment marker (withReturns line) = isComment marker line := by
  rw [isComment, isComment, indented_withReturns, Text.isPrefixOf_withReturns plain]

theorem isBareMarker_withReturns (plain : OneLine marker) (line : Text) :
    isBareMarker marker (withReturns line) = isBareMarker marker line := by
  rw [Bool.eq_iff_iff, isBareMarker, isBareMarker, beq_iff_eq, beq_iff_eq, Text.trim_withReturns,
    Text.withReturns_eq_iff plain.1]

theorem mentionsKeyword_withReturns (text : Text) :
    mentionsKeyword (withReturns text) = mentionsKeyword text := by
  rw [mentionsKeyword, mentionsKeyword, Text.mentions_withReturns (by decide),
    Text.mentions_withReturns (by decide)]

theorem opensNotice_withReturns (line : Text) :
    opensNotice (withReturns line) = opensNotice line := by
  have sign (text : Text) :
      ((withReturns text).head? == some '©') = (text.head? == some '©') := by
    cases text with
    | nil => rfl
    | cons c rest =>
      by_cases feed : c = '\n'
      · subst feed
        rfl
      · rw [Text.withReturns_cons_of_ne feed, List.head?_cons, List.head?_cons]
  rw [opensNotice, opensNotice, indented_withReturns,
    Text.beginsIgnoringCase_withReturns (by decide), sign]

/-- What stands on a line of a text is not touched. -/
theorem lineContent_withReturns_of_mem {text : Text} (member : line ∈ Text.lines text) :
    Text.lineContent (withReturns line) = Text.lineContent line := by
  rw [Text.lineContent_withReturns, Text.withReturns_of_noFeed (Text.noFeed_lineContent member)]

end Line

/-! ## Lines that are judged one by one -/

section Lines

variable (holds : Text → Bool)

/-- What is taken from the front of lines is the same when each line is judged as before. -/
theorem takeWhile_map_withReturns (same : ∀ line, holds (withReturns line) = holds line)
    (lines : List Text) :
    (lines.map withReturns).takeWhile holds = (lines.takeWhile holds).map withReturns := by
  rw [List.takeWhile_map, show holds ∘ withReturns = holds from funext same]

theorem dropWhile_map_withReturns (same : ∀ line, holds (withReturns line) = holds line)
    (lines : List Text) :
    (lines.map withReturns).dropWhile holds = (lines.dropWhile holds).map withReturns := by
  rw [List.dropWhile_map, show holds ∘ withReturns = holds from funext same]

theorem throughLastKeyword_map (lines : List Text) :
    throughLastKeyword (lines.map withReturns) = (throughLastKeyword lines).map withReturns := by
  have unmentioned (line : Text) :
      (!mentionsKeyword (withReturns line)) = !mentionsKeyword line := by
    rw [mentionsKeyword_withReturns]
  have dropped := dropWhile_map_withReturns (fun line => !mentionsKeyword line) unmentioned
    lines.reverse
  rw [throughLastKeyword, throughLastKeyword, ← List.map_reverse, dropped, List.map_reverse]

theorem staleComments_map {marker : Text} (plain : OneLine marker) (run found : List Text) :
    staleComments marker (run.map withReturns) (found.map withReturns) =
      (staleComments marker run found).map withReturns := by
  have filled (line : Text) :
      (!isBareMarker marker (withReturns line)) = !isBareMarker marker line := by
    rw [isBareMarker_withReturns plain]
  have paragraph := takeWhile_map_withReturns (fun line => !isBareMarker marker line) filled
  have bare := takeWhile_map_withReturns _ (isBareMarker_withReturns plain)
  simp only [staleComments, List.length_map, ← List.map_drop, paragraph, bare, List.map_append]

theorem judgeComments_map {marker : Text} (plain : OneLine marker) (scanLines : Nat)
    (lines : List Text) :
    judgeComments scanLines marker (lines.map withReturns) =
      (judgeComments scanLines marker lines).withReturns := by
  rw [judgeComments, judgeComments, takeWhile_map_withReturns _ (isComment_withReturns plain)]
  dsimp only
  rw [← List.map_take, throughLastKeyword_map]
  cases throughLastKeyword ((lines.takeWhile (isComment marker)).take scanLines) with
  | nil => rfl
  | cons line others =>
    rw [List.map_cons]
    dsimp only
    rw [← List.map_cons, staleComments_map plain, List.length_map, ← List.map_drop,
      takeWhile_map_withReturns _ Text.isBlank_withReturns, ← List.map_append,
      ← Text.withReturns_flatten]
    rfl

theorem judgeFirstLine_map (scanLines : Nat) (lines : List Text) :
    judgeFirstLine scanLines (lines.map withReturns) =
      (judgeFirstLine scanLines lines).withReturns := by
  cases lines with
  | nil => rfl
  | cons first others =>
    have filled (line : Text) : (!isBlank (withReturns line)) = !isBlank line := by
      rw [Text.isBlank_withReturns]
    have paragraph := takeWhile_map_withReturns (fun line => !isBlank line) filled
    rw [List.map_cons]
    simp only [judgeFirstLine]
    rw [← List.map_cons, mentionsKeyword_withReturns, opensNotice_withReturns, paragraph,
      List.length_map, ← List.map_drop, takeWhile_map_withReturns _ Text.isBlank_withReturns,
      ← List.map_append, ← Text.withReturns_flatten]
    split
    · rfl
    · split <;> rfl

end Lines

/-! ## Block comments -/

theorem judgeBlock_withReturns (scanLines : Nat) (block after : Text) :
    judgeBlock scanLines (withReturns block) (withReturns after) =
      (judgeBlock scanLines block after).withReturns := by
  rw [judgeBlock, judgeBlock, Text.lines_withReturns, ← List.map_take, ← Text.withReturns_flatten,
    mentionsKeyword_withReturns]
  split
  · rw [Text.lines_withReturns]
    cases Text.lines after with
    | nil => rfl
    | cons line later =>
      rw [List.map_cons]
      dsimp only
      rw [Text.isBlank_withReturns]
      split
      · rw [← List.map_cons, takeWhile_map_withReturns _ Text.isBlank_withReturns,
          ← Text.withReturns_flatten, ← Text.withReturns_append]
        rfl
      · rw [Text.takeWhile_withReturns (by decide) (by decide), ← Text.withReturns_append]
        rfl
  · rfl

/-- The block comment that the first line opens is found through the same closer. -/
theorem leadingBlock_withReturns {body first opener closer : Text} {others : List Text}
    (lines : Text.lines body = first :: others) (opened : opener <+: indented first)
    (noFeed : '\n' ∉ opener) (nonempty : closer ≠ []) (plain : OneLine closer) :
    leadingBlock? (withReturns body) (Text.lineContent first) (opener, closer) =
      (leadingBlock? body (Text.lineContent first) (opener, closer)).map fun (comment, after) =>
        (withReturns comment, withReturns after) := by
  obtain ⟨indent, behind, rfl, -, sameLine, margin⟩ := exists_indent lines opened
  have start : withReturns (indent ++ opener) = indent ++ opener :=
    Text.withReturns_of_noFeed (by simp [sameLine, noFeed])
  rw [leadingBlock?, leadingBlock?]
  dsimp only
  rw [margin, Text.withReturns_append, start, List.drop_left, List.take_left, List.drop_left,
    List.take_left, Text.splitAfter_withReturns nonempty plain, Option.map_map, Option.map_map]
  refine congrFun (congrArg Option.map (funext fun parts => ?_)) _
  simp only [Function.comp_apply, Text.withReturns_append _ parts.1, start]

/-- The same region is at the top. -/
theorem region_withReturns {marks : CommentMarks} (plain : PlainMarks marks) {body first : Text}
    {others : List Text} (lines : Text.lines body = first :: others) :
    region marks (withReturns body) (withReturns first) =
      (region marks body first).withReturns := by
  have member : first ∈ Text.lines body := lines ▸ List.mem_cons_self
  have content := lineContent_withReturns_of_mem member
  have same : indented (withReturns first) = indented first := by
    rw [indented, indented, content]
  rw [region, region, same, content]
  split
  · rename_i pair chosen
    have opened : pair.1 <+: indented first := by
      have opens := List.find?_some chosen
      exact List.isPrefixOf_iff_prefix.mp opens
    have inside := List.mem_of_find?_eq_some chosen
    rw [leadingBlock_withReturns lines opened (plain.openers pair inside)
      (plain.closers pair inside).1 (plain.closers pair inside).2]
    cases leadingBlock? body (Text.lineContent first) (pair.1, pair.2) <;> rfl
  · split
    · split <;> rfl
    · rfl

/-! ## The verdict -/

theorem judge_withReturns {marks : CommentMarks} (plain : PlainMarks marks) (scanLines : Nat)
    (body : Text) :
    judge marks scanLines (withReturns body) = (judge marks scanLines body).withReturns := by
  cases cut : Text.lines body with
  | nil =>
    rw [judge, judge, Text.lines_withReturns, cut]
    rfl
  | cons first others =>
    have turned : Text.lines (withReturns body) = withReturns first :: others.map withReturns := by
      rw [Text.lines_withReturns, cut, List.map_cons]
    have found := region_withReturns plain cut
    cases top : region marks body first with
    | block comment after =>
      rw [top] at found
      rw [judge_of_block cut top, judge_of_block turned found, judgeBlock_withReturns]
    | comments marker =>
      rw [top] at found
      rw [judge_of_comments cut top, judge_of_comments turned found, ← List.map_cons,
        judgeComments_map (plain.line marker (region_eq_comments top))]
    | none =>
      rw [top] at found
      rw [judge_of_none cut top, judge_of_none turned found, ← List.map_cons, judgeFirstLine_map]

/-- The same stands on the lines at the top. -/
theorem opening_withReturns (layout : Layout) (body : Text) :
    opening layout (withReturns body) = opening layout body := by
  rw [opening, opening, Text.lines_withReturns, ← List.map_take, List.map_map]
  exact List.map_congr_left fun line member =>
    lineContent_withReturns_of_mem (List.mem_of_mem_take member)

theorem classify_withReturns (kind : FileKind) (notice : Notice) (scanLines : Nat) (body : Text) :
    classify kind notice scanLines (withReturns body) =
      (classify kind notice scanLines body).withReturns := by
  have same := opening_withReturns kind.layout body
  rw [opening, opening] at same
  rw [classify, classify, same]
  split
  · rfl
  · exact judge_withReturns (plainMarks kind) scanLines body

/-! ## What a fix keeps -/

theorem remainder_withReturns (kind : FileKind) (notice : Notice) (scanLines : Nat)
    (body : Text) :
    remainder (classify kind notice scanLines (withReturns body)) (withReturns body) =
      withReturns (remainder (classify kind notice scanLines body) body) := by
  obtain ⟨kept, whole, -⟩ := classify_stale kind notice scanLines body
  have turned : withReturns (classify kind notice scanLines body).stale ++ withReturns kept =
      withReturns body := by
    rw [← Text.withReturns_append, ← whole]
  rw [classify_withReturns, remainder, Verdict.withReturns, drop_of_append turned, remainder,
    drop_of_append whole.symm, Text.dropBlankLines_withReturns]

/-- A shebang line is split off with its line end. -/
theorem split_withReturns (content : Text) :
    Shebang.split (withReturns content) =
      ((Shebang.split content).1.map withReturns, withReturns (Shebang.split content).2) := by
  have opens : Shebang.opens (withReturns content) = Shebang.opens content := by
    rw [Shebang.opens, Shebang.opens, Text.isPrefixOf_withReturns (by decide),
      Text.isPrefixOf_withReturns (by decide)]
  cases script : Shebang.opens content with
  | false =>
    rw [Shebang.split_of_not_opens script, Shebang.split_of_not_opens (opens.trans script)]
    rfl
  | true =>
    obtain ⟨line, noFeed, same, rfl | ⟨rest, rfl⟩⟩ := Shebang.split_of_opens script
    · rw [Text.withReturns_of_noFeed noFeed, Shebang.split_lastLine noFeed same, Option.map_some,
        Text.withReturns_of_noFeed noFeed, Text.withReturns_nil]
    · have turned := Text.withReturns_append_lineFeed noFeed rest
      have still : Shebang.opens (line ++ ['\r']) = true := by
        rw [← Shebang.opens_append_lineFeed _ (withReturns rest), ← turned, opens, script]
      rw [turned, Shebang.split_line_append _ (by simp [noFeed]) still,
        Shebang.split_line_append rest noFeed same, Option.map_some, Text.withReturns_append,
        Text.withReturns_of_noFeed noFeed, List.append_assoc]
      rfl

/-- **Line ends do not matter.** With carriage returns in front of its line feeds a body has the
same status, and what is stale of it is what was stale, with carriage returns. A content is left
alone with one kind of line ends exactly when it is with the other, and otherwise both fixes write
the same notice, and keep the same shebang line and the same rest, each with its own line ends. -/
theorem fix_withReturns (kind : FileKind) (notice : Notice) (scanLines currentYear : Nat) :
    (∀ body : Text,
      (classify kind notice scanLines (withReturns body)).status =
          (classify kind notice scanLines body).status ∧
        (classify kind notice scanLines (withReturns body)).stale =
          withReturns (classify kind notice scanLines body).stale) ∧
      ∀ content : Text,
        let shebang := (Shebang.split content).1
        let body := (Shebang.split content).2
        let written := notice.render kind.layout currentYear
        let rest := remainder (classify kind notice scanLines body) body
        (fix? kind notice scanLines currentYear content = none ∧
          fix? kind notice scanLines currentYear (withReturns content) = none) ∨
        (fix? kind notice scanLines currentYear content = some (assemble shebang written rest) ∧
          fix? kind notice scanLines currentYear (withReturns content) =
            some (assemble (shebang.map withReturns) written (withReturns rest))) := by
  have verdict (body : Text) := classify_withReturns kind notice scanLines body
  refine ⟨fun body => by rw [verdict]; exact ⟨rfl, rfl⟩, fun content => ?_⟩
  intro shebang body written rest
  have below : (Shebang.split (withReturns content)).2 = withReturns body := by
    rw [split_withReturns]
  by_cases status : (classify kind notice scanLines body).status = .correct
  · left
    rw [fix_eq_none_iff, fix_eq_none_iff, below, verdict]
    exact ⟨status, status⟩
  · right
    have still : (classify kind notice scanLines
        (Shebang.split (withReturns content)).2).status ≠ .correct := by
      rw [below, verdict]
      exact status
    refine ⟨fix_of_status_ne currentYear status, ?_⟩
    rw [fix_of_status_ne currentYear still, below, remainder_withReturns, split_withReturns]

/-- Behind the closer of a block comment the carriage return goes with its line. -/
example :
    fix? .cLike ⟨"MIT".toList, "A".toList, .fixed 2024⟩ 10 2026
        "/* Copyright B */\r\n\r\nf();\r\n".toList =
      some ("// Copyright © 2024 A\n//\n// SPDX-License-Identifier: MIT\n\n".toList ++
        "f();\r\n".toList) := by
  decide +kernel

end Hygiene.Header
