import Hygiene.Proofs.Header.Fixed
import Hygiene.Proofs.Text.Search

/-!
# A fix never loses code

What a fix takes away from a body stands at its front, and it is of one of four forms: blank
characters alone, or a block comment, a run of line comments, or a paragraph that opens with
a copyright notice, each with blank characters around it (`Removable`). Everything behind it
stands below the notice afterwards, character for character (`fix_keeps_rest`).

Each kind of verdict is followed on its own. What it calls stale is a beginning of the text
that it was told of (`judgeBlock_stale`, `judgeComments_stale`, `judgeFirstLine_stale`), and
the region at the top of a body says what that beginning consists of.
-/

set_option autoImplicit false

namespace Hygiene.Header

open Text (isBlank EndsFirst)

/-! ## What may be removed -/

/-- What a fix may take away from the front of a body. -/
inductive Removable (marks : CommentMarks) (body : Text) : Text → Prop where
  /-- Blank characters. -/
  | blank {after : Text} (white : isBlank after = true) : Removable marks body after
  /-- A block comment that the first line opens, from its opener through the first closer
  behind it. -/
  | block {opener closer indent inner after : Text} (pair : (opener, closer) ∈ marks.blocks)
      (indented : isBlank indent = true) (sameLine : '\n' ∉ indent)
      (closes : EndsFirst closer (inner ++ closer)) (white : isBlank after = true) :
      Removable marks body (indent ++ opener ++ (inner ++ closer) ++ after)
  /-- The first lines, each of them a comment behind the marker. -/
  | comments {marker after : Text} {run later : List Text} (mark : marks.line = some marker)
      (cut : Text.lines body = run ++ later)
      (commented : ∀ line ∈ run, isComment marker line = true) (white : isBlank after = true) :
      Removable marks body (run.flatten ++ after)
  /-- The lines up to the first blank one, when they open with a copyright notice. -/
  | paragraph {first after : Text} {others : List Text}
      (cut : Text.lines body = first :: others) (notice : opensNotice first = true)
      (white : isBlank after = true) :
      Removable marks body
        (((Text.lines body).takeWhile fun line => !isBlank line).flatten ++ after)

/-- Blank characters behind what may be removed may be removed with it. -/
theorem Removable.append {marks : CommentMarks} {body removed more : Text}
    (removable : Removable marks body removed) (white : isBlank more = true) :
    Removable marks body (removed ++ more) := by
  cases removable with
  | blank before => exact .blank (Text.isBlank_append before white)
  | block pair indented sameLine closes before =>
    rw [List.append_assoc]
    exact .block pair indented sameLine closes (Text.isBlank_append before white)
  | comments mark cut commented before =>
    rw [List.append_assoc]
    exact .comments mark cut commented (Text.isBlank_append before white)
  | paragraph cut notice before =>
    rw [List.append_assoc]
    exact .paragraph cut notice (Text.isBlank_append before white)

/-! ## What each verdict calls stale -/

/-- Of a block and what follows it, nothing is stale, or the block and blank characters
behind it. -/
theorem judgeBlock_stale (scanLines : Nat) (block after : Text) :
    (judgeBlock scanLines block after).stale = [] ∨
      ∃ white kept : Text, after = white ++ kept ∧ isBlank white = true ∧
        (judgeBlock scanLines block after).stale = block ++ white := by
  rw [judgeBlock]
  split
  · right
    cases cut : Text.lines after with
    | nil => exact ⟨[], after, rfl, rfl, (List.append_nil block).symm⟩
    | cons line later =>
      dsimp only
      split
      · refine ⟨((line :: later).takeWhile isBlank).flatten, Text.dropBlankLines after, ?_,
          Text.isBlank_takeWhile_flatten _, rfl⟩
        rw [← cut]
        exact (Text.takeBlankLines_append after).symm
      · refine ⟨after.takeWhile fun c => c = ' ' || c = '\t',
          after.dropWhile fun c => c = ' ' || c = '\t',
          List.takeWhile_append_dropWhile.symm, Text.isBlank_takeWhile after ?_, rfl⟩
        intro c white
        rcases (by simpa using white : c = ' ' ∨ c = '\t') with rfl | rfl <;> rfl
  · exact .inl rfl

/-- The lines through the last one with a keyword are the first ones. -/
theorem isPrefix_throughLastKeyword (lines : List Text) : throughLastKeyword lines <+: lines := by
  rw [throughLastKeyword, ← List.reverse_suffix, List.reverse_reverse]
  exact List.dropWhile_suffix _

/-- What is left of a list behind a beginning of it. -/
theorem drop_of_append {α : Type} {first kept list : List α} (same : first ++ kept = list) :
    list.drop first.length = kept := by
  rw [← same]
  exact List.drop_left

/-- What is left of a list behind its longest beginning of a kind. -/
theorem drop_length_takeWhile {α : Type} (holds : α → Bool) (list : List α) :
    list.drop (list.takeWhile holds).length = list.dropWhile holds :=
  drop_of_append List.takeWhile_append_dropWhile

/-- The stale comments of a run are the first ones of it. -/
theorem isPrefix_staleComments (marker : Text) {run found : List Text} (first : found <+: run) :
    staleComments marker run found <+: run := by
  obtain ⟨later, rfl⟩ := first
  rw [staleComments, List.drop_left, drop_length_takeWhile, List.append_assoc,
    List.prefix_append_right_inj]
  conv_rhs => rw [← List.takeWhile_append_dropWhile (p := fun line => !isBareMarker marker line)
    (l := later)]
  rw [List.prefix_append_right_inj]
  exact List.takeWhile_prefix _

/-- Of lines that begin with comments, nothing is stale, or some comments at their front and
the blank lines behind these. -/
theorem judgeComments_stale (scanLines : Nat) (marker : Text) (lines : List Text) :
    (judgeComments scanLines marker lines).stale = [] ∨
      ∃ run white kept : List Text, lines = run ++ (white ++ kept) ∧
        (∀ line ∈ run, isComment marker line = true) ∧
        isBlank white.flatten = true ∧
        (judgeComments scanLines marker lines).stale = run.flatten ++ white.flatten := by
  rw [judgeComments]
  split
  · exact .inl rfl
  · rename_i line others found
    have windowed : line :: others <+: lines.takeWhile (isComment marker) := by
      rw [← found]
      exact (isPrefix_throughLastKeyword _).trans (List.take_prefix _ _)
    have first := isPrefix_staleComments marker windowed
    obtain ⟨kept, same⟩ := first.trans (List.takeWhile_prefix _)
    refine .inr ⟨staleComments marker (lines.takeWhile (isComment marker)) (line :: others),
      kept.takeWhile isBlank, kept.dropWhile isBlank, ?_, ?_,
      Text.isBlank_takeWhile_flatten kept, ?_⟩
    · rw [List.takeWhile_append_dropWhile]
      exact same.symm
    · exact fun comment member => List.mem_takeWhile_imp (first.subset member)
    · rw [Verdict.incorrect, drop_of_append same, List.flatten_append]

/-- Of lines outside a comment, nothing is stale, or the first paragraph, which opens with a
copyright notice, and the blank lines behind it. -/
theorem judgeFirstLine_stale (scanLines : Nat) (lines : List Text) :
    (judgeFirstLine scanLines lines).stale = [] ∨
      ∃ (first : Text) (others white kept : List Text), lines = first :: others ∧
        opensNotice first = true ∧
        lines = (lines.takeWhile fun line => !isBlank line) ++ (white ++ kept) ∧
        isBlank white.flatten = true ∧
        (judgeFirstLine scanLines lines).stale =
          (lines.takeWhile fun line => !isBlank line).flatten ++ white.flatten := by
  cases lines with
  | nil => exact .inl rfl
  | cons first others =>
    rw [judgeFirstLine]
    split
    · exact .inl rfl
    · split
      · exact .inl rfl
      · rename_i opens
        dsimp only
        rw [drop_length_takeWhile, Verdict.incorrect, List.flatten_append]
        refine .inr ⟨first, others, _, ((first :: others).dropWhile fun line =>
          !isBlank line).dropWhile isBlank, rfl, by simpa using opens, ?_,
          Text.isBlank_takeWhile_flatten _, rfl⟩
        rw [List.takeWhile_append_dropWhile, List.takeWhile_append_dropWhile]

/-! ## What stands at the top of a body -/

/-- A region is a block comment only when the first line opens it. -/
theorem region_eq_block {marks : CommentMarks} {body first comment after : Text}
    (top : region marks body first = .block comment after) :
    ∃ opener closer : Text, (opener, closer) ∈ marks.blocks ∧ opener <+: indented first ∧
      leadingBlock? body (Text.lineContent first) (opener, closer) = some (comment, after) := by
  rw [region] at top
  split at top
  · rename_i pair chosen
    obtain ⟨opener, closer⟩ := pair
    have opened := List.find?_some chosen
    refine ⟨opener, closer, List.mem_of_find?_eq_some chosen,
      List.isPrefixOf_iff_prefix.mp opened, ?_⟩
    split at top
    · rename_i found
      rw [Region.block.injEq] at top
      rw [found, top.1, top.2]
    · exact Region.noConfusion top
  · split at top
    · split at top <;> exact Region.noConfusion top
    · exact Region.noConfusion top

/-- A region is a run of comments only behind the marker of line comments. -/
theorem region_eq_comments {marks : CommentMarks} {body first marker : Text}
    (top : region marks body first = .comments marker) : marks.line = some marker := by
  rw [region] at top
  split at top
  · split at top <;> exact Region.noConfusion top
  · split at top
    · rename_i mark
      split at top
      · rw [Region.comments.injEq] at top
        rw [mark, top]
      · exact Region.noConfusion top
    · exact Region.noConfusion top

/-- The opener with which the first line begins stands behind blank characters at the front of
the body, and what follows it is where a closer is sought. -/
theorem exists_indent {body first opener : Text} {others : List Text}
    (lines : Text.lines body = first :: others) (opened : opener <+: indented first) :
    ∃ indent behind : Text, body = indent ++ opener ++ behind ∧ isBlank indent = true ∧
      '\n' ∉ indent ∧
      (Text.lineContent first).length - (Text.lineContent first).trimStart.length +
        opener.length = (indent ++ opener).length := by
  obtain ⟨behind, rest⟩ := opened
  obtain ⟨below, onLine⟩ : Text.lineContent first <+: body := by
    apply (Text.isPrefix_lineContent first).trans
    rw [← Text.flatten_lines body, lines, List.flatten_cons]
    exact List.prefix_append first _
  let indent := (Text.lineContent first).takeWhile isBlankChar
  have cut : indent ++ (opener ++ behind) = Text.lineContent first := by
    rw [rest]
    exact Text.takeWhile_append_trimStart _
  refine ⟨indent, behind ++ below, ?_, Text.isBlank_takeWhile _ fun _ white => white, ?_, ?_⟩
  · rw [← onLine, ← cut]
    simp only [List.append_assoc]
  · intro feed
    have member : first ∈ Text.lines body := by
      rw [lines]
      exact List.mem_cons_self
    exact Text.noFeed_lineContent member ((List.takeWhile_prefix _).subset feed)
  · have length := congrArg List.length cut
    have trimmed := congrArg List.length rest
    simp only [List.length_append, indented] at length trimmed ⊢
    omega

/-- A block comment at the top of a body consists of what indents it, the opener, and what
follows through the first closer. -/
theorem leadingBlock_eq_some {body first comment after opener closer : Text}
    {others : List Text} (lines : Text.lines body = first :: others) (nonempty : closer ≠ [])
    (opened : opener <+: indented first)
    (found : leadingBlock? body (Text.lineContent first) (opener, closer) =
      some (comment, after)) :
    body = comment ++ after ∧ ∃ indent inner : Text,
      comment = indent ++ opener ++ (inner ++ closer) ∧ isBlank indent = true ∧
        '\n' ∉ indent ∧ EndsFirst closer (inner ++ closer) := by
  obtain ⟨indent, behind, whole, blank, sameLine, margin⟩ := exists_indent lines opened
  rw [leadingBlock?] at found
  dsimp only at found
  rw [margin, whole, List.drop_left, List.take_left] at found
  obtain ⟨⟨through, later⟩, split, same⟩ := Option.map_eq_some_iff.mp found
  obtain ⟨rejoined, inner, rfl, closes⟩ := Text.splitAfter_eq_some nonempty split
  rw [Prod.mk.injEq] at same
  obtain ⟨rfl, rfl⟩ := same
  refine ⟨?_, indent, inner, rfl, blank, sameLine, closes⟩
  rw [whole, rejoined]
  simp only [List.append_assoc]

/-- A block comment is found again when something else stands behind it. -/
theorem leadingBlock_append {body first comment after opener closer : Text}
    {others : List Text} (lines : Text.lines body = first :: others) (nonempty : closer ≠ [])
    (opened : opener <+: indented first)
    (found : leadingBlock? body (Text.lineContent first) (opener, closer) =
      some (comment, after)) (more : Text) :
    leadingBlock? (comment ++ more) (Text.lineContent first) (opener, closer) =
      some (comment, more) := by
  obtain ⟨indent, behind, whole, -, -, margin⟩ := exists_indent lines opened
  rw [leadingBlock?] at found ⊢
  dsimp only at found ⊢
  rw [margin, whole, List.drop_left, List.take_left] at found
  obtain ⟨⟨through, later⟩, split, same⟩ := Option.map_eq_some_iff.mp found
  obtain ⟨-, inner, rfl, closes⟩ := Text.splitAfter_eq_some nonempty split
  rw [Prod.mk.injEq] at same
  rw [← same.1, List.append_assoc, margin, List.drop_left, List.take_left,
    Text.splitAfter_append nonempty closes]
  rfl

/-- What the verdict on a body calls stale stands at its front and may be removed. -/
theorem judge_stale {marks : CommentMarks} (closers : ∀ pair ∈ marks.blocks, pair.2 ≠ [])
    (scanLines : Nat) (body : Text) :
    ∃ kept : Text, body = (judge marks scanLines body).stale ++ kept ∧
      Removable marks body (judge marks scanLines body).stale := by
  have nothing : ∃ kept : Text, body = [] ++ kept ∧ Removable marks body [] :=
    ⟨body, rfl, .blank rfl⟩
  rw [judge]
  cases lines : Text.lines body with
  | nil => exact nothing
  | cons first others =>
    have flattened : (first :: others).flatten = body := by
      rw [← lines, Text.flatten_lines]
    dsimp only
    cases top : region marks body first with
    | block comment after =>
      rcases judgeBlock_stale scanLines comment after with none | ⟨white, kept, rfl, blank, stale⟩
      · rw [none]
        exact nothing
      · obtain ⟨opener, closer, member, opened, found⟩ := region_eq_block top
        obtain ⟨whole, indent, inner, rfl, indented, sameLine, closes⟩ :=
          leadingBlock_eq_some lines (closers _ member) opened found
        rw [stale]
        refine ⟨kept, ?_, .block member indented sameLine closes blank⟩
        rw [whole]
        simp only [List.append_assoc]
    | comments marker =>
      rcases judgeComments_stale scanLines marker (first :: others) with
        none | ⟨run, white, kept, cut, commented, blank, stale⟩
      · rw [none]
        exact nothing
      · rw [stale]
        refine ⟨kept.flatten, ?_,
          .comments (region_eq_comments top) (lines.trans cut) commented blank⟩
        rw [← flattened, cut]
        simp only [List.flatten_append, List.append_assoc]
    | none =>
      rcases judgeFirstLine_stale scanLines (first :: others) with
        none | ⟨opening, later, white, kept, same, notice, cut, blank, stale⟩
      · rw [none]
        exact nothing
      · rw [stale, ← lines]
        refine ⟨kept.flatten, ?_, .paragraph (lines.trans same) notice blank⟩
        conv_lhs => rw [← flattened, cut]
        simp only [lines, List.flatten_append, List.append_assoc]

/-! ## What a fix keeps -/

/-- Every closer of a block comment is a text with something in it. -/
theorem closers_ne_nil (kind : FileKind) : ∀ pair ∈ kind.marks.blocks, pair.2 ≠ [] := by
  cases kind <;> decide

theorem classify_stale (kind : FileKind) (notice : Notice) (scanLines : Nat) (body : Text) :
    ∃ kept : Text, body = (classify kind notice scanLines body).stale ++ kept ∧
      Removable kind.marks body (classify kind notice scanLines body).stale := by
  rw [classify]
  split
  · exact ⟨body, rfl, .blank rfl⟩
  · exact judge_stale (closers_ne_nil kind) scanLines body

/-- A body is what a fix removes of it in front of what remains. -/
theorem remainder_eq (kind : FileKind) (notice : Notice) (scanLines : Nat) (body : Text) :
    ∃ removed : Text,
      body = removed ++ remainder (classify kind notice scanLines body) body ∧
        Removable kind.marks body removed := by
  obtain ⟨kept, whole, removable⟩ := classify_stale kind notice scanLines body
  refine ⟨_, ?_, removable.append (Text.isBlank_takeWhile_flatten (Text.lines kept))⟩
  rw [remainder, drop_of_append whole.symm, List.append_assoc, Text.takeBlankLines_append]
  exact whole

/-- **A fix never loses code.** A fixed content is the shebang line, the notice, and the body
without a beginning of it that may be removed. What remains of the body is unchanged, begins
with a line that is not blank, and stands below an empty line. -/
theorem fix_keeps_rest {kind : FileKind} {notice : Notice} {scanLines currentYear : Nat}
    {content fixed : Text}
    (made : fix? kind notice scanLines currentYear content = some fixed) :
    ∃ removed rest : Text, (Shebang.split content).2 = removed ++ rest ∧
      fixed = ((Shebang.split content).1.map terminated).getD [] ++
        notice.render kind.layout currentYear ++ (if rest = [] then [] else '\n' :: rest) ∧
      (∀ line ∈ (Text.lines rest).head?, isBlank line = false) ∧
      Removable kind.marks (Shebang.split content).2 removed := by
  have status : (classify kind notice scanLines (Shebang.split content).2).status ≠ .correct := by
    intro correct
    rw [(fix_eq_none_iff kind notice scanLines currentYear content).mpr correct] at made
    cases made
  rw [fix_of_status_ne currentYear status, Option.some.injEq] at made
  obtain ⟨removed, whole, removable⟩ :=
    remainder_eq kind notice scanLines (Shebang.split content).2
  refine ⟨removed, _, whole, ?_, Text.dropBlankLines_head _, removable⟩
  rw [← made, assemble]
  simp only [List.isEmpty_iff]

/-- The theorem at a stale block comment with code behind its closer. -/
theorem fix_keeps_rest_behindCloser :
    let notice : Notice := ⟨['M', 'I', 'T'], ['A'], .fixed 2020⟩
    let content : Text := "#!node\n /* license\n*/ \tf();\n\ng();".toList
    ∃ fixed : Text, fix? .javascript notice 10 2026 content = some fixed ∧
      ∃ removed rest : Text, (Shebang.split content).2 = removed ++ rest ∧
        fixed = ((Shebang.split content).1.map terminated).getD [] ++
          notice.render FileKind.javascript.layout 2026 ++
          (if rest = [] then [] else '\n' :: rest) ∧
        (∀ line ∈ (Text.lines rest).head?, isBlank line = false) ∧
        Removable FileKind.javascript.marks (Shebang.split content).2 removed := by
  have made : fix? .javascript ⟨['M', 'I', 'T'], ['A'], .fixed 2020⟩ 10 2026
      "#!node\n /* license\n*/ \tf();\n\ng();".toList =
        some ("#!node\n/**\n * Copyright © 2020 A\n *\n".toList ++
          " * SPDX-License-Identifier: MIT\n */\n\nf();\n\ng();".toList) := by
    decide +kernel
  exact ⟨_, made, fix_keeps_rest made⟩

end Hygiene.Header
