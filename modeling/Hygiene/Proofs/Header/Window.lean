import Mathlib.Data.List.Infix
import Hygiene.Proofs.Header.Accepted
import Hygiene.Proofs.Header.Paragraphs

/-!
# A larger window only finds more

Only the lines within the window are searched for keywords. When a body is found to be incorrect
in a window, it is found to be incorrect in every larger one, and what is stale in the smaller
window is the beginning of what is stale in the larger one (`classify_wider`).

For a run of line comments this is a fact about boundaries. What a larger window removes ends at a
boundary as well, below the last keyword of the smaller one, and the smaller window removes the
lines down to the first such boundary (`isPrefix_staleComments_wider`).

A window as large as the comment at the top, and never empty, finds what any larger one finds.
-/

set_option autoImplicit false

namespace Hygiene.Header

open Text (isBlank)

/-- The number of lines of the comment at the top of a body, and none when no comment stands
there. -/
def commentHeight (marks : CommentMarks) (body : Text) : Nat :=
  match Text.lines body with
  | [] => 0
  | first :: others =>
    match region marks body first with
    | .block comment _ => (Text.lines comment).length
    | .comments marker => ((first :: others).takeWhile (isComment marker)).length
    | .none => 0

/-- A verdict finds all that another one finds. -/
structure Verdict.Extends (wide narrow : Verdict) : Prop where
  incorrect : narrow.status = .incorrect → wide.status = .incorrect
  stale : narrow.stale <+: wide.stale

namespace Verdict.Extends

theorem refl (verdict : Verdict) : verdict.Extends verdict :=
  ⟨id, List.prefix_refl _⟩

theorem absent (wide : Verdict) : wide.Extends .absent :=
  ⟨(fun found => nomatch found), List.nil_prefix⟩

theorem utf8Size_le {narrow wide : Verdict} (found : wide.Extends narrow) :
    narrow.stale.utf8Size ≤ wide.stale.utf8Size := by
  obtain ⟨more, whole⟩ := found.stale
  rw [← whole, Text.utf8Size_append]
  exact Nat.le_add_right _ _

end Verdict.Extends

variable {marks : CommentMarks} {marker : Text} {narrow wide : Nat} {lines : List Text}

/-! ## Block comments -/

theorem judgeBlock_extends (wider : narrow ≤ wide) (block after : Text) :
    (judgeBlock wide block after).Extends (judgeBlock narrow block after) := by
  by_cases keyword : mentionsKeyword ((Text.lines block).take narrow).flatten = true
  · have more : mentionsKeyword ((Text.lines block).take wide).flatten = true := by
      refine mentionsKeyword_of_isInfix keyword (List.IsPrefix.isInfix ?_)
      exact List.IsPrefix.flatten (List.take_prefix_take_left wider)
    rw [judgeBlock, judgeBlock, if_pos keyword, if_pos more]
    exact .refl _
  · have none : judgeBlock narrow block after = .absent := by rw [judgeBlock, if_neg keyword]
    rw [none]
    exact .absent _

theorem judgeBlock_of_high {block : Text} (high : (Text.lines block).length ≤ narrow)
    (wider : narrow ≤ wide) (after : Text) :
    judgeBlock wide block after = judgeBlock narrow block after := by
  rw [judgeBlock, judgeBlock, List.take_of_length_le high,
    List.take_of_length_le (Nat.le_trans high wider)]

/-! ## Line comments -/

/-- The last keyword in a larger window stands no higher. -/
theorem isPrefix_throughLastKeyword_wider (wider : narrow ≤ wide) (run : List Text) :
    throughLastKeyword (run.take narrow) <+: throughLastKeyword (run.take wide) := by
  refine List.prefix_of_prefix_length_le
    ((isPrefix_throughLastKeyword _).trans (List.take_prefix narrow run))
    ((isPrefix_throughLastKeyword _).trans (List.take_prefix wide run)) ?_
  by_contra low
  obtain ⟨line, member, keyword⟩ :=
    (exists_keyword_drop_iff (run.take narrow) _).mpr (Nat.lt_of_not_le low)
  have inside : line ∈ (run.take wide).drop (throughLastKeyword (run.take wide)).length :=
    (List.IsPrefix.drop (List.take_prefix_take_left wider) _).subset member
  exact absurd ((exists_keyword_drop_iff _ _).mp ⟨line, inside, keyword⟩) (Nat.lt_irrefl _)

/-- A larger window removes no fewer lines of a run. -/
theorem LineMarker.isPrefix_staleComments_wider (mark : LineMarker marks marker)
    (wider : narrow ≤ wide) (run : List Text) :
    staleComments marker run (throughLastKeyword (run.take narrow)) <+:
      staleComments marker run (throughLastKeyword (run.take wide)) := by
  have first : throughLastKeyword (run.take wide) <+: run :=
    (isPrefix_throughLastKeyword _).trans (List.take_prefix wide run)
  obtain ⟨kept, cut, boundary⟩ := boundary_staleComments marker first
  have inside := (isPrefix_throughLastKeyword_wider wider run).trans (isPrefix_found marker run _)
  have same := staleComments_append_of_boundary inside
    (mark.not_isBareMarker_lastKeyword (run.take narrow)) boundary
  rw [← cut] at same
  rw [same]
  exact isPrefix_staleComments marker inside

/-- With the blank lines behind them, more lines that are removed are more as well. -/
theorem isPrefix_append_takeWhile {α : Type} (holds : α → Bool) {less more items : List α}
    (within : less <+: more) (first : more <+: items) :
    less ++ (items.drop less.length).takeWhile holds <+:
      more ++ (items.drop more.length).takeWhile holds := by
  obtain ⟨between, rfl⟩ := within
  obtain ⟨later, rfl⟩ := first
  rw [List.drop_left, List.append_assoc, List.drop_left, List.append_assoc,
    List.prefix_append_right_inj, List.takeWhile_append]
  split
  · exact List.prefix_refl _
  · exact (List.takeWhile_prefix holds).trans (List.prefix_append between _)

theorem LineMarker.judgeComments_extends (mark : LineMarker marks marker)
    (wider : narrow ≤ wide) (lines : List Text) :
    (judgeComments wide marker lines).Extends (judgeComments narrow marker lines) := by
  let run := lines.takeWhile (isComment marker)
  by_cases keyword : ∃ line ∈ run.take narrow, mentionsKeyword line = true
  · obtain ⟨line, member, mentioned⟩ := keyword
    have more : line ∈ run.take wide := (List.take_prefix_take_left wider).subset member
    rw [judgeComments_of_keyword ⟨line, member, mentioned⟩,
      judgeComments_of_keyword ⟨line, more, mentioned⟩]
    refine ⟨id, List.IsPrefix.flatten ?_⟩
    refine isPrefix_append_takeWhile isBlank (mark.isPrefix_staleComments_wider wider run) ?_
    refine (isPrefix_staleComments marker ?_).trans (List.takeWhile_prefix _)
    exact (isPrefix_throughLastKeyword _).trans (List.take_prefix _ _)
  · have none : ∀ line ∈ run.take narrow, mentionsKeyword line = false := by simpa using keyword
    rw [judgeComments_of_noKeyword none]
    exact .absent _

theorem judgeComments_of_high
    (high : (lines.takeWhile (isComment marker)).length ≤ narrow) (wider : narrow ≤ wide) :
    judgeComments wide marker lines = judgeComments narrow marker lines := by
  rw [judgeComments, judgeComments, List.take_of_length_le high,
    List.take_of_length_le (Nat.le_trans high wider)]

/-! ## A first line outside a comment -/

theorem judgeFirstLine_of_pos (filled : 0 < narrow) (wider : narrow ≤ wide) (lines : List Text) :
    judgeFirstLine wide lines = judgeFirstLine narrow lines := by
  have one : decide (narrow = 0) = false := by simpa using Nat.ne_of_gt filled
  have other : decide (wide = 0) = false := by
    simpa using Nat.ne_of_gt (Nat.lt_of_lt_of_le filled wider)
  cases lines with
  | nil => rfl
  | cons first others => rw [judgeFirstLine, judgeFirstLine, one, other]

theorem judgeFirstLine_extends (wider : narrow ≤ wide) (lines : List Text) :
    (judgeFirstLine wide lines).Extends (judgeFirstLine narrow lines) := by
  rcases Nat.eq_zero_or_pos narrow with rfl | filled
  · cases lines <;> exact .absent _
  · rw [judgeFirstLine_of_pos filled wider]
    exact .refl _

/-! ## The verdict -/

theorem judge_extends (kind : FileKind) (wider : narrow ≤ wide) (body : Text) :
    (judge kind.marks wide body).Extends (judge kind.marks narrow body) := by
  cases cut : Text.lines body with
  | nil =>
    rw [judge, judge, cut]
    exact .refl _
  | cons first others =>
    cases top : region kind.marks body first with
    | block comment after =>
      rw [judge_of_block cut top, judge_of_block cut top]
      exact judgeBlock_extends wider comment after
    | comments marker =>
      rw [judge_of_comments cut top, judge_of_comments cut top]
      exact (lineMarker_of_marks (region_eq_comments top)).judgeComments_extends wider _
    | none =>
      rw [judge_of_none cut top, judge_of_none cut top]
      exact judgeFirstLine_extends wider _

theorem judge_of_high {body : Text} (high : max 1 (commentHeight marks body) ≤ narrow)
    (wider : narrow ≤ wide) : judge marks wide body = judge marks narrow body := by
  obtain ⟨filled, high⟩ := Nat.max_le.mp high
  cases cut : Text.lines body with
  | nil => rw [judge, judge, cut]
  | cons first others =>
    rw [commentHeight, cut] at high
    dsimp only at high
    cases top : region marks body first with
    | block comment after =>
      rw [top] at high
      rw [judge_of_block cut top, judge_of_block cut top, judgeBlock_of_high high wider]
    | comments marker =>
      rw [top] at high
      rw [judge_of_comments cut top, judge_of_comments cut top, judgeComments_of_high high wider]
    | none =>
      rw [judge_of_none cut top, judge_of_none cut top, judgeFirstLine_of_pos filled wider]

/-- A correct body is correct in every window, and the verdict on any other one does not depend on
the notice. -/
theorem classify_cases (kind : FileKind) (notice : Notice) (body : Text) :
    (∀ scanLines, classify kind notice scanLines body = .correct) ∨
      ∀ scanLines, classify kind notice scanLines body = judge kind.marks scanLines body := by
  by_cases agree : notice.matchesLines kind.layout (opening kind.layout body) = true
  · exact .inl fun scanLines => if_pos agree
  · exact .inr fun scanLines => if_neg agree

/-- **A larger window only finds more.** A body that is incorrect in a window is incorrect in
every larger one, and at least as much of it is stale, from the top. Whether it is correct does
not depend on the window. From the height of the comment at the top on, and from one line on, all
windows lead to the same verdict. -/
theorem classify_wider (kind : FileKind) (notice : Notice) {narrow wide : Nat}
    (wider : narrow ≤ wide) (body : Text) :
    ((classify kind notice narrow body).status = .incorrect →
        (classify kind notice wide body).status = .incorrect) ∧
      (classify kind notice narrow body).stale <+: (classify kind notice wide body).stale ∧
      (classify kind notice narrow body).stale.utf8Size ≤
        (classify kind notice wide body).stale.utf8Size ∧
      ((classify kind notice narrow body).status = .correct ↔
        (classify kind notice wide body).status = .correct) ∧
      (max 1 (commentHeight kind.marks body) ≤ narrow →
        classify kind notice wide body = classify kind notice narrow body) := by
  have found : (classify kind notice wide body).Extends (classify kind notice narrow body) := by
    rcases classify_cases kind notice body with correct | judged
    · rw [correct, correct]
      exact .refl _
    · rw [judged, judged]
      exact judge_extends kind wider body
  refine ⟨found.incorrect, found.stale, found.utf8Size_le, ?_, ?_⟩
  · rw [status_correct_iff_matchesLines, status_correct_iff_matchesLines]
  · intro high
    rcases classify_cases kind notice body with correct | judged
    · rw [correct, correct]
    · rw [judged, judged, judge_of_high high wider]

/-- The theorem at a run of comments where the smaller window cuts a paragraph and the larger one
finds a keyword in a later one. -/
theorem classify_wider_laterParagraph :
    let notice : Notice := ⟨"MIT".toList, "A".toList, .any⟩
    let body : Text := "// (C)\n// Copyright B\n// Terms\n//\n// License\n\nx();\n".toList
    2 ≤ 5 ∧
      ((classify .cLike notice 2 body).status = .incorrect →
        (classify .cLike notice 5 body).status = .incorrect) ∧
      (classify .cLike notice 2 body).stale <+: (classify .cLike notice 5 body).stale ∧
      (classify .cLike notice 2 body).stale.utf8Size ≤
        (classify .cLike notice 5 body).stale.utf8Size ∧
      ((classify .cLike notice 2 body).status = .correct ↔
        (classify .cLike notice 5 body).status = .correct) ∧
      (max 1 (commentHeight FileKind.cLike.marks body) ≤ 2 →
        classify .cLike notice 5 body = classify .cLike notice 2 body) :=
  ⟨by decide, classify_wider .cLike _ (by decide) _⟩

end Hygiene.Header
