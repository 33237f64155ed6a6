import Hygiene.Proofs.Header.Rendered

/-!
# A fix leads to a correct header

A fix puts the notice below the shebang line and keeps the line, so the fixed content is
split where the old one was, and its body begins with the notice (`split_assemble`). With
the theorem on rendered notices the fixed content is correct, and there is nothing left to
fix (`settle_correct`).
-/

set_option autoImplicit false

namespace Hygiene.Header

/-! ## When a fix is made -/

/-- Only a body that begins with the notice is found to be correct. -/
theorem judge_status_ne_correct (marks : CommentMarks) (scanLines : Nat) (body : Text) :
    (judge marks scanLines body).status ≠ .correct := by
  rw [judge]
  cases Text.lines body with
  | nil => exact fun same => Status.noConfusion same
  | cons first others =>
    simp only
    cases region marks body first with
    | block comment after =>
      simp only [judgeBlock]
      split
      · cases Text.lines after with
        | nil => exact fun same => Status.noConfusion same
        | cons line later =>
          simp only
          split <;> exact fun same => Status.noConfusion same
      · exact fun same => Status.noConfusion same
    | comments marker =>
      simp only [judgeComments]
      split <;> exact fun same => Status.noConfusion same
    | none =>
      simp only [judgeFirstLine]
      split
      · exact fun same => Status.noConfusion same
      · split <;> exact fun same => Status.noConfusion same

/-- A correct body has nothing stale in it. -/
theorem classify_eq_correct {kind : FileKind} {notice : Notice} {scanLines : Nat} {body : Text}
    (status : (classify kind notice scanLines body).status = .correct) :
    classify kind notice scanLines body = .correct := by
  rw [classify] at status ⊢
  split
  · rfl
  · rename_i differs
    rw [if_neg differs] at status
    exact absurd status (judge_status_ne_correct _ _ _)

/-- No notice stands in an empty body. -/
theorem classify_nil (kind : FileKind) (notice : Notice) (scanLines : Nat) :
    classify kind notice scanLines [] = .absent := by
  have differs : notice.matchesLines kind.layout [] = false := by
    rw [Notice.matchesLines]
    cases notice.expectedYear? kind.layout [] with
    | none => rfl
    | some year => cases kind <;> rfl
  rw [classify, Text.lines_nil, List.take_nil, List.map_nil, differs]
  rfl

theorem fix_eq_none_iff (kind : FileKind) (notice : Notice) (scanLines currentYear : Nat)
    (content : Text) :
    fix? kind notice scanLines currentYear content = none ↔
      (classify kind notice scanLines (Shebang.split content).2).status = .correct := by
  simp [fix?]

/-- A body that is not correct is replaced by the notice and what is left of it. -/
theorem fix_of_status_ne {kind : FileKind} {notice : Notice} {scanLines : Nat} {content : Text}
    (currentYear : Nat)
    (status : (classify kind notice scanLines (Shebang.split content).2).status ≠ .correct) :
    fix? kind notice scanLines currentYear content =
      some (assemble (Shebang.split content).1 (notice.render kind.layout currentYear)
        (remainder (classify kind notice scanLines (Shebang.split content).2)
          (Shebang.split content).2)) := by
  simp [fix?, status]

/-! ## Where a fixed content is split -/

/-- A rendered notice does not begin with a shebang line. -/
theorem opens_render_append (kind : FileKind) (notice : Notice) (currentYear : Nat)
    (rest : Text) : Shebang.opens (notice.render kind.layout currentYear ++ rest) = false := by
  cases kind <;> rfl

/-- What stands below the notice: nothing, or an empty line and the rest. -/
def belowNotice (rest : Text) : Text :=
  if rest.isEmpty then [] else '\n' :: rest

/-- A fixed content is split below the shebang line of the old one, which ends in a line feed
now, and its body begins with the notice. -/
theorem split_assemble (kind : FileKind) (notice : Notice) (currentYear : Nat)
    (content rest : Text) :
    Shebang.split (assemble (Shebang.split content).1 (notice.render kind.layout currentYear)
        rest) =
      ((Shebang.split content).1.map terminated,
        notice.render kind.layout currentYear ++ belowNotice rest) := by
  rw [assemble, List.append_assoc]
  exact Shebang.split_terminated_append content (opens_render_append kind notice currentYear _)

/-- The shebang line above a correct body ends in a line feed already. -/
theorem split_fst_of_correct {kind : FileKind} {notice : Notice} {scanLines : Nat}
    {content : Text}
    (status : (classify kind notice scanLines (Shebang.split content).2).status = .correct) :
    (Shebang.split content).1.map terminated = (Shebang.split content).1 := by
  cases script : Shebang.opens content with
  | false =>
    rw [Shebang.split_of_not_opens script]
    rfl
  | true =>
    obtain ⟨line, noFeed, same, rfl | ⟨rest, rfl⟩⟩ := Shebang.split_of_opens script
    · rw [Shebang.split_lastLine noFeed same, classify_nil] at status
      exact Status.noConfusion status
    · rw [Shebang.split_line_append rest noFeed same]
      exact congrArg some (Shebang.terminated_append_lineFeed line)

/-! ## The fixed content -/

/-- The content with a correct header: the fixed one, or the content itself when there is
nothing to fix. -/
def settle (kind : FileKind) (notice : Notice) (scanLines currentYear : Nat) (content : Text) :
    Text :=
  (fix? kind notice scanLines currentYear content).getD content

/-- **A fix works, and a second one has nothing to do.** After a fix the shebang line is the
one from before, with a line feed at its end, the body is correct with nothing stale in it,
and there is no further fix. -/
theorem settle_correct (kind : FileKind) {notice : Notice} (fits : notice.FitsLines)
    {currentYear : Nat} (writes : notice.year.Writes currentYear) (scanLines : Nat)
    (content : Text) :
    (Shebang.split (settle kind notice scanLines currentYear content)).1 =
        (Shebang.split content).1.map terminated ∧
      classify kind notice scanLines
          (Shebang.split (settle kind notice scanLines currentYear content)).2 = .correct ∧
      fix? kind notice scanLines currentYear
          (settle kind notice scanLines currentYear content) = none := by
  by_cases status : (classify kind notice scanLines (Shebang.split content).2).status = .correct
  · have nothing := (fix_eq_none_iff kind notice scanLines currentYear content).mpr status
    rw [settle, nothing, Option.getD_none]
    exact ⟨(split_fst_of_correct status).symm, classify_eq_correct status, nothing⟩
  · rw [settle, fix_of_status_ne currentYear status, Option.getD_some, fix_eq_none_iff,
      split_assemble]
    have correct := classify_render_append kind fits writes scanLines
      (belowNotice (remainder (classify kind notice scanLines (Shebang.split content).2)
        (Shebang.split content).2))
    exact ⟨rfl, correct, congrArg Verdict.status correct⟩

/-- The theorem at a script whose shebang line is all it has, where any year is welcome and
the owner has a carriage return inside. -/
theorem settle_correct_bareShebang :
    let notice : Notice := ⟨['M', 'I', 'T'], ['A', '\r', 'B'], .any⟩
    let content : Text := ['#', '!', 's', 'h']
    (notice.FitsLines ∧ notice.year.Writes 2026) ∧
      (Shebang.split (settle .shell notice 0 2026 content)).1 = some ['#', '!', 's', 'h', '\n'] ∧
      classify .shell notice 0 (Shebang.split (settle .shell notice 0 2026 content)).2 =
        .correct ∧
      fix? .shell notice 0 2026 (settle .shell notice 0 2026 content) = none := by
  have fits : Notice.FitsLines ⟨['M', 'I', 'T'], ['A', '\r', 'B'], .any⟩ :=
    ⟨by decide, by decide⟩
  have writes : YearPolicy.any.Writes 2026 := by decide
  exact ⟨⟨fits, writes⟩, settle_correct .shell fits writes 0 ['#', '!', 's', 'h']⟩

end Hygiene.Header
