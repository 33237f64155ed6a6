import Hygiene.Proofs.Header.Verification

/-!
# What is accepted as the notice

A header is found to be correct exactly when the lines at the top of the body are the lines of
the notice, with years that the notice accepts (`classify_correct_iff`). So a correct header is
exact, and every exact header is correct: where any year is welcome, the years that are read off
the line that states the copyright are those with which the line was written, whatever the
owner is called. The label of the copyright may stand in the owner's name once more, followed by
a year even, but the search meets the one in front first, because no margin has a letter with
which the label could begin.
-/

set_option autoImplicit false

namespace Hygiene.Header

/-- The years with which lines are expected to be written are years that the policy accepts. -/
theorem Notice.accepts_of_expectedYear {notice : Notice} {layout : Layout} {found : List Text}
    {years : Text} (expected : notice.expectedYear? layout found = some years) :
    notice.year.Accepts years := by
  rw [Notice.expectedYear?] at expected
  cases policy : notice.year with
  | any =>
    rw [policy] at expected
    obtain ⟨line, -, read⟩ := Option.bind_eq_some_iff.mp expected
    exact yearsIn_eq_some read
  | fixed year =>
    rw [policy] at expected
    exact (Option.some.inj expected).symm

/-- Lines that are no more than those of a notice match it when they are its lines with years
that are accepted. -/
theorem Notice.matchesLines_iff {notice : Notice} {layout : Layout}
    (margined : 'C' ∉ layout.margin) {found : List Text}
    (few : found.length ≤ layout.lineCount) :
    notice.matchesLines layout found = true ↔
      ∃ years, notice.year.Accepts years ∧ found = notice.renderLines layout years := by
  constructor
  · intro agree
    obtain ⟨years, expected, same⟩ := Notice.matchesLines_eq few agree
    exact ⟨years, Notice.accepts_of_expectedYear expected, same⟩
  · rintro ⟨years, accepted, rfl⟩
    exact notice.matchesLines_renderLines margined accepted

/-- What stands on the lines at the top of a body, as many as a notice has. -/
def opening (layout : Layout) (body : Text) : List Text :=
  ((Text.lines body).take layout.lineCount).map Text.lineContent

theorem length_opening (layout : Layout) (body : Text) :
    (opening layout body).length = min layout.lineCount (Text.lines body).length := by
  rw [opening, List.length_map, List.length_take]

theorem length_opening_le (layout : Layout) (body : Text) :
    (opening layout body).length ≤ layout.lineCount := by
  rw [length_opening]
  exact Nat.min_le_left _ _

/-- Whether a header is correct is decided on the lines at the top. -/
theorem status_correct_iff_matchesLines (kind : FileKind) (notice : Notice) (scanLines : Nat)
    (body : Text) :
    (classify kind notice scanLines body).status = .correct ↔
      notice.matchesLines kind.layout (opening kind.layout body) = true := by
  rw [classify]
  split
  · rename_i agree
    exact iff_of_true rfl agree
  · rename_i differs
    exact iff_of_false (judge_status_ne_correct _ _ _) differs

/-- **A header is correct exactly when it is the notice.** The body has as many lines as the
notice at least, and what stands on the first ones is the notice with years that it accepts:
the year that is fixed, or any year or span of years. License and owner can be any texts. -/
theorem classify_correct_iff (kind : FileKind) (notice : Notice) (scanLines : Nat) (body : Text) :
    (classify kind notice scanLines body).status = .correct ↔
      kind.layout.lineCount ≤ (Text.lines body).length ∧
        ∃ years, notice.year.Accepts years ∧
          ((Text.lines body).take kind.layout.lineCount).map Text.lineContent =
            notice.renderLines kind.layout years := by
  rw [status_correct_iff_matchesLines,
    Notice.matchesLines_iff kind.margin_plain (length_opening_le _ _)]
  refine ⟨fun ⟨years, accepted, same⟩ => ⟨?_, years, accepted, same⟩, fun exact => exact.2⟩
  have count := congrArg List.length same
  rw [length_opening, notice.length_renderLines] at count
  omega

/-- The owner may be called like the beginning of a notice. -/
example :
    (classify .python ⟨"MIT".toList, "Copyright © 1234 A".toList, .any⟩ 10
      ("# Copyright © 2019-2023 Copyright © 1234 A\r\n#\n".toList ++
        "# SPDX-License-Identifier: MIT\nx = 1\n".toList)).status = .correct := by
  decide +kernel

end Hygiene.Header
