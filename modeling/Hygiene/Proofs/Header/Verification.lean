import Hygiene.Proofs.Header.Fixed

/-!
# Which notices can be written

A notice that is written is read back only when license and owner fit on a line each and
the year can be read off the text again. The theorem on rendered notices says that this is
enough. It is needed as well: lines that are cut out of a text fit, so a body can only begin
with the notice when the notice has lines that fit; and where any year is welcome, the year
that is read back has four digits or is a span of years, and the year that is written is no
span (`classify_render_append_iff`).

A fixed content is correct under the same condition (`fixed_correct_iff`).
-/

set_option autoImplicit false

namespace Hygiene

namespace Text

/-- A text that stands at the end of one that fits on a line fits on a line. -/
theorem FitsLine.of_append {left right : Text} (fits : FitsLine (left ++ right)) :
    FitsLine right := by
  obtain ⟨noFeed, noReturn⟩ := fits
  refine ⟨fun feed => noFeed (List.mem_append_right left feed), fun last => noReturn ?_⟩
  rw [List.getLast?_append, last]
  rfl

/-- What stands on a line fits on one. -/
theorem fitsLine_lineContent {text line : Text} (member : line ∈ lines text) :
    FitsLine (lineContent line) := by
  refine ⟨noFeed_lineContent member, fun last => ?_⟩
  have stops := List.head?_dropWhile_not (fun c => c = '\n' || c = '\r') line.reverse
  rw [lineContent, dropEndWhile, List.getLast?_reverse] at last
  rw [last] at stops
  simp at stops

end Text

namespace Header

open Text (FitsLine)

/-! ## Years that are read back -/

/-- A number that is written like years that are read has four digits. -/
theorem fourDigits_of_ofNat {number : Nat} (read : IsYears (Text.ofNat number)) :
    1000 ≤ number ∧ number ≤ 9999 := by
  generalize written : Text.ofNat number = years at read
  cases read with
  | year year =>
    rw [← written] at year
    have short : number < 10 ^ 4 :=
      (Nat.length_toDigits_le_iff (by decide) (by decide)).mp (Nat.le_of_eq year.1)
    have long : ¬ number < 10 ^ 3 := fun small => by
      have few : (Text.ofNat number).length ≤ 3 :=
        (Nat.length_toDigits_le_iff (by decide) (by decide)).mpr small
      have four := year.1
      omega
    omega
  | span begins ends =>
    have hyphen : '-' ∈ Text.ofNat number := by
      rw [written]
      exact List.mem_append_right _ List.mem_cons_self
    exact absurd (Nat.isDigit_of_mem_toDigits (by decide) (by decide) hyphen) (by decide)

/-! ## Lines that are read back -/

/-- License and owner stand at the end of two lines of the notice, so they fit when the lines
fit. -/
theorem Notice.fitsLines_of_renderLines {notice : Notice} {layout : Layout} {year : Text}
    (fits : ∀ line ∈ notice.renderLines layout year, FitsLine line) : notice.FitsLines := by
  have owner : FitsLine (layout.margin ++ (copyrightLabel ++ year ++ ' ' :: notice.owner)) := by
    apply fits
    cases layout <;> simp [Notice.renderLines, Layout.margin]
  have license : FitsLine (layout.margin ++ (licenseLabel ++ notice.license)) := by
    apply fits
    cases layout <;> simp [Notice.renderLines, Layout.margin]
  refine ⟨license.of_append.of_append, ?_⟩
  rw [List.append_cons] at owner
  exact owner.of_append.of_append

/-- Lines that match a notice and are no more than its lines are the lines of the notice with
the year that is read off them. -/
theorem Notice.matchesLines_eq {notice : Notice} {layout : Layout} {found : List Text}
    (few : found.length ≤ layout.lineCount) (agree : notice.matchesLines layout found = true) :
    ∃ year : Text, notice.expectedYear? layout found = some year ∧
      found = notice.renderLines layout year := by
  rw [Notice.matchesLines] at agree
  cases expected : notice.expectedYear? layout found with
  | none =>
    rw [expected] at agree
    exact Bool.noConfusion agree
  | some year =>
    rw [expected] at agree
    refine ⟨year, rfl, ((List.isPrefixOf_iff_prefix.mp agree).eq_of_length_le ?_).symm⟩
    rw [notice.length_renderLines]
    exact few

/-- The year of a notice can be read off its lines. -/
theorem Notice.renderLines_injective (notice : Notice) (layout : Layout) {year other : Text}
    (same : notice.renderLines layout year = notice.renderLines layout other) : year = other := by
  have line := congrArg (·[layout.copyrightLine]?) same
  simp only [Notice.renderLines_copyrightLine, Option.some.injEq, List.append_right_inj] at line
  exact List.append_cancel_right line

/-! ## The verdict on a rendered notice -/

/-- **A notice is read back exactly when it fits.** A body that begins with the rendered
notice is judged to be correct just when license and owner fit on a line each and the year
that is written can be read. -/
theorem classify_render_append_iff (kind : FileKind) (notice : Notice)
    (scanLines currentYear : Nat) (rest : Text) :
    (classify kind notice scanLines (notice.render kind.layout currentYear ++ rest)).status =
        .correct ↔
      notice.FitsLines ∧ notice.year.Writes currentYear := by
  constructor
  · intro status
    rw [classify] at status
    split at status
    · rename_i agree
      obtain ⟨year, expected, opening⟩ := Notice.matchesLines_eq
        (by rw [List.length_map]; exact List.length_take_le _ _) agree
      have each : ∀ line ∈ notice.renderLines kind.layout year, FitsLine line := by
        intro line member
        rw [← opening] at member
        obtain ⟨whole, taken, rfl⟩ := List.mem_map.mp member
        exact Text.fitsLine_lineContent (List.mem_of_mem_take taken)
      have fits : notice.FitsLines := Notice.fitsLines_of_renderLines each
      refine ⟨fits, fun any => ?_⟩
      -- With lines that fit, the lines that are read are the ones that were written.
      have written := opening_render_append fits kind.fitsLine_texts currentYear rest
      rw [opening] at written
      have same := notice.renderLines_injective kind.layout written
      rw [Notice.expectedYear?, any] at expected
      obtain ⟨line, -, read⟩ := Option.bind_eq_some_iff.mp expected
      have years := yearsIn_eq_some read
      rw [same, Notice.writtenYear, any] at years
      exact fourDigits_of_ofNat years
    · exact absurd status (judge_status_ne_correct _ _ _)
  · rintro ⟨fits, writes⟩
    rw [classify_render_append kind fits writes]
    rfl

/-- A fixed content is correct exactly when the notice can be read back. -/
theorem fixed_correct_iff {kind : FileKind} {notice : Notice} {scanLines currentYear : Nat}
    {content fixed : Text}
    (made : fix? kind notice scanLines currentYear content = some fixed) :
    (classify kind notice scanLines (Shebang.split fixed).2).status = .correct ↔
      notice.FitsLines ∧ notice.year.Writes currentYear := by
  have status : (classify kind notice scanLines (Shebang.split content).2).status ≠ .correct := by
    intro correct
    rw [(fix_eq_none_iff kind notice scanLines currentYear content).mpr correct] at made
    cases made
  rw [fix_of_status_ne currentYear status, Option.some.injEq] at made
  rw [← made, split_assemble]
  exact classify_render_append_iff kind notice scanLines currentYear _

end Header

end Hygiene
