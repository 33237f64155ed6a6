import Hygiene.Proofs.Header.Shebang
import Hygiene.Proofs.Header.Years

/-!
# The rendered notice is recognised

A notice is written by one function and looked for by another, which cuts the text into
lines, reads the year off the line that states the copyright, and renders the notice once
more. The two agree: a body that begins with the rendered notice is correct, whatever
follows the notice (`classify_render_append`).

Two things are needed. License and owner have to fit on a line each. And where any year is
welcome, the year that is written must be one that can be read back, which is the case for
the years of four digits.
-/

set_option autoImplicit false

namespace Hygiene

open Text (FitsLine)

/-! ## Layouts -/

/-- The texts that a layout puts around what a notice says. -/
def Layout.texts : Layout → List Text
  | .line marker => [marker, marker.trimEnd]
  | .block opener margin closer => [opener, margin, margin.trimEnd, closer]

/-- The text in front of the lines of a notice. -/
def Layout.margin : Layout → Text
  | .line marker => marker
  | .block _ margin _ => margin

theorem FileKind.fitsLine_texts (kind : FileKind) : ∀ text ∈ kind.layout.texts, FitsLine text := by
  cases kind <;> decide

/-- No margin has a letter with which the label of the copyright could begin. -/
theorem FileKind.margin_plain (kind : FileKind) : 'C' ∉ kind.layout.margin := by
  cases kind <;> decide

namespace Header

/-! ## Years -/

/-- The year that a policy lets be written can be read back: it is fixed, or it has four
digits. -/
def YearPolicy.Writes (policy : YearPolicy) (currentYear : Nat) : Prop :=
  policy = .any → 1000 ≤ currentYear ∧ currentYear ≤ 9999

instance (policy : YearPolicy) (currentYear : Nat) : Decidable (policy.Writes currentYear) :=
  inferInstanceAs (Decidable (_ → _))

theorem fitsLine_ofNat (number : Nat) : FitsLine (Text.ofNat number) := by
  have digits : ∀ c ∈ Text.ofNat number, c.isDigit = true := fun c member =>
    Nat.isDigit_of_mem_toDigits (by decide) (by decide) member
  constructor
  · intro feed
    exact absurd (digits '\n' feed) (by decide)
  · intro last
    exact absurd (digits '\r' (List.mem_of_getLast? last)) (by decide)

theorem fitsLine_ofInt (number : Int) : FitsLine (Text.ofInt number) := by
  cases number with
  | ofNat number => exact fitsLine_ofNat number
  | negSucc number => exact (fitsLine_ofNat (number + 1)).cons (by decide) (by decide)

/-- A number between 1000 and 9999 is written with four digits. -/
theorem isYear_ofNat {year : Nat} (low : 1000 ≤ year) (high : year ≤ 9999) :
    IsYear (Text.ofNat year) := by
  have atMost : (Text.ofNat year).length ≤ 4 :=
    (Nat.length_toDigits_le_iff (by decide) (by decide)).mpr (by omega)
  have atLeast : ¬ (Text.ofNat year).length ≤ 3 := fun short => by
    have small := (Nat.length_toDigits_le_iff (by decide) (by decide)).mp short
    omega
  exact ⟨by omega, List.all_eq_true.mpr (plain_ofNat year)⟩

theorem copyrightLabel_eq :
    copyrightLabel = 'C' :: ['o', 'p', 'y', 'r', 'i', 'g', 'h', 't', ' ', '©', ' '] := by
  decide

/-- The label is found behind any margin in which its first letter does not stand. -/
theorem yearsIn_margin_append {margin : Text} (margined : 'C' ∉ margin) {years after : Text}
    (leading : leadingYears? after = some years) :
    yearsIn? (margin ++ (copyrightLabel ++ after)) = some years := by
  obtain ⟨letters, label⟩ : ∃ letters, copyrightLabel = 'C' :: letters := ⟨_, copyrightLabel_eq⟩
  induction margin with
  | nil =>
    have stands : Text.dropBeginning? (copyrightLabel ++ after) copyrightLabel = some after := by
      rw [Text.dropBeginning?, if_pos (List.isPrefixOf_iff_prefix.mpr (List.prefix_append _ _)),
        List.drop_left]
    rw [List.nil_append]
    rw [label] at stands ⊢
    rw [List.cons_append] at stands ⊢
    rw [yearsIn?, label, stands, Option.bind_some, leading, Option.some_or]
  | cons c margin ih =>
    obtain ⟨here, later⟩ := List.ne_and_not_mem_of_not_mem_cons margined
    have differs : ∀ rest, Text.dropBeginning? (c :: rest) copyrightLabel = none := by
      intro rest
      rw [label, Text.dropBeginning?, if_neg]
      simp [here]
    rw [List.cons_append, yearsIn?, differs, Option.bind_none, Option.none_or]
    exact ih later

/-! ## Lines -/

/-- The license and the owner fit on a line each. -/
structure Notice.FitsLines (notice : Notice) : Prop where
  license : FitsLine notice.license
  owner : FitsLine notice.owner

/-- The notice behind its margins has lines that fit. -/
theorem Notice.FitsLines.renderLines {notice : Notice} (fits : notice.FitsLines)
    {layout : Layout} (marks : ∀ text ∈ layout.texts, FitsLine text) {year : Text}
    (dated : FitsLine year) : ∀ line ∈ notice.renderLines layout year, FitsLine line := by
  have label : FitsLine copyrightLabel ∧ FitsLine licenseLabel := by decide
  have copyright : FitsLine (copyrightLabel ++ year ++ ' ' :: notice.owner) :=
    (label.1.append dated).append (fits.owner.cons (by decide) (by decide))
  have license : FitsLine (licenseLabel ++ notice.license) := label.2.append fits.license
  cases layout with
  | line marker =>
    simp only [Layout.texts, List.forall_mem_cons] at marks
    obtain ⟨marker, bare, -⟩ := marks
    simp only [Notice.renderLines, List.forall_mem_cons]
    exact ⟨marker.append copyright, bare, marker.append license, by simp⟩
  | block opener margin closer =>
    simp only [Layout.texts, List.forall_mem_cons] at marks
    obtain ⟨opener, margin, bare, closer, -⟩ := marks
    simp only [Notice.renderLines, List.forall_mem_cons]
    exact ⟨opener, margin.append copyright, bare, margin.append license, closer, by simp⟩

/-- What a fix writes consists of the lines of the notice, each with its line feed. -/
theorem Notice.render_eq (notice : Notice) (layout : Layout) (currentYear : Nat) :
    notice.render layout currentYear =
      ((notice.renderLines layout (notice.writtenYear currentYear)).map (· ++ ['\n'])).flatten := by
  apply Text.join_lineFeed_append
  intro none
  have count := notice.length_renderLines layout (notice.writtenYear currentYear)
  rw [none] at count
  cases layout <;> exact absurd count.symm (Nat.succ_ne_zero _)

theorem fitsLine_writtenYear (notice : Notice) (currentYear : Nat) :
    FitsLine (notice.writtenYear currentYear) := by
  rw [Notice.writtenYear]
  cases notice.year with
  | any => exact fitsLine_ofNat currentYear
  | fixed year => exact fitsLine_ofInt year

/-- The line that states the copyright, behind its margin. -/
theorem Notice.renderLines_copyrightLine (notice : Notice) (layout : Layout) (year : Text) :
    (notice.renderLines layout year)[layout.copyrightLine]? =
      some (layout.margin ++ (copyrightLabel ++ (year ++ ' ' :: notice.owner))) := by
  cases layout <;>
    simp [Notice.renderLines, Layout.copyrightLine, Layout.margin, List.append_assoc]

/-- The year that a fix writes is one that the policy accepts, when it can be read back. -/
theorem Notice.accepts_writtenYear (notice : Notice) {currentYear : Nat}
    (writes : notice.year.Writes currentYear) :
    notice.year.Accepts (notice.writtenYear currentYear) := by
  rw [Notice.writtenYear]
  cases policy : notice.year with
  | any =>
    obtain ⟨low, high⟩ := writes policy
    exact .year (isYear_ofNat low high)
  | fixed year => rfl

/-- Years that the policy accepts are the ones that are read off the lines of a notice. -/
theorem Notice.expectedYear_renderLines (notice : Notice) {layout : Layout}
    (margined : 'C' ∉ layout.margin) {years : Text} (accepted : notice.year.Accepts years) :
    notice.expectedYear? layout (notice.renderLines layout years) = some years := by
  rw [Notice.expectedYear?]
  cases policy : notice.year with
  | any =>
    rw [policy] at accepted
    dsimp only
    rw [Notice.renderLines_copyrightLine, Option.bind_some]
    exact yearsIn_margin_append margined (leadingYears_append accepted notice.owner)
  | fixed year =>
    rw [policy] at accepted
    exact congrArg some accepted.symm

theorem Notice.matchesLines_renderLines (notice : Notice) {layout : Layout}
    (margined : 'C' ∉ layout.margin) {years : Text} (accepted : notice.year.Accepts years) :
    notice.matchesLines layout (notice.renderLines layout years) = true := by
  rw [Notice.matchesLines, notice.expectedYear_renderLines margined accepted]
  exact List.isPrefixOf_iff_prefix.mpr (List.prefix_refl _)

/-! ## The verdict on a rendered notice -/

/-- The first lines of a body that begins with a rendered notice are those of the notice. -/
theorem opening_render_append {notice : Notice} (fits : notice.FitsLines) {layout : Layout}
    (marks : ∀ text ∈ layout.texts, FitsLine text) (currentYear : Nat) (rest : Text) :
    ((Text.lines (notice.render layout currentYear ++ rest)).take layout.lineCount).map
        Text.lineContent =
      notice.renderLines layout (notice.writtenYear currentYear) := by
  have each := fits.renderLines marks (fitsLine_writtenYear notice currentYear)
  have count := notice.length_renderLines layout (notice.writtenYear currentYear)
  rw [notice.render_eq, Text.lines_terminated_append (fun line member => (each line member).1),
    ← count, List.take_left' (List.length_map ..), List.map_map]
  conv_rhs => rw [← List.map_id (notice.renderLines layout (notice.writtenYear currentYear))]
  exact List.map_congr_left fun line member => Text.lineContent_terminated (each line member)

/-- **What a fix writes is correct.** A body that begins with the rendered notice is judged
to be correct, and nothing of it is stale. -/
theorem classify_render_append (kind : FileKind) {notice : Notice} (fits : notice.FitsLines)
    {currentYear : Nat} (writes : notice.year.Writes currentYear) (scanLines : Nat)
    (rest : Text) :
    classify kind notice scanLines (notice.render kind.layout currentYear ++ rest) =
      .correct := by
  rw [classify, opening_render_append fits kind.fitsLine_texts currentYear rest,
    notice.matchesLines_renderLines kind.margin_plain (notice.accepts_writtenYear writes),
    if_pos rfl]

end Header

end Hygiene
