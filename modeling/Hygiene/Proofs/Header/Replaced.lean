import Hygiene.Proofs.Header.Removal

/-!
# A fix replaces the notice of an earlier one

What a fix writes is a region that the verdict recognises as a whole, whatever stands below:
a block comment that ends with the closer, or a run of three comment lines. With a window of
three lines or more the region mentions a keyword, so it is stale for every other notice, and
with it the empty line below it (`judge_render_append`). What remains of a fixed body under
another notice is therefore what remained of the old body (`remainder_render_append`), and
fixing a fixed content for another notice gives what fixing the old content for it gives
(`refix_eq`).

For a layout in a block the notice must not end the comment it stands in. The verdict looks for
the mark that ends a comment, which is the closer without its indentation: a license that holds
this mark is cut there, although it does not hold the closer (`closedLicense_stacked`).
-/

set_option autoImplicit false

namespace Hygiene

open Text (FitsLine EndsFirst isBlank)

/-! ## Notices that stay in their comment -/

/-- The mark that ends the comment in which a layout puts a notice: the closer without its
indentation. -/
def Layout.closingMark? : Layout → Option Text
  | .line _ => none
  | .block _ _ closer => some closer.trimStart

namespace Header

/-- A text that can be written in the comment of a layout: it has no line feed, and it does not
hold the mark that ends the comment. -/
structure StaysInside (layout : Layout) (text : Text) : Prop where
  noFeed : '\n' ∉ text
  unclosed : ∀ mark ∈ layout.closingMark?, ¬ mark <:+: text

/-- License and owner stay in the comment. -/
structure Notice.StaysInside (notice : Notice) (layout : Layout) : Prop where
  license : Header.StaysInside layout notice.license
  owner : Header.StaysInside layout notice.owner

/-! ## The beginning of a line -/

/-- A text that is neither indented nor cut off at the end of a line. -/
structure Solid (text : Text) : Prop where
  begins : ∀ c ∈ text.head?, isBlankChar c = false
  ends : ∀ c ∈ text.getLast?, c ≠ '\n' ∧ c ≠ '\r'

theorem solid_iff (text : Text) :
    (text.head?.all (fun c => !isBlankChar c) &&
      text.getLast?.all fun c => c != '\n' && c != '\r') = true ↔ Solid text := by
  rw [Bool.and_eq_true, Option.all_eq_true, Option.all_eq_true]
  constructor
  · rintro ⟨begins, ends⟩
    exact ⟨fun c first => by simpa using begins c first, fun c last => by simpa using ends c last⟩
  · rintro ⟨begins, ends⟩
    exact ⟨fun c first => by simpa using begins c first, fun c last => by simpa using ends c last⟩

instance (text : Text) : Decidable (Solid text) :=
  decidable_of_iff _ (solid_iff text)

/-- A line that begins with a solid text is seen to begin with it. -/
theorem Solid.isPrefix_indented {text : Text} (solid : Solid text) (rest : Text) :
    text <+: indented (text ++ rest) := by
  have stays : ∀ c ∈ text.getLast?, (fun c => c = '\n' || c = '\r' : Char → Bool) c = false := by
    intro c last
    simpa using solid.ends c last
  rw [indented, Text.lineContent, Text.dropEndWhile_append stays, Text.trimStart]
  cases text with
  | nil => exact List.nil_prefix
  | cons c text =>
    rw [List.cons_append, List.dropWhile_cons_of_neg (by simp [solid.begins c rfl])]
    exact List.prefix_append (c :: text) _

theorem Solid.trimStart_eq {text : Text} (solid : Solid text) : text.trimStart = text := by
  cases text with
  | nil => rfl
  | cons c letters => exact List.dropWhile_cons_of_neg (by simp [solid.begins c rfl])

/-! ## A notice in line comments -/

/-- How the marker of a layout goes with the marks of a kind: it begins with the mark of line
comments, which cannot be taken for the opener of a block. -/
structure LineFrame (marks : CommentMarks) (marker mark : Text) : Prop where
  line : marks.line = some mark
  nonempty : mark ≠ []
  solid : Solid mark
  begins : mark <+: marker
  trimmed : mark <+: marker.trimEnd
  apart : ∀ pair ∈ marks.blocks, ¬ pair.1 <+: mark ∧ ¬ mark <+: pair.1

theorem lineFrame_of_layout {kind : FileKind} {marker : Text}
    (layout : kind.layout = .line marker) : ∃ mark, LineFrame kind.marks marker mark := by
  cases kind <;> cases layout
  case cLike => exact ⟨['/', '/'], by constructor <;> decide⟩
  all_goals exact ⟨['#'], by constructor <;> decide⟩

variable {marks : CommentMarks} {marker mark : Text}

/-- A line behind the mark is a comment. -/
theorem LineFrame.isComment_append (frame : LineFrame marks marker mark) {line : Text}
    (begins : mark <+: line) : isComment mark line = true := by
  obtain ⟨rest, rfl⟩ := begins
  exact List.isPrefixOf_iff_prefix.mpr (frame.solid.isPrefix_indented rest)

/-- A body whose first line is a comment opens with line comments, when no opener of a block can
be taken for the mark of a comment. -/
theorem region_of_isComment (line : marks.line = some mark)
    (apart : ∀ pair ∈ marks.blocks, ¬ pair.1 <+: mark ∧ ¬ mark <+: pair.1) (body : Text)
    {first : Text} (comment : isComment mark first = true) :
    region marks body first = .comments mark := by
  have noBlock : (marks.blocks.find? fun pair => pair.1.isPrefixOf (indented first)) = none := by
    rw [List.find?_eq_none]
    intro pair member opened
    have opener := List.isPrefixOf_iff_prefix.mp opened
    rcases List.prefix_or_prefix_of_prefix opener (List.isPrefixOf_iff_prefix.mp comment) with
      within | beyond
    · exact (apart pair member).1 within
    · exact (apart pair member).2 beyond
  rw [region, noBlock, line]
  exact if_pos comment

/-- A body whose first line is behind the mark opens with line comments. -/
theorem LineFrame.region_eq (frame : LineFrame marks marker mark) (body : Text) {first : Text}
    (begins : mark <+: first) : region marks body first = .comments mark :=
  region_of_isComment frame.line frame.apart body (frame.isComment_append begins)

/-- Lines through one with a keyword are kept through it. -/
theorem throughLastKeyword_concat {lines : List Text} {last : Text}
    (keyword : mentionsKeyword last = true) :
    throughLastKeyword (lines ++ [last]) = lines ++ [last] := by
  rw [throughLastKeyword, List.reverse_append, List.reverse_singleton, List.singleton_append,
    List.dropWhile_cons_of_neg (by simp [keyword]), List.reverse_cons, List.reverse_reverse]

/-- A run of comments in the window that ends with a keyword is stale, with the blank lines
behind it. -/
theorem judgeComments_append {scanLines : Nat} {mark : Text} {run below : List Text} {last : Text}
    (comments : ∀ line ∈ run ++ [last], isComment mark line = true)
    (stops : ∀ line ∈ below.head?, isComment mark line = false)
    (window : (run ++ [last]).length ≤ scanLines) (keyword : mentionsKeyword last = true) :
    judgeComments scanLines mark (run ++ [last] ++ below) =
      .incorrect ((run ++ [last]) ++ below.takeWhile isBlank).flatten := by
  have whole : (run ++ [last] ++ below).takeWhile (isComment mark) = run ++ [last] :=
    Text.takeWhile_append_eq_left comments stops
  have removed : staleComments mark (run ++ [last]) (run ++ [last]) = run ++ [last] := by
    rw [staleComments, List.drop_length]
    simp
  rw [judgeComments, whole, List.take_of_length_le window, throughLastKeyword_concat keyword]
  split
  · rename_i none
    exact absurd none (by simp)
  · rename_i line others found
    rw [← found, removed]
    dsimp only
    rw [List.drop_left]

/-! ## A notice in a block comment -/

/-- How the texts of a layout go with the marks of a kind: the opener begins with the mark that
opens a block comment, the closer ends with the one that closes it, and the closing mark stands
nowhere between. -/
structure BlockFrame (marks : CommentMarks) (opener margin closer start mark : Text) : Prop where
  pair : marks.blocks = [(start, mark)]
  nonempty : mark ≠ []
  solid : Solid opener
  oneLine : FitsLine opener
  opens : start <+: opener
  closes : mark <:+ closer
  noFeed : '\n' ∉ mark
  noReturn : '\r' ∉ mark
  noSpace : ' ' ∉ mark
  noYear : (mark.any fun c => !isDecimalDigit c && c != '-') = true
  apart : ∀ text ∈ [opener.drop start.length, margin ++ "Copyright ©".toList, margin.trimEnd,
    margin ++ "SPDX-License-Identifier:".toList, closer.dropLast], ¬ mark <:+: text

theorem blockFrame_of_layout {kind : FileKind} {opener margin closer : Text}
    (layout : kind.layout = .block opener margin closer) :
    ∃ start, BlockFrame kind.marks opener margin closer start closer.trimStart := by
  cases kind <;> cases layout
  case markdown => exact ⟨['<', '!', '-', '-'], by constructor <;> decide +kernel⟩
  all_goals exact ⟨['/', '*'], by constructor <;> decide +kernel⟩

variable {opener margin closer start : Text}

/-- The year that a fix writes consists of digits, with a hyphen perhaps. -/
theorem plain_writtenYear (notice : Notice) (currentYear : Nat) :
    ∀ c ∈ notice.writtenYear currentYear, isDecimalDigit c = true ∨ c = '-' := by
  rw [Notice.writtenYear]
  cases notice.year with
  | any => exact fun c member => .inl (plain_ofNat currentYear c member)
  | fixed year => exact plain_ofInt year

/-- The closing mark does not stand in years. -/
theorem BlockFrame.absent_years (frame : BlockFrame marks opener margin closer start mark)
    {years : Text} (plain : ∀ c ∈ years, isDecimalDigit c = true ∨ c = '-') :
    ¬ mark <:+: years := by
  intro inside
  obtain ⟨c, member, other⟩ := List.any_eq_true.mp frame.noYear
  obtain ⟨noDigit, noHyphen⟩ : isDecimalDigit c = false ∧ c ≠ '-' := by simpa using other
  rcases plain c (inside.subset member) with digit | hyphen
  · rw [noDigit] at digit
    cases digit
  · exact noHyphen hyphen

/-- The closing mark does not stand in two texts with a space between them when it stands in
neither. -/
theorem BlockFrame.absent_append (frame : BlockFrame marks opener margin closer start mark)
    {before after : Text} (first : ¬ mark <:+: before) (second : ¬ mark <:+: after) :
    ¬ mark <:+: before ++ ' ' :: after := fun inside =>
  (Text.isInfix_of_append_cons frame.nonempty frame.noSpace inside).elim first second

/-- The closing mark does not stand on the line that states the copyright. -/
theorem BlockFrame.absent_copyright (frame : BlockFrame marks opener margin closer start mark)
    {years owner : Text} (plain : ∀ c ∈ years, isDecimalDigit c = true ∨ c = '-')
    (inside : ¬ mark <:+: owner) :
    ¬ mark <:+: margin ++ (copyrightLabel ++ years ++ ' ' :: owner) := by
  have label : ¬ mark <:+: margin ++ "Copyright ©".toList := frame.apart _ (by simp)
  have copyright : margin ++ (copyrightLabel ++ years ++ ' ' :: owner) =
      margin ++ "Copyright ©".toList ++ ' ' :: (years ++ ' ' :: owner) := by
    rw [copyrightLabel_eq]
    simp
  rw [copyright]
  exact frame.absent_append label (frame.absent_append (frame.absent_years plain) inside)

/-- The closing mark does not stand on the lines of a notice that stays in its comment, nor in
the closer before its end. -/
theorem BlockFrame.absent (frame : BlockFrame marks opener margin closer start mark)
    {notice : Notice} (license : ¬ mark <:+: notice.license) (owner : ¬ mark <:+: notice.owner)
    (currentYear : Nat) :
    ∀ text ∈ [opener.drop start.length,
      margin ++ (copyrightLabel ++ notice.writtenYear currentYear ++ ' ' :: notice.owner),
      margin.trimEnd, margin ++ (licenseLabel ++ notice.license), closer.dropLast],
      ¬ mark <:+: text := by
  obtain ⟨more, -, bare, license_label, ending, -⟩ :
      ¬ mark <:+: opener.drop start.length ∧ ¬ mark <:+: margin ++ "Copyright ©".toList ∧
        ¬ mark <:+: margin.trimEnd ∧ ¬ mark <:+: margin ++ "SPDX-License-Identifier:".toList ∧
        ¬ mark <:+: closer.dropLast ∧ True := by
    simpa only [List.forall_mem_cons, List.not_mem_nil, false_imp_iff, implies_true] using
      frame.apart
  have labelled : margin ++ (licenseLabel ++ notice.license) =
      margin ++ "SPDX-License-Identifier:".toList ++ ' ' :: notice.license := by
    have label : licenseLabel = "SPDX-License-Identifier:".toList ++ [' '] := by decide
    rw [label]
    simp
  simp only [List.forall_mem_cons, List.not_mem_nil, false_imp_iff, implies_true, and_true]
  refine ⟨more, ?_, bare, ?_, ending⟩
  · exact frame.absent_copyright (plain_writtenYear notice currentYear) owner
  · rw [labelled]
    exact frame.absent_append license_label license

/-- A block comment that the first line opens is found through its closer. -/
theorem BlockFrame.region_eq (frame : BlockFrame marks opener margin closer start mark)
    {texts : List Text}
    (absent : ∀ text ∈ opener.drop start.length :: texts ++ [closer.dropLast], ¬ mark <:+: text)
    (below : Text) :
    region marks (Text.join ['\n'] (opener :: texts ++ [closer]) ++ '\n' :: below)
        (opener ++ ['\n']) =
      .block (Text.join ['\n'] (opener :: texts ++ [closer])) ('\n' :: below) := by
  obtain ⟨more, opening⟩ := frame.opens
  have margin : opener.drop start.length = more := drop_of_append opening
  rw [margin] at absent
  have closing := Text.endsFirst_join frame.nonempty frame.noFeed frame.closes absent
  obtain ⟨before, cut⟩ := closing.ends
  rw [← cut] at closing
  -- The comment is the mark that opens it in front of the text in which the closing mark is sought.
  have comment : Text.join ['\n'] (opener :: texts ++ [closer]) = start ++ (before ++ mark) := by
    rw [cut, Text.join_concat, Text.join_concat, List.map_cons, List.map_cons, ← opening]
    simp only [List.flatten_cons, List.append_assoc]
  have opens : start.isPrefixOf (indented (opener ++ ['\n'])) = true :=
    List.isPrefixOf_iff_prefix.mpr (frame.opens.trans (frame.solid.isPrefix_indented ['\n']))
  have found : ([(start, mark)].find? fun pair =>
      pair.1.isPrefixOf (indented (opener ++ ['\n']))) = some (start, mark) :=
    List.find?_cons_of_pos opens
  rw [region, frame.pair, found]
  dsimp only
  rw [Text.lineContent_terminated frame.oneLine, leadingBlock?, frame.solid.trimStart_eq,
    Nat.sub_self, Nat.zero_add, comment, List.append_assoc, List.drop_left, List.take_left,
    Text.splitAfter_append frame.nonempty closing]
  rfl

theorem mentionsKeyword_of_isInfix {text whole : Text} (keyword : mentionsKeyword text = true)
    (inside : text <:+: whole) : mentionsKeyword whole = true := by
  rw [mentionsKeyword, Bool.or_eq_true] at keyword ⊢
  exact keyword.imp (Text.mentions_of_isInfix · inside) (Text.mentions_of_isInfix · inside)

theorem keyword_copyrightLabel : mentionsKeyword copyrightLabel = true := by decide

theorem keyword_licenseLabel : mentionsKeyword licenseLabel = true := by decide

/-- A block with a keyword that ends its line is stale, with the blank lines behind it. -/
theorem judgeBlock_lineFeed {scanLines : Nat} {comment : Text}
    (keyword : mentionsKeyword ((Text.lines comment).take scanLines).flatten = true)
    (below : Text) :
    judgeBlock scanLines comment ('\n' :: below) =
      .incorrect (comment ++ '\n' :: ((Text.lines below).takeWhile isBlank).flatten) := by
  rw [judgeBlock, if_pos keyword, Text.lines_cons_lineFeed]
  dsimp only
  rw [if_pos (by decide), List.takeWhile_cons_of_pos (by decide), List.flatten_cons]
  rfl

/-! ## The verdict on a rendered notice under another one -/

/-- No line feed stands on the lines of a notice that stays in its comment. -/
theorem Notice.StaysInside.noFeed_renderLines {notice : Notice} {layout : Layout}
    (inside : notice.StaysInside layout) (plain : ∀ text ∈ layout.texts, FitsLine text)
    (currentYear : Nat) :
    ∀ line ∈ notice.renderLines layout (notice.writtenYear currentYear), '\n' ∉ line := by
  have label : '\n' ∉ copyrightLabel ∧ '\n' ∉ licenseLabel := by decide
  have year := (fitsLine_writtenYear notice currentYear).1
  have license := inside.license.noFeed
  have owner := inside.owner.noFeed
  cases layout with
  | line marker =>
    simp only [Layout.texts, List.forall_mem_cons] at plain
    obtain ⟨marker, bare, -⟩ := plain
    simp [Notice.renderLines, marker.1, bare.1, label, year, license, owner]
  | block opener margin closer =>
    simp only [Layout.texts, List.forall_mem_cons] at plain
    obtain ⟨opener, margin, bare, closer, -⟩ := plain
    simp [Notice.renderLines, opener.1, margin.1, bare.1, closer.1, label, year, license, owner]

/-- A rendered notice in front of a text has its lines in front of those of the text. -/
theorem lines_render_append {notice : Notice} {layout : Layout}
    (inside : notice.StaysInside layout) (plain : ∀ text ∈ layout.texts, FitsLine text)
    (currentYear : Nat) (below : Text) :
    Text.lines (notice.render layout currentYear ++ below) =
      (notice.renderLines layout (notice.writtenYear currentYear)).map (· ++ ['\n']) ++
        Text.lines below := by
  rw [notice.render_eq,
    Text.lines_terminated_append (inside.noFeed_renderLines plain currentYear)]

/-- The line below a notice, if there is one, is no comment. -/
theorem belowNotice_stops {mark : Text} (nonempty : mark ≠ []) (rest : Text) :
    ∀ line ∈ (Text.lines (belowNotice rest)).head?, isComment mark line = false := by
  intro line first
  rw [belowNotice] at first
  split at first
  · cases first
  · rw [Text.lines_cons_lineFeed, List.head?_cons, Option.mem_some_iff] at first
    subst first
    obtain ⟨c, letters, rfl⟩ := List.exists_cons_of_ne_nil nonempty
    rfl

theorem judge_of_comments {scanLines : Nat} {body first : Text} {others : List Text}
    (cut : Text.lines body = first :: others) (top : region marks body first = .comments mark) :
    judge marks scanLines body = judgeComments scanLines mark (first :: others) := by
  rw [judge, cut]
  dsimp only
  rw [top]

theorem judge_of_block {scanLines : Nat} {body first comment after : Text} {others : List Text}
    (cut : Text.lines body = first :: others)
    (top : region marks body first = .block comment after) :
    judge marks scanLines body = judgeBlock scanLines comment after := by
  rw [judge, cut]
  dsimp only
  rw [top]

theorem judge_of_none {scanLines : Nat} {body first : Text} {others : List Text}
    (cut : Text.lines body = first :: others) (top : region marks body first = .none) :
    judge marks scanLines body = judgeFirstLine scanLines (first :: others) := by
  rw [judge, cut]
  dsimp only
  rw [top]

/-- In line comments, the notice is the run of comments at the top. -/
theorem LineFrame.judge_render_append (frame : LineFrame marks marker mark) {notice : Notice}
    {scanLines : Nat} (window : 3 ≤ scanLines) {currentYear : Nat} {rest : Text}
    (cut : Text.lines (notice.render (.line marker) currentYear ++ belowNotice rest) =
      (notice.renderLines (.line marker) (notice.writtenYear currentYear)).map (· ++ ['\n']) ++
        Text.lines (belowNotice rest)) :
    judge marks scanLines (notice.render (.line marker) currentYear ++ belowNotice rest) =
      .incorrect (notice.render (.line marker) currentYear ++
        ((Text.lines (belowNotice rest)).takeWhile isBlank).flatten) := by
  let copyright := marker ++ (copyrightLabel ++ notice.writtenYear currentYear ++
    ' ' :: notice.owner) ++ ['\n']
  let bare := marker.trimEnd ++ ['\n']
  let license := marker ++ (licenseLabel ++ notice.license) ++ ['\n']
  have lines : Text.lines (notice.render (.line marker) currentYear ++ belowNotice rest) =
      [copyright, bare] ++ [license] ++ Text.lines (belowNotice rest) := cut
  have render : notice.render (.line marker) currentYear =
      ([copyright, bare] ++ [license]).flatten := notice.render_eq (.line marker) currentYear
  have behind (text : Text) : mark <+: marker ++ text ++ ['\n'] := by
    rw [List.append_assoc]
    exact frame.begins.trans (List.prefix_append marker _)
  have comments : ∀ line ∈ [copyright, bare] ++ [license], isComment mark line = true := by
    simp only [List.cons_append, List.nil_append, List.forall_mem_cons]
    exact ⟨frame.isComment_append (behind _),
      frame.isComment_append (frame.trimmed.trans (List.prefix_append _ _)),
      frame.isComment_append (behind _), by simp⟩
  have keyword : mentionsKeyword license = true :=
    mentionsKeyword_of_isInfix keyword_licenseLabel
      ⟨marker, notice.license ++ ['\n'], by simp [license]⟩
  have stale := judgeComments_append comments (belowNotice_stops frame.nonempty rest) window keyword
  rw [List.flatten_append, ← render] at stale
  exact (judge_of_comments lines (frame.region_eq _ (behind _))).trans stale

/-- In a block comment, the notice is the comment at the top. -/
theorem BlockFrame.judge_render_append (frame : BlockFrame marks opener margin closer start mark)
    {notice : Notice} (license : ¬ mark <:+: notice.license) (owner : ¬ mark <:+: notice.owner)
    {scanLines : Nat} (window : 3 ≤ scanLines) {currentYear : Nat} {rest : Text}
    (each : ∀ line ∈ notice.renderLines (.block opener margin closer)
      (notice.writtenYear currentYear), '\n' ∉ line) :
    judge marks scanLines (notice.render (.block opener margin closer) currentYear ++
        belowNotice rest) =
      .incorrect (notice.render (.block opener margin closer) currentYear ++
        ((Text.lines (belowNotice rest)).takeWhile isBlank).flatten) := by
  let copyright := margin ++ (copyrightLabel ++ notice.writtenYear currentYear ++
    ' ' :: notice.owner)
  let inner := [copyright, margin.trimEnd, margin ++ (licenseLabel ++ notice.license)]
  let comment := Text.join ['\n'] (opener :: inner ++ [closer])
  have render : notice.render (.block opener margin closer) currentYear = comment ++ ['\n'] := rfl
  have absent : ∀ text ∈ opener.drop start.length :: inner ++ [closer.dropLast],
      ¬ mark <:+: text := frame.absent license owner currentYear
  have body : notice.render (.block opener margin closer) currentYear ++ belowNotice rest =
      comment ++ '\n' :: belowNotice rest := by
    rw [render, List.append_assoc]
    rfl
  have noFeed : '\n' ∉ opener ∧ '\n' ∉ copyright := by
    simp only [Notice.renderLines, List.forall_mem_cons] at each
    exact ⟨each.1, each.2.1⟩
  have cut (below : Text) : Text.lines (comment ++ below) =
      (opener ++ ['\n']) :: (copyright ++ ['\n']) ::
        Text.lines (Text.join ['\n'] (inner.tail ++ [closer]) ++ below) :=
    (Text.lines_join_append noFeed.1 copyright (inner.tail ++ [closer]) below).trans
      (congrArg _ (Text.lines_join_append noFeed.2 margin.trimEnd _ below))
  have keyword : mentionsKeyword ((Text.lines comment).take scanLines).flatten = true := by
    obtain ⟨more, rfl⟩ := Nat.exists_eq_add_of_le' window
    rw [← List.append_nil comment, cut, List.append_nil]
    refine mentionsKeyword_of_isInfix keyword_copyrightLabel
      ⟨opener ++ ['\n'] ++ margin, notice.writtenYear currentYear ++ ' ' :: notice.owner ++
        ['\n'] ++ ((Text.lines (Text.join ['\n'] (inner.tail ++ [closer]))).take
          (more + 1)).flatten, ?_⟩
    simp [copyright]
  rw [body, judge_of_block (cut _) (frame.region_eq absent (belowNotice rest)),
    judgeBlock_lineFeed keyword, render, List.append_assoc, List.singleton_append]

/-- **A notice is recognised as a whole.** Below a fix for one notice the verdict for another
finds a stale region, which is the notice and the empty line below it. -/
theorem judge_render_append (kind : FileKind) {notice : Notice}
    (inside : notice.StaysInside kind.layout) {scanLines : Nat} (window : 3 ≤ scanLines)
    (currentYear : Nat) (rest : Text) :
    judge kind.marks scanLines (notice.render kind.layout currentYear ++ belowNotice rest) =
      .incorrect (notice.render kind.layout currentYear ++
        ((Text.lines (belowNotice rest)).takeWhile isBlank).flatten) := by
  have plain := kind.fitsLine_texts
  cases layout : kind.layout with
  | line marker =>
    obtain ⟨mark, frame⟩ := lineFrame_of_layout layout
    rw [layout] at inside plain
    exact frame.judge_render_append window (lines_render_append inside plain currentYear _)
  | block opener margin closer =>
    obtain ⟨start, frame⟩ := blockFrame_of_layout layout
    rw [layout] at inside plain
    exact frame.judge_render_append (inside.license.unclosed _ rfl)
      (inside.owner.unclosed _ rfl) window (inside.noFeed_renderLines plain currentYear)

/-! ## What a second fix leaves -/

/-- Without blank lines at its front a text is what is left of it. -/
theorem dropBlankLines_of_head {text : Text}
    (filled : ∀ line ∈ (Text.lines text).head?, isBlank line = false) :
    Text.dropBlankLines text = text := by
  rw [Text.dropBlankLines]
  cases cut : Text.lines text with
  | nil =>
    have whole := Text.flatten_lines text
    rw [cut] at whole
    exact whole
  | cons line later =>
    rw [cut] at filled
    rw [List.dropWhile_cons_of_neg (by simp [filled line rfl]), ← cut, Text.flatten_lines]

/-- Below the notice stands what was put there. -/
theorem dropBlankLines_belowNotice {rest : Text}
    (filled : ∀ line ∈ (Text.lines rest).head?, isBlank line = false) :
    Text.dropBlankLines (belowNotice rest) = rest := by
  rw [belowNotice]
  split
  · rename_i none
    rw [List.isEmpty_iff.mp none]
    rfl
  · rw [Text.dropBlankLines, Text.lines_cons_lineFeed, List.dropWhile_cons_of_pos (by decide)]
    exact dropBlankLines_of_head filled

/-- Of a fixed body, another fix leaves what the first one left. -/
theorem remainder_render_append {kind : FileKind} {notice : Notice}
    (inside : notice.StaysInside kind.layout) {scanLines : Nat} (window : 3 ≤ scanLines)
    (currentYear : Nat) {rest : Text}
    (filled : ∀ line ∈ (Text.lines rest).head?, isBlank line = false) :
    remainder
        (judge kind.marks scanLines (notice.render kind.layout currentYear ++ belowNotice rest))
        (notice.render kind.layout currentYear ++ belowNotice rest) = rest := by
  have below := Text.takeBlankLines_append (belowNotice rest)
  rw [dropBlankLines_belowNotice filled] at below
  have whole : notice.render kind.layout currentYear ++
      ((Text.lines (belowNotice rest)).takeWhile isBlank).flatten ++ rest =
        notice.render kind.layout currentYear ++ belowNotice rest := by
    rw [List.append_assoc, below]
  rw [judge_render_append kind inside window, remainder, Verdict.incorrect, drop_of_append whole]
  exact dropBlankLines_of_head filled

/-- Where there is something to fix, the verdict does not depend on the notice. -/
theorem classify_of_status_ne {kind : FileKind} {notice : Notice} {scanLines : Nat} {body : Text}
    (status : (classify kind notice scanLines body).status ≠ .correct) :
    classify kind notice scanLines body = judge kind.marks scanLines body := by
  rw [classify] at status ⊢
  split
  · rename_i agree
    rw [if_pos agree] at status
    exact absurd rfl status
  · rfl

/-- A line feed at the end of a shebang line is put there once. -/
theorem terminated_terminated (line : Text) : terminated (terminated line) = terminated line := by
  by_cases ended : line.getLast? = some '\n'
  · have same : terminated line = line := if_pos ended
    rw [same, same]
  · have same : terminated line = line ++ ['\n'] := if_neg ended
    rw [same]
    exact Shebang.terminated_append_lineFeed line

/-- **A fix replaces the notice of an earlier one.** Take a content that is correct neither
under one notice nor under another, and a window of three lines or more. The content is fixed
for the first notice, which stays in its comment. Unless the fixed content is correct under the
second notice already, fixing it for the second one gives what fixing the content itself
gives. -/
theorem refix_eq {kind : FileKind} {first second : Notice}
    (inside : first.StaysInside kind.layout) {scanLines : Nat} (window : 3 ≤ scanLines)
    {content : Text}
    (old : (classify kind first scanLines (Shebang.split content).2).status ≠ .correct)
    (new : (classify kind second scanLines (Shebang.split content).2).status ≠ .correct)
    (firstYear secondYear : Nat) :
    ∃ fixed, fix? kind first scanLines firstYear content = some fixed ∧
      ((classify kind second scanLines (Shebang.split fixed).2).status ≠ .correct →
        ∃ text, fix? kind second scanLines secondYear content = some text ∧
          fix? kind second scanLines secondYear fixed = some text) := by
  refine ⟨_, fix_of_status_ne firstYear old, fun stale => ⟨_, fix_of_status_ne secondYear new, ?_⟩⟩
  rw [fix_of_status_ne secondYear stale]
  rw [split_assemble] at stale ⊢
  rw [classify_of_status_ne old] at stale ⊢
  rw [classify_of_status_ne new, classify_of_status_ne stale]
  dsimp only
  have filled : ∀ line ∈ (Text.lines (remainder
      (judge kind.marks scanLines (Shebang.split content).2) (Shebang.split content).2)).head?,
      isBlank line = false := Text.dropBlankLines_head _
  rw [remainder_render_append inside window firstYear filled]
  cases (Shebang.split content).1 with
  | none => rfl
  | some line =>
    simp only [assemble, Option.map_some, Option.getD_some, terminated_terminated]

/-- The theorem at a script with a stale comment, where the owner of the first notice ends like
a comment that is about to be closed. -/
theorem refix_eq_hashbang :
    let first : Notice := ⟨"MIT".toList, "A*".toList, .any⟩
    let second : Notice := ⟨"Apache-2.0".toList, "B".toList, .fixed 2021⟩
    let content : Text := "#!node\n// license: none\n\nf();".toList
    let fixed : Text := "#!node\n/**\n * Copyright © 2026 A*\n *\n".toList ++
      " * SPDX-License-Identifier: MIT\n */\n\nf();".toList
    (first.StaysInside FileKind.javascript.layout ∧ 3 ≤ 3 ∧
      (classify .javascript first 3 (Shebang.split content).2).status ≠ .correct ∧
      (classify .javascript second 3 (Shebang.split content).2).status ≠ .correct) ∧
    fix? .javascript first 3 2026 content = some fixed ∧
    (classify .javascript second 3 (Shebang.split fixed).2).status ≠ .correct ∧
    ∃ text, fix? .javascript second 3 2026 content = some text ∧
      fix? .javascript second 3 2026 fixed = some text := by
  intro first second content fixed
  have inside : first.StaysInside FileKind.javascript.layout :=
    ⟨⟨by decide, by decide +kernel⟩, ⟨by decide, by decide +kernel⟩⟩
  have old : (classify .javascript first 3 (Shebang.split content).2).status ≠ .correct := by
    decide +kernel
  have new : (classify .javascript second 3 (Shebang.split content).2).status ≠ .correct := by
    decide +kernel
  have made : fix? .javascript first 3 2026 content = some fixed := by decide +kernel
  have stale : (classify .javascript second 3 (Shebang.split fixed).2).status ≠ .correct := by
    decide +kernel
  obtain ⟨found, is, again⟩ := refix_eq inside (Nat.le_refl 3) old new 2026 2026
  rw [made, Option.some.injEq] at is
  subst is
  exact ⟨⟨inside, Nat.le_refl 3, old, new⟩, made, stale, again stale⟩

/-- A license that holds the mark that ends a comment, though not the closer of the layout, is
cut off there: when the notice is replaced, the rest of it stays behind. -/
theorem closedLicense_stacked :
    let first : Notice := ⟨"MIT*/".toList, "A".toList, .fixed 2020⟩
    let second : Notice := ⟨"MIT".toList, "A".toList, .fixed 2021⟩
    let content : Text := "x\n".toList
    ∃ opener margin closer, FileKind.javascript.layout = .block opener margin closer ∧
      ('\n' ∉ first.license ∧ ¬ closer <:+: first.license) ∧
      ('\n' ∉ first.owner ∧ ¬ closer <:+: first.owner) ∧
      (classify .javascript first 10 (Shebang.split content).2).status ≠ .correct ∧
      (classify .javascript second 10 (Shebang.split content).2).status ≠ .correct ∧
      ∃ fixed, fix? .javascript first 10 2026 content = some fixed ∧
        (classify .javascript second 10 (Shebang.split fixed).2).status ≠ .correct ∧
        fix? .javascript second 10 2026 fixed ≠ fix? .javascript second 10 2026 content := by
  refine ⟨['/', '*', '*'], [' ', '*', ' '], [' ', '*', '/'], rfl, by decide +kernel,
    by decide +kernel, by decide +kernel, by decide +kernel,
    "/**\n * Copyright © 2020 A\n *\n * SPDX-License-Identifier: MIT*/\n */\n\nx\n".toList,
    ?_, ?_, ?_⟩
  · decide +kernel
  · decide +kernel
  · decide +kernel

end Header

end Hygiene
