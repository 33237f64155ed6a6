import Hygiene.Proofs.Header.Replaced

/-!
# Line comments are removed paragraph by paragraph

Bare markers part a run of line comments into paragraphs. When the window mentions a keyword, a
fix removes the paragraphs through the last one in which it does, and the bare markers below that
one. Every later paragraph is kept as it is (`classify_comments`).

What is removed ends at a boundary of the run: below bare markers and above another line, or at
the end of the run (`boundary_staleComments`). No boundary stands between the last line with a
keyword and this one (`staleComments_append_of_boundary`). These two facts say all that a reader
of the verdict needs: a paragraph that begins below the last keyword begins at a boundary, so
nothing of it is removed, and a boundary is never inside a paragraph.
-/

set_option autoImplicit false

namespace Hygiene.Header

open Text (isBlank takeWhile_append_of_stops)

/-! ## Paragraphs of a run of comments -/

/-- The paragraphs of a run are parted between two of its lines: the line below, if there is one,
is no bare marker, and the line above is one. -/
def Boundary (marker : Text) (above below : List Text) : Prop :=
  ∀ next ∈ below.head?, isBareMarker marker next = false ∧
    ∃ last ∈ above.getLast?, isBareMarker marker last = true

/-- Lines of a run that are a paragraph of it: none of them is a bare marker, and they stand
between bare markers or the ends of the run. -/
structure IsParagraph (marker : Text) (run above paragraph below : List Text) : Prop where
  cut : run = above ++ (paragraph ++ below)
  nonempty : paragraph ≠ []
  filled : ∀ line ∈ paragraph, isBareMarker marker line = false
  begins : ∀ line ∈ above.getLast?, isBareMarker marker line = true
  ends : ∀ line ∈ below.head?, isBareMarker marker line = true

/-- How a run of comments is divided into what a fix removes and what it keeps, when the window
is its beginning `window`. -/
structure Division (marker : Text) (window run removed kept : List Text) : Prop where
  cut : run = removed ++ kept
  /-- No line with a keyword in the window is kept. -/
  keywords : ∀ line ∈ window.drop removed.length, mentionsKeyword line = false
  /-- What is removed ends with a group of bare markers or with the run. -/
  boundary : Boundary marker removed kept
  /-- A paragraph is removed entirely when the window has a keyword in it or further below. -/
  removes : ∀ above paragraph below, IsParagraph marker run above paragraph below →
    (∃ line ∈ window.drop above.length, mentionsKeyword line = true) →
      above ++ paragraph <+: removed
  /-- Any other paragraph is kept entirely. -/
  keeps : ∀ above paragraph below, IsParagraph marker run above paragraph below →
    (∀ line ∈ window.drop above.length, mentionsKeyword line = false) → removed <+: above

/-! ## The last line with a keyword -/

/-- Behind the lines through the last one with a keyword no line has one, and the last of these
lines has one. -/
theorem exists_below_lastKeyword (lines : List Text) :
    ∃ below, lines = throughLastKeyword lines ++ below ∧
      (∀ line ∈ below, mentionsKeyword line = false) ∧
      ∀ last ∈ (throughLastKeyword lines).getLast?, mentionsKeyword last = true := by
  refine ⟨(lines.reverse.takeWhile fun line => !mentionsKeyword line).reverse, ?_, ?_, ?_⟩
  · rw [throughLastKeyword, ← List.reverse_append, List.takeWhile_append_dropWhile,
      List.reverse_reverse]
  · intro line member
    simpa using List.mem_takeWhile_imp (List.mem_reverse.mp member)
  · intro last final
    have stops := List.head?_dropWhile_not (fun line => !mentionsKeyword line) lines.reverse
    rw [throughLastKeyword, List.getLast?_reverse] at final
    rw [final] at stops
    simpa using stops

/-- From a position on, the lines have one with a keyword when the position is above the end of
the lines through the last one. -/
theorem exists_keyword_drop_iff (lines : List Text) (position : Nat) :
    (∃ line ∈ lines.drop position, mentionsKeyword line = true) ↔
      position < (throughLastKeyword lines).length := by
  obtain ⟨below, cut, none, keyword⟩ := exists_below_lastKeyword lines
  constructor
  · rintro ⟨line, member, mentioned⟩
    by_contra high
    have later : line ∈ below := by
      rw [cut, List.drop_append, List.drop_of_length_le (Nat.le_of_not_lt high),
        List.nil_append] at member
      exact List.mem_of_mem_drop member
    rw [none line later] at mentioned
    cases mentioned
  · intro low
    have nonempty : throughLastKeyword lines ≠ [] := List.ne_nil_of_length_pos (by omega)
    have later : (throughLastKeyword lines).drop position ≠ [] := by
      rw [Ne, List.drop_eq_nil_iff]
      omega
    refine ⟨(throughLastKeyword lines).getLast nonempty, ?_,
      keyword _ (List.getLast?_eq_some_getLast nonempty)⟩
    rw [(congrArg (List.drop position) cut).trans List.drop_append, ← List.getLast_drop later]
    exact List.mem_append_left _ (List.getLast_mem later)

/-- How the marker of line comments goes with the other marks and with the keywords: it cannot be
taken for the opener of a block, and no letter that all keywords have is in it. -/
structure LineMarker (marks : CommentMarks) (marker : Text) : Prop where
  line : marks.line = some marker
  nonempty : marker ≠ []
  wordless : (marker.any fun c => c.toLower == 'i') = false
  apart : ∀ pair ∈ marks.blocks, ¬ pair.1 <+: marker ∧ ¬ marker <+: pair.1

theorem lineMarker_of_marks {kind : FileKind} {marker : Text}
    (line : kind.marks.line = some marker) : LineMarker kind.marks marker := by
  cases kind <;> cases line <;> exact ⟨rfl, by decide, by decide, by decide⟩

/-- A letter that all keywords have is in every text that mentions one, and it is not blank. -/
theorem exists_mem_of_mentionsKeyword {text : Text} (keyword : mentionsKeyword text = true) :
    ∃ c ∈ text, c.toLower = 'i' ∧ isBlankChar c = false := by
  obtain ⟨c, member, letter⟩ : ∃ c ∈ text, c.toLower = 'i' := by
    rw [mentionsKeyword, Bool.or_eq_true] at keyword
    rcases keyword with copyright | license
    · exact Text.exists_mem_of_mentions copyright 'i' (by decide)
    · exact Text.exists_mem_of_mentions license 'i' (by decide)
  refine ⟨c, member, letter, Bool.eq_false_iff.mpr fun blank => ?_⟩
  rw [Text.toLower_of_isBlankChar blank] at letter
  rw [letter] at blank
  exact absurd blank (by decide)

theorem mentionsKeyword_of_isBlank {text : Text} (blank : isBlank text = true) :
    mentionsKeyword text = false := by
  rw [Bool.eq_false_iff]
  intro keyword
  obtain ⟨c, member, -, other⟩ := exists_mem_of_mentionsKeyword keyword
  rw [List.all_eq_true.mp blank c member] at other
  cases other

/-- A bare marker mentions no keyword. -/
theorem LineMarker.not_isBareMarker {marks : CommentMarks} {marker line : Text}
    (mark : LineMarker marks marker) (keyword : mentionsKeyword line = true) :
    isBareMarker marker line = false := by
  obtain ⟨c, member, letter, other⟩ := exists_mem_of_mentionsKeyword keyword
  rw [isBareMarker, beq_eq_false_iff_ne]
  intro bare
  rcases Text.mem_trim_or_blank member with inside | blank
  · exact List.any_eq_false.mp mark.wordless c (bare ▸ inside) (beq_iff_eq.mpr letter)
  · rw [other] at blank
    cases blank

theorem LineMarker.not_isBareMarker_lastKeyword {marks : CommentMarks} {marker : Text}
    (mark : LineMarker marks marker) (lines : List Text) :
    ∀ last ∈ (throughLastKeyword lines).getLast?, isBareMarker marker last = false := by
  obtain ⟨below, -, -, keyword⟩ := exists_below_lastKeyword lines
  exact fun last final => mark.not_isBareMarker (keyword last final)

/-! ## Where the removal ends -/

section Removal

variable {marks : CommentMarks} {marker : Text} {run found : List Text}

theorem staleComments_append (marker : Text) (found later : List Text) :
    staleComments marker (found ++ later) found =
      found ++ later.takeWhile (fun line => !isBareMarker marker line) ++
        (later.dropWhile fun line => !isBareMarker marker line).takeWhile
          (isBareMarker marker) := by
  rw [staleComments, List.drop_left, drop_length_takeWhile]

/-- What is removed does not go on below a boundary, when the last line found is above it and is
no bare marker. -/
theorem staleComments_append_of_boundary {above below : List Text} (first : found <+: above)
    (filled : ∀ last ∈ found.getLast?, isBareMarker marker last = false)
    (boundary : Boundary marker above below) :
    staleComments marker (above ++ below) found = staleComments marker above found := by
  obtain ⟨later, rfl⟩ := first
  cases below with
  | nil => rw [List.append_nil]
  | cons next below =>
    obtain ⟨other, last, final, bare⟩ := boundary next rfl
    have member : last ∈ later := by
      rw [Option.mem_def, List.getLast?_append, Option.or_eq_some_iff] at final
      rcases final with inside | ⟨-, before⟩
      · exact List.mem_of_getLast? inside
      · rw [filled last before] at bare
        cases bare
    have paragraph : (later ++ next :: below).takeWhile (fun line => !isBareMarker marker line) =
        later.takeWhile fun line => !isBareMarker marker line :=
      takeWhile_append_of_stops fun whole => by
        have inside := List.mem_takeWhile_imp (whole.symm ▸ member)
        rw [bare] at inside
        cases inside
    have group : (later ++ next :: below).dropWhile (fun line => !isBareMarker marker line) =
        (later.dropWhile fun line => !isBareMarker marker line) ++ next :: below := by
      rw [List.dropWhile_append, if_neg]
      rw [List.isEmpty_iff, List.dropWhile_eq_nil_iff]
      intro all
      have inside := all last member
      rw [bare] at inside
      cases inside
    rw [List.append_assoc, staleComments_append, staleComments_append, paragraph, group,
      takeWhile_append_of_stops fun _ first same => by cases same; exact other]

/-- What is removed of a run ends at a boundary of it. -/
theorem boundary_staleComments (marker : Text) (first : found <+: run) :
    ∃ kept, run = staleComments marker run found ++ kept ∧
      Boundary marker (staleComments marker run found) kept := by
  obtain ⟨later, rfl⟩ := first
  let below := later.dropWhile fun line => !isBareMarker marker line
  have cut : later = later.takeWhile (fun line => !isBareMarker marker line) ++
      (below.takeWhile (isBareMarker marker) ++ below.dropWhile (isBareMarker marker)) := by
    rw [List.takeWhile_append_dropWhile, List.takeWhile_append_dropWhile]
  refine ⟨below.dropWhile (isBareMarker marker), ?_, ?_⟩
  · rw [staleComments_append]
    conv_lhs => rw [cut]
    simp only [List.append_assoc, below]
  · intro next follows
    have other := List.head?_dropWhile_not (isBareMarker marker) below
    rw [follows] at other
    refine ⟨other, ?_⟩
    have group : below.takeWhile (isBareMarker marker) ≠ [] := by
      intro none
      -- Without bare markers the line that follows would be the first one that is no paragraph's.
      have whole : below = below.dropWhile (isBareMarker marker) := by
        conv_lhs => rw [← List.takeWhile_append_dropWhile (p := isBareMarker marker) (l := below)]
        rw [none, List.nil_append]
      have bare := List.head?_dropWhile_not (fun line => !isBareMarker marker line) later
      have follows : below.head? = some next := whole ▸ follows
      rw [follows] at bare
      simp only [other] at bare
      cases bare
    rw [staleComments_append, List.getLast?_append_of_ne_nil _ group]
    have final := List.getLast?_eq_some_getLast group
    exact ⟨_, final, List.mem_takeWhile_imp (List.getLast_mem group)⟩

theorem isPrefix_found (marker : Text) (run found : List Text) :
    found <+: staleComments marker run found := by
  rw [staleComments, List.append_assoc]
  exact List.prefix_append found _

/-- A paragraph begins at a boundary, unless it begins with the run. -/
theorem IsParagraph.boundary {above paragraph below : List Text}
    (part : IsParagraph marker run above paragraph below) (nonempty : above ≠ []) :
    Boundary marker above (paragraph ++ below) := by
  intro next follows
  obtain ⟨line, others, rfl⟩ := List.exists_cons_of_ne_nil part.nonempty
  cases follows
  have final := List.getLast?_eq_some_getLast nonempty
  exact ⟨part.filled next List.mem_cons_self, _, final, part.begins _ final⟩

/-- No boundary is inside a paragraph: what ends at a boundary and has a line of the paragraph has
all of it. -/
theorem IsParagraph.isPrefix_of_boundary {above paragraph below removed kept : List Text}
    (part : IsParagraph marker run above paragraph below) (cut : run = removed ++ kept)
    (boundary : Boundary marker removed kept) (begun : above.length < removed.length) :
    above ++ paragraph <+: removed := by
  obtain ⟨more, rfl⟩ : above <+: removed :=
    List.prefix_of_prefix_length_le ⟨_, part.cut.symm⟩ ⟨kept, cut.symm⟩ (Nat.le_of_lt begun)
  have same : above ++ (paragraph ++ below) = above ++ (more ++ kept) := by
    rw [← part.cut, cut, List.append_assoc]
  rw [List.prefix_append_right_inj]
  rcases List.append_eq_append_iff.mp (List.append_cancel_left same) with
    ⟨others, whole, -⟩ | ⟨others, whole, follows⟩
  · exact ⟨others, whole.symm⟩
  · cases others with
    | nil => exact ⟨[], by rw [whole, List.append_nil, List.append_nil]⟩
    | cons next others =>
      -- The line above the boundary would be in the paragraph, and yet be a bare marker.
      obtain ⟨-, last, final, bare⟩ := boundary next (by rw [follows]; rfl)
      have nonempty : more ≠ [] := by
        rintro rfl
        rw [List.append_nil] at begun
        exact absurd begun (Nat.lt_irrefl _)
      rw [List.getLast?_append_of_ne_nil _ nonempty] at final
      have inside : last ∈ paragraph := by
        rw [whole]
        exact List.mem_append_left _ (List.mem_of_getLast? final)
      rw [part.filled last inside] at bare
      cases bare

/-- What is removed when the window mentions a keyword, and what is kept, is a division of the
run. -/
theorem division_staleComments (mark : LineMarker marks marker) {scanLines : Nat}
    (keyword : ∃ line ∈ run.take scanLines, mentionsKeyword line = true) :
    ∃ kept, Division marker (run.take scanLines) run
      (staleComments marker run (throughLastKeyword (run.take scanLines))) kept := by
  let found := throughLastKeyword (run.take scanLines)
  have first : found <+: run := (isPrefix_throughLastKeyword _).trans (List.take_prefix _ _)
  have filled : ∀ last ∈ found.getLast?, isBareMarker marker last = false :=
    mark.not_isBareMarker_lastKeyword _
  have positive : 0 < found.length := (exists_keyword_drop_iff _ 0).mp keyword
  have within := (isPrefix_found marker run found).length_le
  have none {position : Nat} (high : found.length ≤ position) :
      ∀ line ∈ (run.take scanLines).drop position, mentionsKeyword line = false := by
    intro line member
    by_contra mentioned
    have low := (exists_keyword_drop_iff _ _).mp ⟨line, member, by simpa using mentioned⟩
    exact absurd high (Nat.not_le_of_lt low)
  obtain ⟨kept, cut, boundary⟩ := boundary_staleComments marker first
  refine ⟨kept, cut, none within, boundary, ?_, ?_⟩
  · intro above paragraph below part mentioned
    have low := (exists_keyword_drop_iff _ _).mp mentioned
    exact part.isPrefix_of_boundary cut boundary (Nat.lt_of_lt_of_le low within)
  · intro above paragraph below part unmentioned
    have high : found.length ≤ above.length := by
      by_contra low
      obtain ⟨line, member, mentioned⟩ :=
        (exists_keyword_drop_iff _ _).mpr (Nat.lt_of_not_le low)
      rw [unmentioned line member] at mentioned
      cases mentioned
    have inside : found <+: above :=
      List.prefix_of_prefix_length_le first ⟨_, part.cut.symm⟩ high
    have edge := part.boundary (List.ne_nil_of_length_pos (Nat.lt_of_lt_of_le positive high))
    have same : staleComments marker run found = staleComments marker above found := by
      rw [part.cut, staleComments_append_of_boundary inside filled edge]
    exact same ▸ isPrefix_staleComments marker inside

end Removal

/-! ## The verdict on line comments -/

section Verdict

variable {marks : CommentMarks} {marker : Text} {scanLines : Nat} {lines : List Text}

/-- A comment is not blank. -/
theorem LineMarker.not_isBlank {line : Text} (mark : LineMarker marks marker)
    (comment : isComment marker line = true) : isBlank line = false := by
  by_contra blank
  rw [Bool.not_eq_false, ← Text.isBlank_lineContent] at blank
  rw [isComment, indented, Text.trimStart_of_isBlank blank, List.isPrefixOf_iff_prefix,
    List.prefix_nil] at comment
  exact mark.nonempty comment

theorem judgeComments_of_keyword
    (keyword : ∃ line ∈ (lines.takeWhile (isComment marker)).take scanLines,
      mentionsKeyword line = true) :
    judgeComments scanLines marker lines =
      let removed := staleComments marker (lines.takeWhile (isComment marker))
        (throughLastKeyword ((lines.takeWhile (isComment marker)).take scanLines))
      .incorrect (removed ++ (lines.drop removed.length).takeWhile isBlank).flatten := by
  have positive := (exists_keyword_drop_iff _ 0).mp keyword
  rw [judgeComments]
  cases found : throughLastKeyword ((lines.takeWhile (isComment marker)).take scanLines) with
  | nil => simp [found] at positive
  | cons line others => rfl

theorem judgeComments_of_noKeyword
    (none : ∀ line ∈ (lines.takeWhile (isComment marker)).take scanLines,
      mentionsKeyword line = false) :
    judgeComments scanLines marker lines = .absent := by
  rw [judgeComments]
  cases found : throughLastKeyword ((lines.takeWhile (isComment marker)).take scanLines) with
  | nil => rfl
  | cons line others =>
    obtain ⟨found, member, mentioned⟩ :=
      (exists_keyword_drop_iff _ 0).mpr (by rw [found]; exact Nat.succ_pos _)
    rw [none found member] at mentioned
    cases mentioned

/-- Blank lines are removed only below the end of the run. -/
theorem LineMarker.blankLines_below (mark : LineMarker marks marker) {removed kept : List Text}
    (cut : lines.takeWhile (isComment marker) = removed ++ kept) :
    (lines.drop removed.length).takeWhile isBlank =
      if kept = [] then (lines.dropWhile (isComment marker)).takeWhile isBlank else [] := by
  have below : lines.drop removed.length = kept ++ lines.dropWhile (isComment marker) := by
    refine drop_of_append ?_
    rw [← List.append_assoc, ← cut, List.takeWhile_append_dropWhile]
  rw [below]
  cases kept with
  | nil => rw [List.nil_append, if_pos rfl]
  | cons line kept =>
    have comment : isComment marker line = true :=
      List.mem_takeWhile_imp (cut ▸ List.mem_append_right _ List.mem_cons_self)
    rw [List.cons_append, List.takeWhile_cons_of_neg (by simp [mark.not_isBlank comment]),
      if_neg (List.cons_ne_nil line kept)]

end Verdict

/-- **Line comments are removed paragraph by paragraph.** Take a body whose first line is a
comment behind the marker of the kind, which no opener of a block can be taken for, and which is
not correct. When no line of the run of comments within the window mentions a keyword, nothing
is found. Otherwise the run is divided: what is removed has all these lines, ends with a group
of bare markers or with the run, and consists of entire paragraphs through the last one in which
the window mentions a keyword. Blank lines are removed below the end of the run. -/
theorem classify_byParagraph {kind : FileKind} {notice : Notice} {scanLines : Nat}
    {body first marker : Text} (line : kind.marks.line = some marker)
    (top : (Text.lines body).head? = some first) (comment : isComment marker first = true)
    (wrong : (classify kind notice scanLines body).status ≠ .correct) :
    let run := (Text.lines body).takeWhile (isComment marker)
    let below := (Text.lines body).dropWhile (isComment marker)
    ((∀ line ∈ run.take scanLines, mentionsKeyword line = false) →
        classify kind notice scanLines body = .absent) ∧
      ((∃ line ∈ run.take scanLines, mentionsKeyword line = true) →
        ∃ removed kept, Division marker (run.take scanLines) run removed kept ∧
          classify kind notice scanLines body =
            .incorrect (removed ++ if kept = [] then below.takeWhile isBlank else []).flatten) := by
  intro run below
  have mark := lineMarker_of_marks line
  obtain ⟨others, cut⟩ := List.head?_eq_some_iff.mp top
  rw [classify_of_status_ne wrong,
    judge_of_comments cut (region_of_isComment mark.line mark.apart body comment), ← cut]
  refine ⟨judgeComments_of_noKeyword, fun keyword => ?_⟩
  obtain ⟨kept, division⟩ := division_staleComments mark keyword
  refine ⟨_, kept, division, ?_⟩
  rw [judgeComments_of_keyword keyword, ← mark.blankLines_below division.cut]

/-- The theorem at a run with two groups of bare markers, where the last keyword is outside the
window: the paragraphs behind the first group are kept. -/
theorem classify_byParagraph_shortWindow :
    let notice : Notice := ⟨"MIT".toList, "A".toList, .any⟩
    let body : Text := "  # Copyright B\n# Terms\n#\n # \n# Docs\n#\n# License\n\nx\n".toList
    let run := (Text.lines body).takeWhile (isComment ['#'])
    let below := (Text.lines body).dropWhile (isComment ['#'])
    (FileKind.python.marks.line = some ['#'] ∧
      (Text.lines body).head? = some "  # Copyright B\n".toList ∧
      isComment ['#'] "  # Copyright B\n".toList = true ∧
      (classify .python notice 5 body).status ≠ .correct) ∧
    ((∀ line ∈ run.take 5, mentionsKeyword line = false) →
        classify .python notice 5 body = .absent) ∧
      ((∃ line ∈ run.take 5, mentionsKeyword line = true) →
        ∃ removed kept, Division ['#'] (run.take 5) run removed kept ∧
          classify .python notice 5 body =
            .incorrect
              (removed ++ if kept = [] then below.takeWhile isBlank else []).flatten) := by
  intro notice body run below
  have line : FileKind.python.marks.line = some ['#'] := rfl
  have top : (Text.lines body).head? = some "  # Copyright B\n".toList := by decide +kernel
  have comment : isComment ['#'] "  # Copyright B\n".toList = true := by decide +kernel
  have wrong : (classify .python notice 5 body).status ≠ .correct := by decide +kernel
  exact ⟨⟨line, top, comment, wrong⟩, classify_byParagraph line top comment wrong⟩

end Hygiene.Header
