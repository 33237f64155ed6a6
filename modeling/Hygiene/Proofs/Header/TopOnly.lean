import Hygiene.Proofs.Header.Accepted
import Hygiene.Proofs.Header.Replaced

/-!
# Only the top of a body is judged

The verdict on a body is found in the region at its top and on the lines down to the first one
below the region that is not blank. Another body that is the same down to there gets the same
verdict, with the same stale text, whatever stands further below (`classify_sameTop`). This
needs two things. The first line must not open a block comment that is never closed, because a
closer further below would close it. And the owner must not hold a closer, because then a
notice could reach further down than the comment that it opens.

The line below the region ends everything that is read line by line: the run of comments, the
paragraph, and the blank lines behind them. So each part of the verdict can be found in the
lines above it alone (`judgeBlock_append`, `judgeComments_append_cons`,
`judgeFirstLine_append_cons`). The lines on which the notice is looked for are among the lines
that are the same, because the region is almost as high as a notice when a notice stands there
(`lineCount_le_topHeight`).
-/

set_option autoImplicit false

namespace Hygiene.Header

open Text (isBlank takeWhile_append_of_stops takeWhile_append_cons_of_stop stops_of_length_le)

/-! ## How far the top reaches -/

/-- The number of lines in the region at the top of a body: the lines of the block comment, the
run of comments, or the first paragraph. -/
def topHeight (marks : CommentMarks) (body : Text) : Nat :=
  match Text.lines body with
  | [] => 0
  | first :: others =>
    match region marks body first with
    | .block comment _ => (Text.lines comment).length
    | .comments marker => ((first :: others).takeWhile (isComment marker)).length
    | .none => ((first :: others).takeWhile fun line => !isBlank line).length

/-- The position of the first line below the region at the top that is not blank. -/
def firstBelow? (marks : CommentMarks) (body : Text) : Option Nat :=
  (((Text.lines body).drop (topHeight marks body)).findIdx? fun line => !isBlank line).map
    (topHeight marks body + ·)

/-- The first line opens a block comment that is never closed: behind blank characters it has an
opener, and no closer stands behind that. -/
def OpensUnclosed (marks : CommentMarks) (body : Text) : Prop :=
  ∃ pair ∈ marks.blocks, ∃ indent behind : Text, body = indent ++ pair.1 ++ behind ∧
    isBlank indent = true ∧ '\n' ∉ indent ∧ ¬ pair.2 <:+: behind

/-- Another body is the same down to the first line below the region that is not blank: the
lines above it are the same, and the same stands on it. Without such a line all lines are the
same. -/
def SameTop (marks : CommentMarks) (body other : Text) : Prop :=
  match firstBelow? marks body with
  | some position =>
    (Text.lines other).take position = (Text.lines body).take position ∧
      (Text.lines other)[position]?.map Text.lineContent =
        (Text.lines body)[position]?.map Text.lineContent
  | none => Text.lines other = Text.lines body

instance (marks : CommentMarks) (body other : Text) : Decidable (SameTop marks body other) :=
  match found : firstBelow? marks body with
  | some position =>
    decidable_of_iff
      ((Text.lines other).take position = (Text.lines body).take position ∧
        (Text.lines other)[position]?.map Text.lineContent =
          (Text.lines body)[position]?.map Text.lineContent)
      (by rw [SameTop, found])
  | none => decidable_of_iff (Text.lines other = Text.lines body) (by rw [SameTop, found])

/-! ## Verdicts that are found above a line -/

/-- Whether a line is a comment is seen by what stands on it. -/
theorem isComment_congr (marker : Text) {line other : Text}
    (same : Text.lineContent other = Text.lineContent line) :
    isComment marker other = isComment marker line := by
  rw [isComment, isComment, indented, indented, same]

variable {scanLines : Nat} {above later : List Text} {line : Text}

/-- The verdict on line comments is found above a line that is neither blank nor part of the
run. -/
theorem judgeComments_append_cons {marker : Text}
    (stops : above.takeWhile (isComment marker) = above → isComment marker line = false)
    (filled : isBlank line = false) :
    judgeComments scanLines marker (above ++ line :: later) =
      judgeComments scanLines marker above := by
  have run : (above ++ line :: later).takeWhile (isComment marker) =
      above.takeWhile (isComment marker) := takeWhile_append_cons_of_stop stops
  rw [judgeComments, judgeComments, run]
  split
  · rfl
  · rename_i first others found
    dsimp only
    have within : staleComments marker (above.takeWhile (isComment marker)) (first :: others) <+:
        above := by
      refine (isPrefix_staleComments marker ?_).trans (List.takeWhile_prefix _)
      rw [← found]
      exact (isPrefix_throughLastKeyword _).trans (List.take_prefix _ _)
    rw [List.drop_append_of_le_length within.length_le,
      takeWhile_append_cons_of_stop fun _ => filled]

/-- The verdict outside a comment is found above a line that is not blank, when a blank line
ends the first paragraph above it. -/
theorem judgeFirstLine_append_cons (nonempty : above ≠ [])
    (parted : (above.takeWhile fun line => !isBlank line) ≠ above)
    (filled : isBlank line = false) :
    judgeFirstLine scanLines (above ++ line :: later) = judgeFirstLine scanLines above := by
  have paragraph : ((above ++ line :: later).takeWhile fun line => !isBlank line) =
      above.takeWhile fun line => !isBlank line :=
    takeWhile_append_cons_of_stop fun whole => absurd whole parted
  have blank : ((above ++ line :: later).drop
        (above.takeWhile fun line => !isBlank line).length).takeWhile isBlank =
      (above.drop (above.takeWhile fun line => !isBlank line).length).takeWhile isBlank := by
    rw [List.drop_append_of_le_length (List.takeWhile_prefix _).length_le,
      takeWhile_append_cons_of_stop fun _ => filled]
  obtain ⟨first, others, rfl⟩ := List.exists_cons_of_ne_nil nonempty
  rw [List.cons_append] at paragraph blank ⊢
  simp only [judgeFirstLine, paragraph, blank]

/-- The verdict on a block comment is found above a line that is not blank, when the comment
ends above it. -/
theorem judgeBlock_append {block rest below : Text} (nonempty : rest ≠ [])
    (ended : ∀ c ∈ rest.getLast?, c = '\n') (lines : Text.lines below = line :: later)
    (filled : isBlank line = false) :
    judgeBlock scanLines block (rest ++ below) = judgeBlock scanLines block rest := by
  have feed : '\n' ∈ rest := by
    have last := ended _ (List.getLast?_eq_some_getLast nonempty)
    exact last ▸ List.getLast_mem nonempty
  have spaces : ((rest ++ below).takeWhile fun c => c = ' ' || c = '\t') =
      rest.takeWhile fun c => c = ' ' || c = '\t' :=
    takeWhile_append_of_stops fun whole => by
      have space := List.mem_takeWhile_imp (whole.symm ▸ feed)
      exact absurd space (by decide)
  rw [judgeBlock, judgeBlock, Text.lines_append_of_ended ended, lines, spaces]
  cases cut : Text.lines rest with
  | nil =>
    have empty := Text.flatten_lines rest
    rw [cut] at empty
    exact absurd empty.symm nonempty
  | cons first others =>
    rw [List.cons_append]
    dsimp only
    rw [← List.cons_append, takeWhile_append_cons_of_stop fun _ => filled]

/-! ## The region at the top -/

variable {marks : CommentMarks} {body other first : Text} {others : List Text}

/-- What a closer of a block comment is: a text with something in it that fits on a line. -/
def Closing (closer : Text) : Prop :=
  closer ≠ [] ∧ '\n' ∉ closer

instance (closer : Text) : Decidable (Closing closer) :=
  inferInstanceAs (Decidable (_ ∧ _))

theorem closing_marks (kind : FileKind) : ∀ pair ∈ kind.marks.blocks, Closing pair.2 := by
  cases kind <;> decide

/-- No region is found only where the first line opens no block comment. -/
def Parted (marks : CommentMarks) (body : Text) : Prop :=
  ∀ first ∈ (Text.lines body).head?, region marks body first = .none →
    ∀ pair ∈ marks.blocks, ¬ pair.1 <+: indented first

theorem parted_of_not_opensUnclosed (closers : ∀ pair ∈ marks.blocks, Closing pair.2)
    (closed : ¬ OpensUnclosed marks body) : Parted marks body := by
  intro first top none pair member opened
  obtain ⟨others, lines⟩ := List.head?_eq_some_iff.mp top
  rw [region] at none
  split at none
  · rename_i found chosen
    have opens := List.find?_some chosen
    have opened := List.isPrefixOf_iff_prefix.mp opens
    have member := List.mem_of_find?_eq_some chosen
    split at none
    · cases none
    · rename_i unfound
      obtain ⟨indent, behind, whole, blank, noFeed, margin⟩ := exists_indent lines opened
      refine closed ⟨found, member, indent, behind, whole, blank, noFeed, ?_⟩
      rw [leadingBlock?, Option.map_eq_none_iff] at unfound
      rw [margin, whole, List.drop_left, Text.splitAfter?, Option.map_eq_none_iff] at unfound
      exact Text.not_isInfix_of_findFrom (closers found member).1 unfound
  · rename_i unopened
    have differs := List.find?_eq_none.mp unopened pair member
    exact differs (List.isPrefixOf_iff_prefix.mpr opened)

/-- Where the first line opens no block comment, the region is known by that line. -/
theorem region_congr (unopened : ∀ pair ∈ marks.blocks, ¬ pair.1 <+: indented first) :
    region marks other first = region marks body first := by
  have none : (marks.blocks.find? fun pair => pair.1.isPrefixOf (indented first)) = none := by
    rw [List.find?_eq_none]
    intro pair member opened
    exact unopened pair member (List.isPrefixOf_iff_prefix.mp opened)
  rw [region, region, none]

/-- A run of comments is only found where the first line opens no block comment. -/
theorem unopened_of_comments {marker : Text} (top : region marks body first = .comments marker) :
    ∀ pair ∈ marks.blocks, ¬ pair.1 <+: indented first := by
  rw [region] at top
  split at top
  · split at top <;> cases top
  · rename_i unopened
    intro pair member opened
    exact List.find?_eq_none.mp unopened pair member (List.isPrefixOf_iff_prefix.mpr opened)

/-- The first line of a run of comments is one of them. -/
theorem isComment_of_comments {marker : Text} (top : region marks body first = .comments marker) :
    isComment marker first = true := by
  rw [region] at top
  split at top
  · split at top <;> cases top
  · split at top
    · split at top
      · rename_i begins
        cases top
        exact begins
      · cases top
    · cases top

/-- A block comment is the region whatever stands behind it. -/
theorem region_append {comment after : Text} (closers : ∀ pair ∈ marks.blocks, Closing pair.2)
    (lines : Text.lines body = first :: others)
    (top : region marks body first = .block comment after) (more : Text) :
    region marks (comment ++ more) first = .block comment more := by
  rw [region] at top ⊢
  split at top
  · rename_i pair chosen
    have opens := List.find?_some chosen
    have opened := List.isPrefixOf_iff_prefix.mp opens
    have closer := closers pair (List.mem_of_find?_eq_some chosen)
    split at top
    · rename_i found
      cases top
      rw [leadingBlock_append lines closer.1 opened found more]
    · cases top
  · split at top
    · split at top <;> cases top
    · cases top

/-- A block comment at the top is a beginning of the body that does not end in a line feed. -/
theorem block_spec {comment after : Text} (closers : ∀ pair ∈ marks.blocks, Closing pair.2)
    (lines : Text.lines body = first :: others)
    (top : region marks body first = .block comment after) :
    body = comment ++ after ∧ comment ≠ [] ∧ comment.getLast? ≠ some '\n' := by
  obtain ⟨opener, closer, member, opened, found⟩ := region_eq_block top
  obtain ⟨nonempty, noFeed⟩ : Closing closer := closers _ member
  obtain ⟨whole, indent, inner, rfl, -⟩ := leadingBlock_eq_some lines nonempty opened found
  refine ⟨whole, by simp [nonempty], fun last => noFeed ?_⟩
  rw [← List.append_assoc, List.getLast?_append_of_ne_nil _ nonempty] at last
  exact List.mem_of_getLast? last

/-! ## Two bodies with the same top -/

theorem topHeight_of_block {comment after : Text} (lines : Text.lines body = first :: others)
    (top : region marks body first = .block comment after) :
    topHeight marks body = (Text.lines comment).length := by
  rw [topHeight, lines]
  dsimp only
  rw [top]

theorem topHeight_of_comments {marker : Text} (lines : Text.lines body = first :: others)
    (top : region marks body first = .comments marker) :
    topHeight marks body = ((first :: others).takeWhile (isComment marker)).length := by
  rw [topHeight, lines]
  dsimp only
  rw [top]

theorem topHeight_of_none (lines : Text.lines body = first :: others)
    (top : region marks body first = .none) :
    topHeight marks body = ((first :: others).takeWhile fun line => !isBlank line).length := by
  rw [topHeight, lines]
  dsimp only
  rw [top]

/-- A block comment that takes no more lines than there are above a line ends above it. -/
theorem block_above {comment after : Text} (whole : body = comment ++ after)
    (nonempty : comment ≠ []) (ends : comment.getLast? ≠ some '\n')
    (cut : Text.lines body = above ++ line :: later)
    (short : (Text.lines comment).length ≤ above.length) :
    ∃ rest, above.flatten = comment ++ rest ∧ rest ≠ [] ∧ ∀ c ∈ rest.getLast?, c = '\n' := by
  obtain ⟨same, -, ended⟩ := Text.lines_flatten_of_append (List.cons_ne_nil line later) cut
  have flat : above.flatten ++ (line :: later).flatten = comment ++ after := by
    rw [← List.flatten_append, ← cut, Text.flatten_lines, whole]
  have differs : above.flatten ≠ comment := by
    intro equal
    obtain ⟨c, last⟩ := Option.ne_none_iff_exists'.mp (mt List.getLast?_eq_none_iff.mp nonempty)
    rw [equal] at ended
    exact ends (last.trans (congrArg some (ended c last)))
  rcases List.append_eq_append_iff.mp flat with ⟨more, longer, -⟩ | ⟨rest, shorter, -⟩
  · -- A comment that goes on below the lines above takes more lines than these.
    have filled : more ≠ [] := by
      rintro rfl
      rw [List.append_nil] at longer
      exact differs longer.symm
    have count := congrArg List.length (Text.lines_append_of_ended ended more)
    rw [← longer, same, List.length_append] at count
    have some : (Text.lines more).length ≠ 0 := fun none => by
      have empty := Text.flatten_lines more
      rw [List.length_eq_zero_iff.mp none] at empty
      exact filled empty.symm
    omega
  · have filled : rest ≠ [] := by
      rintro rfl
      rw [List.append_nil] at shorter
      exact differs shorter
    refine ⟨rest, shorter, filled, fun c last => ended c ?_⟩
    rw [shorter, List.getLast?_append, last]
    rfl

/-- The region is not empty when the first line is not blank. -/
theorem topHeight_pos (closers : ∀ pair ∈ marks.blocks, Closing pair.2)
    (lines : Text.lines body = first :: others) (filled : isBlank first = false) :
    0 < topHeight marks body := by
  cases top : region marks body first with
  | block comment after =>
    obtain ⟨-, nonempty, -⟩ := block_spec closers lines top
    rw [topHeight_of_block lines top, List.length_pos_iff]
    intro none
    have empty := Text.flatten_lines comment
    rw [none] at empty
    exact nonempty empty.symm
  | comments marker =>
    have comment := isComment_of_comments top
    rw [topHeight_of_comments lines top, List.takeWhile_cons_of_pos comment]
    exact Nat.succ_pos _
  | none =>
    rw [topHeight_of_none lines top, List.takeWhile_cons_of_pos (by simp [filled])]
    exact Nat.succ_pos _

/-- What two bodies with the same top have in common. -/
structure Agree (marks : CommentMarks) (scanLines : Nat) (body other : Text) : Prop where
  verdict : judge marks scanLines other = judge marks scanLines body
  height : topHeight marks other = topHeight marks body
  parted : Parted marks other

section Below

variable {later' : List Text} {line' : Text}

/-- Below a block comment. -/
theorem agree_of_block {comment after : Text} (closers : ∀ pair ∈ marks.blocks, Closing pair.2)
    (here : Text.lines body = first :: above ++ line :: later)
    (there : Text.lines other = first :: above ++ line' :: later')
    (filled : isBlank line = false) (filled' : isBlank line' = false)
    (height : topHeight marks body ≤ (first :: above).length)
    (top : region marks body first = .block comment after) : Agree marks scanLines body other := by
  obtain ⟨whole, nonempty, ends⟩ := block_spec closers here top
  rw [topHeight_of_block here top] at height
  obtain ⟨rest, cut, behind, ended⟩ := block_above whole nonempty ends here height
  have found {text next : Text} {further : List Text}
      (lines : Text.lines text = first :: above ++ next :: further) (solid : isBlank next = false) :
      judge marks scanLines text = judgeBlock scanLines comment rest ∧
        region marks text first = .block comment (rest ++ (next :: further).flatten) := by
    have same : text = comment ++ (rest ++ (next :: further).flatten) := by
      rw [← Text.flatten_lines text, lines, List.flatten_append, cut, List.append_assoc]
    have top' := region_append closers here top (rest ++ (next :: further).flatten)
    rw [← same] at top'
    have below : Text.lines (next :: further).flatten = next :: further :=
      Text.lines_flatten_of_suffix (lines ▸ List.suffix_append _ _)
    exact ⟨(judge_of_block lines top').trans (judgeBlock_append behind ended below solid), top'⟩
  obtain ⟨mine, -⟩ := found here filled
  obtain ⟨yours, found'⟩ := found there filled'
  refine ⟨yours.trans mine.symm, ?_, ?_⟩
  · rw [topHeight_of_block here top, topHeight_of_block there found']
  · intro start member none
    rw [there] at member
    cases member
    rw [found'] at none
    cases none

/-- Below a run of comments. -/
theorem agree_of_comments {marker : Text}
    (here : Text.lines body = first :: above ++ line :: later)
    (there : Text.lines other = first :: above ++ line' :: later')
    (same : Text.lineContent line' = Text.lineContent line)
    (filled : isBlank line = false) (filled' : isBlank line' = false)
    (height : topHeight marks body ≤ (first :: above).length)
    (top : region marks body first = .comments marker) : Agree marks scanLines body other := by
  have found : region marks other first = .comments marker :=
    (region_congr (unopened_of_comments top)).trans top
  rw [topHeight_of_comments here top] at height
  have stops : (first :: above).takeWhile (isComment marker) = first :: above →
      isComment marker line = false := stops_of_length_le height
  have stops' : (first :: above).takeWhile (isComment marker) = first :: above →
      isComment marker line' = false := fun all =>
    (isComment_congr marker same).trans (stops all)
  refine ⟨?_, ?_, ?_⟩
  · rw [judge_of_comments here top, judge_of_comments there found]
    exact (judgeComments_append_cons stops' filled').trans
      (judgeComments_append_cons stops filled).symm
  · rw [topHeight_of_comments here top, topHeight_of_comments there found]
    exact congrArg List.length
      ((takeWhile_append_cons_of_stop stops').trans (takeWhile_append_cons_of_stop stops).symm)
  · intro start member none
    rw [there] at member
    cases member
    rw [found] at none
    cases none

/-- Below a first paragraph outside a comment. -/
theorem agree_of_none (here : Text.lines body = first :: above ++ line :: later)
    (there : Text.lines other = first :: above ++ line' :: later')
    (filled : isBlank line = false) (filled' : isBlank line' = false)
    (height : topHeight marks body ≤ (first :: above).length)
    (unopened : ∀ pair ∈ marks.blocks, ¬ pair.1 <+: indented first)
    (top : region marks body first = .none) : Agree marks scanLines body other := by
  have found : region marks other first = .none := (region_congr unopened).trans top
  rw [topHeight_of_none here top] at height
  have ends : ((first :: above).takeWhile fun line => !isBlank line) ≠ first :: above := by
    intro all
    have blank := stops_of_length_le height all
    rw [filled] at blank
    cases blank
  refine ⟨?_, ?_, ?_⟩
  · rw [judge_of_none here top, judge_of_none there found]
    exact (judgeFirstLine_append_cons (List.cons_ne_nil _ _) ends filled').trans
      (judgeFirstLine_append_cons (List.cons_ne_nil _ _) ends filled).symm
  · rw [topHeight_of_none here top, topHeight_of_none there found]
    exact congrArg List.length
      ((takeWhile_append_cons_of_stop fun all => absurd all ends).trans
        (takeWhile_append_cons_of_stop fun all => absurd all ends).symm)
  · intro start member _
    rw [there] at member
    cases member
    exact unopened

/-- Two bodies agree that have the same lines above two lines on which the same stands, which is
not blank, when the region of one of them ends above its line. -/
theorem agree_of_sameLines (closers : ∀ pair ∈ marks.blocks, Closing pair.2)
    (parted : Parted marks body) (here : Text.lines body = above ++ line :: later)
    (there : Text.lines other = above ++ line' :: later')
    (same : Text.lineContent line' = Text.lineContent line) (filled : isBlank line = false)
    (height : topHeight marks body ≤ above.length) : Agree marks scanLines body other := by
  have filled' : isBlank line' = false := by
    rw [← Text.isBlank_lineContent, same, Text.isBlank_lineContent, filled]
  cases above with
  | nil => exact absurd height (Nat.not_le_of_gt (topHeight_pos closers here filled))
  | cons first above =>
    cases top : region marks body first with
    | block comment after => exact agree_of_block closers here there filled filled' height top
    | comments marker => exact agree_of_comments here there same filled filled' height top
    | none =>
      have unopened := parted first (by rw [here]; rfl) top
      exact agree_of_none here there filled filled' height unopened top

end Below

/-! ## The lines on which the notice is looked for -/

section Notice

variable {notice : Notice} {years : Text} {marker opener margin closer start mark : Text}

/-- A notice in line comments is a run of comments. -/
theorem LineFrame.lineCount_le_topHeight (frame : LineFrame marks marker mark)
    (cut : Text.lines body = above ++ later)
    (same : above.map Text.lineContent = notice.renderLines (.line marker) years) :
    3 ≤ topHeight marks body := by
  have behind : ∀ text ∈ notice.renderLines (.line marker) years, mark <+: text := by
    simp only [Notice.renderLines, List.forall_mem_cons]
    exact ⟨frame.begins.trans (List.prefix_append _ _), frame.trimmed,
      frame.begins.trans (List.prefix_append _ _), by simp⟩
  have begins : ∀ line ∈ above, mark <+: line := fun line member =>
    (behind _ (same ▸ List.mem_map_of_mem member)).trans (Text.isPrefix_lineContent line)
  have count : above.length = 3 := by
    rw [← List.length_map Text.lineContent, same]
    rfl
  cases above with
  | nil => cases count
  | cons first others =>
    have top := frame.region_eq body (begins first List.mem_cons_self)
    have lines : Text.lines body = first :: (others ++ later) := cut
    rw [topHeight_of_comments lines top, ← List.cons_append, List.takeWhile_append_of_pos
      fun line member => frame.isComment_append (begins line member), List.length_append, count]
    exact Nat.le_add_right _ _

/-- A block comment under the opener of a notice begins with the mark of the opener and ends in
the closing mark. -/
theorem BlockFrame.comment_eq (frame : BlockFrame marks opener margin closer start mark)
    {comment after : Text} (opening : Text.lineContent first = opener) (begins : opener <+: body)
    (top : region marks body first = .block comment after) :
    ∃ inner, comment = start ++ (inner ++ mark) := by
  obtain ⟨opener', closer', member, -, found⟩ := region_eq_block top
  rw [frame.pair, List.mem_singleton, Prod.mk.injEq] at member
  obtain ⟨rfl, rfl⟩ := member
  rw [opening, leadingBlock?] at found
  dsimp only at found
  rw [frame.solid.trimStart_eq, Nat.sub_self, Nat.zero_add] at found
  obtain ⟨⟨through, behind⟩, split, same⟩ := Option.map_eq_some_iff.mp found
  obtain ⟨-, inner, rfl, -⟩ := Text.splitAfter_eq_some frame.nonempty split
  rw [Prod.mk.injEq] at same
  refine ⟨inner, same.1.symm.trans ?_⟩
  rw [← List.prefix_iff_eq_take.mp (frame.opens.trans begins)]

/-- A block comment goes on below lines on which its closing mark does not stand. -/
theorem BlockFrame.not_isPrefix (frame : BlockFrame marks opener margin closer start mark)
    {comment after : Text} (cut : Text.lines body = first :: above ++ line :: later)
    (opening : Text.lineContent first = opener)
    (absent : ∀ line ∈ above, ¬ mark <:+: Text.lineContent line)
    (top : region marks body first = .block comment after) :
    ¬ comment <+: (first :: above).flatten := by
  rintro ⟨rest, within⟩
  have ended := Text.exists_lineEnd_of_append (List.cons_ne_nil line later) cut
  obtain ⟨⟨ends, whole, filled, feeds⟩, others⟩ := List.forall_mem_cons.mp ended
  obtain ⟨more, opens⟩ := frame.opens
  rw [opening, ← opens, List.append_assoc] at whole
  have begins : opener <+: body := by
    rw [← Text.flatten_lines body, cut, List.cons_append, List.flatten_cons, whole, ← opens,
      ← List.append_assoc, List.append_assoc]
    exact List.prefix_append _ _
  obtain ⟨inner, rfl⟩ := frame.comment_eq opening begins top
  -- Both ways to read the lines above begin with the mark that opens the comment.
  rw [List.flatten_cons, whole, List.append_assoc, List.append_assoc, List.append_assoc,
    List.append_cancel_left_eq] at within
  rw [← List.append_assoc, List.append_assoc more] at within
  have standing : mark <:+: more ++ (ends ++ above.flatten) := ⟨inner, rest, within⟩
  rcases Text.isInfix_of_lineEnd frame.nonempty frame.noFeed frame.noReturn filled feeds standing
    with here | there
  · refine frame.apart more ?_ here
    rw [drop_of_append opens]
    exact List.mem_cons_self
  · obtain ⟨found, member, inside⟩ :=
      Text.isInfix_lineContent frame.nonempty frame.noFeed frame.noReturn others there
    exact absent found member inside

/-- A notice in a block comment, whose owner does not close the comment, is inside the comment
with all lines but the last. -/
theorem BlockFrame.lineCount_le_topHeight (frame : BlockFrame marks opener margin closer start mark)
    (closers : ∀ pair ∈ marks.blocks, Closing pair.2) (parted : Parted marks body)
    (plain : ∀ c ∈ years, isDecimalDigit c = true ∨ c = '-') (inside : ¬ mark <:+: notice.owner)
    (cut : Text.lines body = above ++ later)
    (same : above.map Text.lineContent =
      notice.renderLines (.block opener margin closer) years) :
    4 ≤ topHeight marks body := by
  obtain ⟨l₀, _, rfl, c₀, same⟩ := List.map_eq_cons_iff.mp same
  obtain ⟨l₁, _, rfl, c₁, same⟩ := List.map_eq_cons_iff.mp same
  obtain ⟨l₂, _, rfl, c₂, same⟩ := List.map_eq_cons_iff.mp same
  obtain ⟨l₃, others, rfl, -, -⟩ := List.map_eq_cons_iff.mp same
  have lines : Text.lines body = [l₀, l₁, l₂] ++ l₃ :: (others ++ later) := cut
  have opened : start <+: indented l₀ := by
    rw [indented, c₀, frame.solid.trimStart_eq]
    exact frame.opens
  have member : (start, mark) ∈ marks.blocks := by
    rw [frame.pair]
    exact List.mem_cons_self
  have absent : ∀ line ∈ [l₁, l₂], ¬ mark <:+: Text.lineContent line := by
    simp only [List.forall_mem_cons, c₁, c₂]
    exact ⟨frame.absent_copyright plain inside, frame.apart _ (by simp), by simp⟩
  cases top : region marks body l₀ with
  | none => exact absurd opened (parted l₀ (by rw [cut]; rfl) top _ member)
  | comments found => exact absurd opened (unopened_of_comments top _ member)
  | block comment after =>
    rw [topHeight_of_block lines top]
    by_contra few
    obtain ⟨whole, nonempty, ends⟩ := block_spec closers lines top
    obtain ⟨rest, above, -⟩ := block_above whole nonempty ends lines
      (Nat.le_of_lt_succ (Nat.lt_of_not_le few))
    exact frame.not_isPrefix lines c₀ absent top ⟨rest, above.symm⟩

/-- Where the notice stands, the region takes all its lines, or all but the last one. -/
theorem lineCount_le_topHeight (kind : FileKind)
    (inside : ∀ pair ∈ kind.marks.blocks, ¬ pair.2 <:+: notice.owner)
    (parted : Parted kind.marks body)
    (agree : notice.matchesLines kind.layout (opening kind.layout body) = true) :
    kind.layout.lineCount ≤ topHeight kind.marks body + 1 := by
  obtain ⟨years, accepted, same⟩ :=
    (Notice.matchesLines_iff kind.margin_plain (length_opening_le _ _)).mp agree
  have cut := (List.take_append_drop kind.layout.lineCount (Text.lines body)).symm
  rw [opening] at same
  cases layout : kind.layout with
  | line marker =>
    rw [layout] at same cut
    obtain ⟨mark, frame⟩ := lineFrame_of_layout layout
    exact Nat.le_succ_of_le (frame.lineCount_le_topHeight cut same)
  | block opener margin closer =>
    rw [layout] at same cut
    obtain ⟨start, frame⟩ := blockFrame_of_layout layout
    have owner : ¬ closer.trimStart <:+: notice.owner := inside (start, closer.trimStart) (by
      rw [frame.pair]
      exact List.mem_cons_self)
    exact Nat.succ_le_succ
      (frame.lineCount_le_topHeight (closing_marks kind) parted accepted.plain owner cut same)

end Notice

/-! ## What is not read -/

/-- A list with an item at a position is parted there. -/
theorem eq_take_append_of_getElem? {α : Type} {items : List α} {position : Nat} {item : α}
    (found : items[position]? = some item) :
    items = items.take position ++ item :: items.drop (position + 1) := by
  obtain ⟨within, rfl⟩ := List.getElem?_eq_some_iff.mp found
  rw [← List.drop_eq_getElem_cons within, List.take_append_drop]

/-- The first line below the region stands behind all lines of the region, and it is not
blank. -/
theorem firstBelow_eq_some {position : Nat} (found : firstBelow? marks body = some position) :
    ∃ line, (Text.lines body)[position]? = some line ∧ isBlank line = false ∧
      topHeight marks body ≤ position := by
  obtain ⟨distance, first, rfl⟩ := Option.map_eq_some_iff.mp found
  obtain ⟨within, filled, -⟩ := List.findIdx?_eq_some_iff_getElem.mp first
  exact ⟨_, List.getElem?_drop.symm.trans (List.getElem?_eq_getElem within),
    Bool.not_eq_true' _ ▸ filled, Nat.le_add_right _ _⟩

/-- Two bodies with the same top either have the same lines, or they have the same lines above
two lines on which the same stands, which is not blank and below the region. -/
theorem SameTop.parts (same : SameTop marks body other) :
    Text.lines other = Text.lines body ∨
      ∃ above line later line' later', Text.lines body = above ++ line :: later ∧
        Text.lines other = above ++ line' :: later' ∧
        Text.lineContent line' = Text.lineContent line ∧ isBlank line = false ∧
        topHeight marks body ≤ above.length := by
  rw [SameTop] at same
  split at same
  · rename_i position found
    obtain ⟨line, here, filled, height⟩ := firstBelow_eq_some found
    obtain ⟨above, stands⟩ := same
    rw [here] at stands
    obtain ⟨line', there, content⟩ := Option.map_eq_some_iff.mp stands
    have rest := eq_take_append_of_getElem? there
    rw [above] at rest
    refine .inr ⟨_, line, _, line', _, eq_take_append_of_getElem? here, rest, content, filled, ?_⟩
    obtain ⟨within, -⟩ := List.getElem?_eq_some_iff.mp here
    rw [List.length_take, Nat.min_eq_left (Nat.le_of_lt within)]
    exact height
  · exact .inl same

/-- The lines at the top are the same when they end no further down than a line on which the
same stands. -/
theorem opening_congr {layout : Layout} {line' : Text} {later' : List Text}
    (here : Text.lines body = above ++ line :: later)
    (there : Text.lines other = above ++ line' :: later')
    (same : Text.lineContent line' = Text.lineContent line)
    (near : layout.lineCount ≤ above.length + 1) : opening layout other = opening layout body := by
  have cut (next : Text) (further : List Text) :
      (above ++ next :: further).take layout.lineCount =
        (above ++ [next]).take layout.lineCount := by
    rw [List.append_cons, List.take_append_of_le_length]
    rw [List.length_append]
    exact near
  rw [opening, opening, here, there, cut line, cut line', List.map_take, List.map_take,
    List.map_append, List.map_append, List.map_singleton, List.map_singleton, same]

/-- **Only the top of a body is judged.** Let the first line of a body not open a block comment
that is never closed, and let the owner not hold a closer of the kind of file. Then a body that
is the same down to the first line below the region that is not blank gets the same verdict,
with the same stale text. The license can be any text, and so can the owner but for the
closer. -/
theorem classify_sameTop (kind : FileKind) {notice : Notice}
    (inside : ∀ pair ∈ kind.marks.blocks, ¬ pair.2 <:+: notice.owner) (scanLines : Nat)
    {body other : Text} (closed : ¬ OpensUnclosed kind.marks body)
    (same : SameTop kind.marks body other) :
    classify kind notice scanLines other = classify kind notice scanLines body := by
  rcases same.parts with equal | ⟨above, line, later, line', later', here, there, content, filled,
      height⟩
  · rw [← Text.flatten_lines other, equal, Text.flatten_lines]
  have parted := parted_of_not_opensUnclosed (closing_marks kind) closed
  have agree : Agree kind.marks scanLines body other :=
    agree_of_sameLines (closing_marks kind) parted here there content filled height
  by_cases near : kind.layout.lineCount ≤ above.length + 1
  · -- The notice is looked for on lines that are the same.
    have same : opening kind.layout other = opening kind.layout body :=
      opening_congr here there content near
    rw [opening, opening] at same
    rw [classify, classify, agree.verdict, same]
  · -- The lines go on below, so the notice stands on top of neither body.
    have differs {text : Text} (parted : Parted kind.marks text)
        (equal : topHeight kind.marks text = topHeight kind.marks body) :
        classify kind notice scanLines text = judge kind.marks scanLines text := by
      refine classify_of_status_ne fun correct => near ?_
      have high := lineCount_le_topHeight kind inside parted
        ((status_correct_iff_matchesLines kind notice scanLines text).mp correct)
      omega
    rw [differs agree.parted agree.height, differs parted rfl, agree.verdict]

/-- A comment on a license below the code does not count, although the code stands on a line
on which the notice is looked for. -/
theorem classify_sameTop_of_code :
    let body := "/* Reads\n   dates. */\n\nf();\ng();\n".toList
    let other := "/* Reads\n   dates. */\n\nf();\n// License\n */".toList
    classify .javascript ⟨"MIT".toList, "Ada".toList, .any⟩ 10 other =
      classify .javascript ⟨"MIT".toList, "Ada".toList, .any⟩ 10 body := by
  refine classify_sameTop .javascript (by decide +kernel) 10 ?_ (by decide +kernel)
  rintro ⟨pair, member, indent, behind, whole, blank, -, unclosed⟩
  rw [List.mem_singleton.mp member] at whole unclosed
  cases indent with
  | nil =>
    have rest : _ = behind := congrArg (List.drop 2) whole
    refine unclosed ?_
    rw [← rest]
    decide +kernel
  | cons c indent =>
    have first : '/' = c := (List.cons.inj whole).1
    rw [← first] at blank
    cases blank

end Hygiene.Header
