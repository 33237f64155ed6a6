import Hygiene.Proofs.Header.Offsets
import Hygiene.Proofs.Text.Content
import Mathlib.Data.List.Infix

/-!
# No position is out of range

The verdict on a body and the fix of a content can be found by offsets alone, and none of the
positions that this takes is out of range (`positions_inRange`): every cut is between two
characters, every index is inside the list of lines, and nothing is taken from a smaller number.

The lines with their positions are the lines of the body, each with the size of the text through
it (`stopOf_place`). So a number of lines that is inside the list stands for a position at which
the body can be cut. The comment at the top is found between two such cuts
(`leadingComment_placedLines`), and the line on which a block comment ends is among the lines
because text behind an unfinished line goes on with that line (`findIdx_stop`). The windows and
runs of lines from which the stale text is measured are beginnings of one another
(`measureComments_place`, `measureBlock_placedLines`, `measureFirstLine_place`).
-/

set_option autoImplicit false

namespace Hygiene.Header

open Text (isBlank utf8Size)

/-! ## What stands on a line -/

/-- A keyword on a line does not reach into the end of the line. -/
theorem mentionsKeyword_lineContent (line : Text) :
    mentionsKeyword (Text.lineContent line) = mentionsKeyword line := by
  obtain ⟨ends, whole, marks⟩ := Text.exists_lineEnd line
  have inside {word : Text} (plain : Text.OneLine word) (nonempty : word ≠ []) :
      (Text.lineContent line).mentions word = line.mentions word := by
    rw [Bool.eq_iff_iff]
    constructor
    · exact fun found =>
        Text.mentions_of_isInfix found (Text.isPrefix_lineContent line).isInfix
    · intro found
      obtain ⟨part, stands, rfl⟩ := Text.mentions_iff.mp found
      have single := Text.oneLine_of_map_toLower plain
      have filled : part ≠ [] := fun none => nonempty (by rw [none]; rfl)
      refine Text.mentions_iff.mpr ⟨part, ?_, rfl⟩
      by_cases ended : ends = []
      · rw [whole, ended, List.append_nil] at stands
        exact stands
      · rw [whole, ← List.append_nil ends] at stands
        have inside := Text.isInfix_of_lineEnd filled single.1 single.2 ended marks stands
        exact inside.resolve_right fun none => filled (List.infix_nil.mp none)
  rw [mentionsKeyword, mentionsKeyword, inside (by decide) (by decide),
    inside (by decide) (by decide)]

namespace Offsets

/-- The first nine bytes are the word when the first nine characters are. -/
theorem startsNotice_indented (line : Text) :
    startsNotice (indented line) = opensNotice line := by
  rw [startsNotice, opensNotice]
  congr 1
  rw [Bool.eq_iff_iff, Option.any_eq_true, Text.beginsIgnoringCase_iff]
  constructor
  · rintro ⟨⟨word, rest⟩, found, same⟩
    obtain ⟨whole, -⟩ := Text.cut_eq_some_iff.mp found
    exact ⟨word, ⟨rest, whole.symm⟩, by rw [beq_iff_eq.mp same]; decide⟩
  · rintro ⟨word, ⟨rest, whole⟩, same⟩
    refine ⟨(word, rest), Text.cut_eq_some_iff.mpr ⟨whole.symm, ?_⟩, ?_⟩
    · rw [← Text.utf8Size_map_toLower, same]
      decide
    · rw [Text.sameIgnoringCase, same]
      decide

/-! ## Lines with their positions -/

theorem content_place (start : Nat) (lines : List Text) :
    (place start lines).map PlacedLine.content = lines.map Text.lineContent := by
  induction lines generalizing start with
  | nil => rfl
  | cons line later ih => rw [place, List.map_cons, List.map_cons, ih]

theorem length_place (start : Nat) (lines : List Text) :
    (place start lines).length = lines.length := by
  have same := congrArg List.length (content_place start lines)
  rwa [List.length_map, List.length_map] at same

theorem place_append (start : Nat) (above below : List Text) :
    place start (above ++ below) =
      place start above ++ place (start + utf8Size above.flatten) below := by
  induction above generalizing start with
  | nil => rfl
  | cons line later ih =>
    rw [List.cons_append, place, ih, place, List.flatten_cons, Text.utf8Size_append,
      Nat.add_assoc, List.cons_append]

theorem take_place (start count : Nat) (lines : List Text) :
    (place start lines).take count = place start (lines.take count) := by
  induction lines generalizing start count with
  | nil => simp [place]
  | cons line later ih =>
    cases count with
    | zero => rfl
    | succ count => rw [place, List.take_succ_cons, ih, List.take_succ_cons, place]

/-- The last of some lines stops where all of them together stop. -/
theorem stop_getLast_place (start : Nat) {lines : List Text} (nonempty : lines ≠ []) :
    (place start lines).getLast?.map PlacedLine.stop = some (start + utf8Size lines.flatten) := by
  obtain ⟨above, line, rfl⟩ : ∃ above line, lines = above ++ [line] :=
    ⟨lines.dropLast, lines.getLast nonempty, (List.dropLast_append_getLast nonempty).symm⟩
  rw [place_append, place, place, List.getLast?_concat, Option.map_some, List.flatten_append,
    Text.utf8Size_append, List.flatten_singleton, Nat.add_assoc]

/-- Every line stops inside of what the lines make up. -/
theorem stop_le_of_mem_place {start : Nat} {lines : List Text} {line : PlacedLine}
    (member : line ∈ place start lines) : line.stop ≤ start + utf8Size lines.flatten := by
  induction lines generalizing start with
  | nil => cases member
  | cons first later ih =>
    rw [List.flatten_cons, Text.utf8Size_append, ← Nat.add_assoc]
    rcases List.mem_cons.mp member with rfl | below
    · exact Nat.le_add_right _ _
    · exact ih below

variable {lines : List Text}

theorem stopOf_place {count : Nat} (inside : count ≤ lines.length) :
    stopOf (place 0 lines) count = .ok (utf8Size (lines.take count).flatten) := by
  rw [stopOf, Ranged.take_of_le (by rwa [length_place]), Ranged.ok_bind, take_place]
  cases cut : lines.take count with
  | nil => rfl
  | cons line later =>
    rw [stop_getLast_place 0 (List.cons_ne_nil line later), Nat.zero_add]
    rfl

/-- As many lines are taken by what stands on them as by the lines themselves. -/
theorem length_takeWhile_content {placed : List PlacedLine} (holds kind : Text → Bool)
    (same : placed.map PlacedLine.content = lines.map Text.lineContent)
    (agree : ∀ line, holds (Text.lineContent line) = kind line) :
    (placed.takeWhile fun line => holds line.content).length = (lines.takeWhile kind).length := by
  have taken := congrArg (fun texts => (texts.takeWhile holds).length) same
  simp only [List.takeWhile_map, List.length_map] at taken
  rw [show holds ∘ Text.lineContent = kind from funext agree] at taken
  exact taken

theorem take_length_takeWhile {α : Type} (holds : α → Bool) (items : List α) :
    items.take (items.takeWhile holds).length = items.takeWhile holds :=
  (List.prefix_iff_eq_take.mp (List.takeWhile_prefix holds)).symm

theorem findIdx_eq {α : Type} (holds : α → Bool) (items : List α) :
    items.findIdx? holds = match items.dropWhile fun item => !holds item with
      | [] => none
      | _ :: later => some (items.length - 1 - later.length) := by
  induction items with
  | nil => rfl
  | cons first others ih =>
    cases here : holds first with
    | true => simp [List.findIdx?_cons, here]
    | false =>
      rw [List.findIdx?_cons, here, ih, List.dropWhile_cons_of_pos (by simp [here])]
      have shorter := (List.dropWhile_suffix (l := others) fun item => !holds item).length_le
      cases rest : others.dropWhile fun item => !holds item with
      | nil => rfl
      | cons found later =>
        rw [rest, List.length_cons] at shorter
        simp
        omega

theorem lastIndex_eq (lines : List Text) :
    lastIndex? mentionsKeyword lines = match throughLastKeyword lines with
      | [] => none
      | _ :: others => some others.length := by
  rw [lastIndex?, findIdx_eq, throughLastKeyword]
  have shorter := (List.dropWhile_suffix (l := lines.reverse) fun line =>
    !mentionsKeyword line).length_le
  cases rest : lines.reverse.dropWhile fun line => !mentionsKeyword line with
  | nil => rfl
  | cons found later =>
    rw [rest] at shorter
    cases turned : (found :: later).reverse with
    | nil => simp at turned
    | cons first others =>
      have size := congrArg List.length turned
      simp at size shorter ⊢
      omega

/-! ## The comment at the top -/

/-- A position that is found is the size of the text before the first occurrence. -/
theorem findPosition_eq {needle : Text} (nonempty : needle ≠ []) (text : Text) :
    findPosition? text needle = (Text.splitAfter? text needle).map fun (through, _) =>
      utf8Size through - utf8Size needle := by
  rw [findPosition?, Text.splitAfter?, Option.map_map]
  cases found : Text.find? text needle with
  | none => rfl
  | some index =>
    obtain ⟨before, after, rfl, rfl, -⟩ := Text.find_eq_some nonempty found
    rw [Option.map_some, Option.map_some, Function.comp_apply, List.splitAt_eq, List.append_assoc,
      List.take_left, ← List.append_assoc, ← List.length_append, List.take_left]
    dsimp only
    rw [Text.utf8Size_append, Nat.add_sub_cancel]

/-- The line on which a block comment ends is the last one of its lines. -/
theorem findIdx_stop {comment : Text} (nonempty : comment ≠ [])
    (unended : comment.getLast? ≠ some '\n') (after : Text) :
    (placedLines (comment ++ after)).findIdx? (fun line => utf8Size comment ≤ line.stop) =
      some ((Text.lines comment).length - 1) := by
  obtain ⟨earlier, last, cut, solid, longer⟩ := Text.lines_append_of_open nonempty unended
  have size : utf8Size comment = utf8Size earlier.flatten + utf8Size last := by
    rw [← Text.flatten_lines comment, cut, List.flatten_append, Text.utf8Size_append,
      List.flatten_singleton]
  have filled : 0 < utf8Size last := by
    obtain ⟨c, rest, rfl⟩ := List.exists_cons_of_ne_nil solid
    rw [Text.utf8Size_cons]
    exact Nat.add_pos_left c.utf8Size_pos _
  rw [placedLines, longer, place_append, List.findIdx?_append, List.findIdx?_eq_none_iff.mpr]
  · rw [place, List.findIdx?_cons, if_pos, cut, length_place]
    · simp
    · rw [decide_eq_true_eq, size, Text.utf8Size_append]
      dsimp only
      omega
  · intro line member
    have early := stop_le_of_mem_place member
    rw [decide_eq_false_iff_not]
    omega

/-- A block comment that is closed stops behind its closer, on the last one of its lines. -/
theorem findIdx_closer {closer : Text} (closing : Closing closer) (front inner after : Text) :
    utf8Size front + (utf8Size (inner ++ closer) - utf8Size closer) + utf8Size closer =
        utf8Size (front ++ (inner ++ closer)) ∧
      ((placedLines (front ++ (inner ++ closer) ++ after)).findIdx? fun line =>
        utf8Size (front ++ (inner ++ closer)) ≤ line.stop) =
        some ((Text.lines (front ++ (inner ++ closer))).length - 1) := by
  constructor
  · rw [Text.utf8Size_append front, Text.utf8Size_append inner closer]
    omega
  · refine findIdx_stop (by simp [closing.1]) ?_ after
    rw [← List.append_assoc, List.getLast?_append_of_ne_nil _ closing.1]
    exact fun last => closing.2 (List.mem_of_getLast? last)

variable {marks : CommentMarks} {body first : Text} {others lines : List Text}

/-- What indents the first line takes as many bytes as are trimmed at the front of the line. -/
theorem utf8Size_indented {indent behind : Text} (cut : Text.lines body = first :: others)
    (whole : body = indent ++ behind)
    (margin : (Text.lineContent first).length - (indented first).length = indent.length) :
    utf8Size (Text.lineContent first) = utf8Size indent + utf8Size (indented first) := by
  have content := Text.takeWhile_append_trimStart (Text.lineContent first)
  have length := congrArg List.length content
  rw [List.length_append, ← indented] at length
  have top : (Text.lineContent first).takeWhile isBlankChar <+: body := by
    refine (List.takeWhile_prefix _).trans ((Text.isPrefix_lineContent first).trans ?_)
    rw [← Text.flatten_lines body, cut, List.flatten_cons]
    exact List.prefix_append first _
  have same : (Text.lineContent first).takeWhile isBlankChar = indent := by
    refine (List.prefix_of_prefix_length_le top ⟨behind, whole.symm⟩ ?_).eq_of_length ?_ <;> omega
  rw [← same, indented, ← Text.utf8Size_append, content]

/-- The closer of a block comment is sought from a position that can be cut at, and the block
comment stops where its closer does. -/
theorem leadingComment_opened {opener closer : Text} (cut : Text.lines body = first :: others)
    (chosen : (marks.blocks.find? fun pair => pair.1.isPrefixOf (indented first)) =
      some (opener, closer)) (closing : Closing closer) :
    leadingComment marks body (placedLines body) =
      .ok (match leadingBlock? body (Text.lineContent first) (opener, closer) with
        | some (comment, after) => (Region.block comment after).extent (first :: others)
        | none => .none) := by
  have opens := List.find?_some chosen
  have opened : opener <+: indented first := List.isPrefixOf_iff_prefix.mp opens
  obtain ⟨indent, behind, whole, -, -, margin⟩ := exists_indent cut opened
  rw [← indented] at margin
  have line : utf8Size (Text.lineContent first) = utf8Size indent + utf8Size (indented first) := by
    rw [List.length_append, Nat.add_right_cancel_iff] at margin
    exact utf8Size_indented cut (whole.trans (List.append_assoc indent opener behind)) margin
  have start : utf8Size (Text.lineContent first) - utf8Size (indented first) + utf8Size opener =
      utf8Size (indent ++ opener) := by
    rw [line, Nat.add_sub_cancel, Text.utf8Size_append]
  have block : leadingBlock? body (Text.lineContent first) (opener, closer) =
      (Text.splitAfter? behind closer).map fun (inner, after) =>
        (indent ++ opener ++ inner, after) := by
    rw [indented] at margin
    rw [leadingBlock?]
    dsimp only
    rw [margin, whole, List.drop_left, List.take_left]
  have behindOpener : Ranged.behind body (utf8Size (indent ++ opener)) = .ok behind := by
    rw [whole]
    exact Ranged.behind_append rfl
  have placed : placedLines body =
      ⟨Text.lineContent first, 0 + utf8Size first⟩ :: place (0 + utf8Size first) others := by
    rw [placedLines, cut, place]
  rw [leadingComment.eq_def, placed]
  dsimp only
  rw [← indented, chosen]
  dsimp only
  rw [Ranged.minus_of_le (by omega), Ranged.ok_bind, start, behindOpener, Ranged.ok_bind,
    findPosition_eq closing.1, block]
  cases split : Text.splitAfter? behind closer with
  | none => rfl
  | some parts =>
    obtain ⟨through, after⟩ := parts
    obtain ⟨rfl, inner, rfl, -⟩ := Text.splitAfter_eq_some closing.1 split
    have nonempty : indent ++ opener ++ (inner ++ closer) ≠ [] := by simp [closing.1]
    obtain ⟨size, stops⟩ := findIdx_closer closing (indent ++ opener) inner after
    rw [List.append_assoc _ (inner ++ closer), ← whole, placed] at stops
    dsimp only [Option.map_some]
    rw [size, stops, Region.extent]
    dsimp only
    rw [Nat.sub_add_cancel (Text.length_lines_pos nonempty)]
    rfl

/-- How far the comment at the top extends is found with positions in range. -/
theorem leadingComment_placedLines (closers : ∀ pair ∈ marks.blocks, Closing pair.2)
    (cut : Text.lines body = first :: others) :
    leadingComment marks body (placedLines body) =
      .ok ((region marks body first).extent (first :: others)) := by
  cases chosen : marks.blocks.find? fun pair => pair.1.isPrefixOf (indented first) with
  | some pair =>
    obtain ⟨opener, closer⟩ := pair
    rw [leadingComment_opened cut chosen (closers _ (List.mem_of_find?_eq_some chosen)), region]
    rw [chosen]
    dsimp only
    cases leadingBlock? body (Text.lineContent first) (opener, closer) <;> rfl
  | none =>
    have placed : placedLines body =
        ⟨Text.lineContent first, 0 + utf8Size first⟩ :: place (0 + utf8Size first) others := by
      rw [placedLines, cut, place]
    have run (marker : Text) := length_takeWhile_content
      (fun text => marker.isPrefixOf text.trimStart) (isComment marker)
      (content_place 0 (first :: others)) fun _ => rfl
    rw [leadingComment.eq_def, region, placed]
    dsimp only
    rw [← indented, chosen]
    dsimp only
    cases marks.line with
    | none => rfl
    | some marker =>
      dsimp only
      split
      · rw [← place, run]
        rfl
      · rfl

/-! ## The measures -/

theorem drop_place (start count : Nat) (lines : List Text) :
    (place start lines).drop count =
      place (start + utf8Size (lines.take count).flatten) (lines.drop count) := by
  induction lines generalizing start count with
  | nil => simp [place]
  | cons line later ih =>
    cases count with
    | zero => rfl
    | succ count =>
      rw [place, List.drop_succ_cons, ih, List.drop_succ_cons, List.take_succ_cons,
        List.flatten_cons, Text.utf8Size_append, Nat.add_assoc]

/-- As many lines are counted by what stands on them as by the lines themselves. -/
theorem length_takeWhile_place (start : Nat) (holds kind : Text → Bool) (lines : List Text)
    (agree : ∀ line, holds (Text.lineContent line) = kind line) :
    ((place start lines).takeWhile fun line => holds line.content).length =
      (lines.takeWhile kind).length :=
  length_takeWhile_content holds kind (content_place start lines) agree

theorem skipBlank_place {count : Nat} (inside : count ≤ lines.length) :
    skipBlank (place 0 lines) count =
      .ok (count + ((lines.drop count).takeWhile isBlank).length) := by
  have blank := length_takeWhile_place (utf8Size (lines.take count).flatten)
    (fun text => text.trim.isEmpty) isBlank (lines.drop count) Text.trim_isEmpty_lineContent
  rw [skipBlank, Ranged.drop_of_le (by rwa [length_place]), Ranged.ok_bind, drop_place,
    Nat.zero_add, blank]
  rfl

/-- The blank lines behind the first ones are a part of the list. -/
theorem take_add_blank (count : Nat) (lines : List Text) :
    lines.take (count + ((lines.drop count).takeWhile isBlank).length) =
      lines.take count ++ (lines.drop count).takeWhile isBlank := by
  rw [List.take_add, take_length_takeWhile]

theorem stopOf_skipBlank {count : Nat} (inside : count ≤ lines.length) :
    stopOf (place 0 lines) (count + ((lines.drop count).takeWhile isBlank).length) =
      .ok (utf8Size (lines.take count ++ (lines.drop count).takeWhile isBlank).flatten) := by
  have below := (List.takeWhile_prefix (l := lines.drop count) isBlank).length_le
  rw [List.length_drop] at below
  rw [stopOf_place (by omega), take_add_blank]

theorem measureFirstLine_place (scanLines : Nat) (lines : List Text) :
    measureFirstLine scanLines (place 0 lines) = .ok (judgeFirstLine scanLines lines).measure := by
  cases lines with
  | nil => rfl
  | cons first others =>
    have paragraph := length_takeWhile_place 0 (fun text => !text.trim.isEmpty)
      (fun line => !isBlank line) (first :: others) fun line =>
        congrArg not (Text.trim_isEmpty_lineContent line)
    have inside : ((first :: others).takeWhile fun line => !isBlank line).length ≤ _ :=
      (List.takeWhile_prefix _).length_le
    rw [place, measureFirstLine.eq_def, judgeFirstLine]
    dsimp only
    rw [mentionsKeyword_lineContent, ← indented, startsNotice_indented]
    split
    · rfl
    · split
      · rfl
      · rw [← place, paragraph, skipBlank_place inside, Ranged.ok_bind, stopOf_skipBlank inside,
          take_length_takeWhile]
        rfl

/-- The last line of a kind is found by what stands on the lines. -/
theorem lastIndex_place (start : Nat) (lines : List Text) :
    lastIndex? (fun line => mentionsKeyword line.content) (place start lines) =
      lastIndex? mentionsKeyword lines := by
  have contents : ((place start lines).reverse.map PlacedLine.content) =
      lines.reverse.map Text.lineContent := by
    rw [List.map_reverse, content_place, List.map_reverse]
  have found := congrArg (List.findIdx? mentionsKeyword) contents
  rw [List.findIdx?_map, List.findIdx?_map] at found
  rw [show mentionsKeyword ∘ Text.lineContent = mentionsKeyword from
    funext mentionsKeyword_lineContent] at found
  rw [lastIndex?, lastIndex?, length_place, ← found]
  rfl

theorem inner_place {start stop : Nat} (order : start ≤ stop) (inside : stop ≤ lines.length) :
    Ranged.inner (place 0 lines) start stop =
      .ok (place (utf8Size (lines.take start).flatten) ((lines.take stop).drop start)) := by
  rw [Ranged.inner_of_le order (by rwa [length_place]), take_place, drop_place, Nat.zero_add,
    List.take_take, Nat.min_eq_left order]

theorem throughParagraph_place (marker : Text) {run found : List Text} (first : found <+: run)
    (within : run <+: lines) :
    throughParagraph marker (place 0 lines) found.length run.length =
      .ok (staleComments marker run found).length := by
  have whole : lines.take run.length = run := (List.prefix_iff_eq_take.mp within).symm
  have inside := within.length_le
  have bare (line : Text) :
      ((Text.lineContent line).trim == marker) = isBareMarker marker line := by
    rw [Text.trim_lineContent, isBareMarker]
  let later := run.drop found.length
  let paragraph := later.takeWhile fun line => !isBareMarker marker line
  have ends : found.length + paragraph.length ≤ run.length := by
    have fits : paragraph.length ≤ later.length := (List.takeWhile_prefix _).length_le
    have height := first.length_le
    rw [List.length_drop] at fits
    omega
  have below (start : Nat) :
      ((place start later).takeWhile fun line => line.content.trim != marker).length =
        paragraph.length :=
    length_takeWhile_place start (fun text => text.trim != marker) _ later
      fun line => congrArg not (bare line)
  have behind (start : Nat) :
      ((place start (later.drop paragraph.length)).takeWhile
        fun line => line.content.trim == marker).length =
        ((later.drop paragraph.length).takeWhile (isBareMarker marker)).length :=
    length_takeWhile_place start (fun text => text.trim == marker) _ _ bare
  rw [throughParagraph, inner_place first.length_le inside, Ranged.ok_bind, whole, below]
  dsimp only
  rw [inner_place ends inside, Ranged.ok_bind, whole, ← List.drop_drop, behind, staleComments,
    List.length_append, List.length_append]
  rfl

theorem measureComments_place (scanLines : Nat) (marker : Text) (lines : List Text) :
    measureComments scanLines marker (place 0 lines)
        (lines.takeWhile (isComment marker)).length =
      .ok (judgeComments scanLines marker lines).measure := by
  have within : lines.takeWhile (isComment marker) <+: lines := List.takeWhile_prefix _
  rw [measureComments, judgeComments]
  generalize lines.takeWhile (isComment marker) = run at within ⊢
  have window : (place 0 lines).take (min run.length scanLines) =
      place 0 (run.take scanLines) := by
    rw [take_place, Nat.min_comm, ← List.take_take, ← List.prefix_iff_eq_take.mp within]
  rw [Ranged.take_of_le (by rw [length_place]; have := within.length_le; omega), Ranged.ok_bind,
    window, lastIndex_place, lastIndex_eq]
  cases found : throughLastKeyword (run.take scanLines) with
  | nil => rfl
  | cons line others =>
    have first : line :: others <+: run := by
      rw [← found]
      exact (isPrefix_throughLastKeyword _).trans (List.take_prefix _ _)
    have removed := (isPrefix_staleComments marker first).trans within
    dsimp only
    rw [← List.length_cons, throughParagraph_place marker first within, Ranged.ok_bind,
      skipBlank_place removed.length_le, Ranged.ok_bind, stopOf_skipBlank removed.length_le,
      ← List.prefix_iff_eq_take.mp removed]
    rfl

/-! ### Block comments -/

section Block

variable {comment after last : Text} {earlier : List Text}

/-- What is scanned of a block comment are its first lines. -/
theorem scanned_block (cut : Text.lines comment = earlier ++ [last])
    (longer : Text.lines (comment ++ after) =
      earlier ++ (last ++ (Text.lines after).headD []) :: (Text.lines after).tail)
    (scanLines : Nat) :
    (stopOf (placedLines (comment ++ after)) (min (earlier.length + 1) scanLines) >>=
        fun stop => Ranged.before (comment ++ after) (min stop (utf8Size comment))) =
      .ok ((Text.lines comment).take scanLines).flatten := by
  have parts : comment = earlier.flatten ++ last := by
    rw [← Text.flatten_lines comment, cut, List.flatten_append, List.flatten_singleton]
  have inside : min (earlier.length + 1) scanLines ≤ (Text.lines (comment ++ after)).length := by
    rw [longer, List.length_append, List.length_cons]
    omega
  rw [placedLines, stopOf_place inside, Ranged.ok_bind, longer, cut]
  by_cases early : scanLines ≤ earlier.length
  · -- The window ends above the line on which the comment ends.
    have window : min (earlier.length + 1) scanLines = scanLines := by omega
    have whole : comment ++ after = (earlier.take scanLines).flatten ++
        ((earlier.drop scanLines).flatten ++ (last ++ after)) := by
      rw [← List.append_assoc, ← List.flatten_append, List.take_append_drop, parts,
        List.append_assoc]
    have inside : utf8Size (earlier.take scanLines).flatten ≤ utf8Size comment := by
      rw [parts, ← List.take_append_drop scanLines earlier, List.flatten_append]
      simp only [Text.utf8Size_append, List.take_append_drop]
      omega
    rw [window, List.take_append_of_le_length early, List.take_append_of_le_length early,
      Nat.min_eq_left inside, whole]
    exact Ranged.before_append rfl
  · -- The window takes in all of the comment, and what is scanned stops where the comment does.
    have window : min (earlier.length + 1) scanLines = earlier.length + 1 := by omega
    have beyond : utf8Size comment ≤ utf8Size (List.take (earlier.length + 1)
        (earlier ++ (last ++ (Text.lines after).headD []) :: (Text.lines after).tail)).flatten := by
      rw [List.take_length_add_append, List.take_succ_cons, List.take_zero, List.flatten_append,
        List.flatten_singleton, parts]
      simp only [Text.utf8Size_append]
      omega
    rw [window, Nat.min_eq_right beyond, List.take_of_length_le (by simp; omega), ← cut,
      Text.flatten_lines]
    exact Ranged.before_append rfl

theorem getElem_place (start : Nat) (above below : List Text) (line : Text) :
    (place start (above ++ line :: below))[above.length]? =
      some ⟨Text.lineContent line, start + utf8Size above.flatten + utf8Size line⟩ := by
  rw [place_append, List.getElem?_append_right (by rw [length_place]), length_place, Nat.sub_self,
    place, List.getElem?_cons_zero]

/-- What is stale when a keyword is found in a block comment, by what stands behind the comment
on its last line. -/
theorem judgeBlock_of_keyword {scanLines : Nat}
    (keyword : mentionsKeyword ((Text.lines comment).take scanLines).flatten = true) :
    judgeBlock scanLines comment after =
      if isBlank ((Text.lines after).headD []) then
        .incorrect (comment ++ ((Text.lines after).headD [] ++
          ((Text.lines after).tail.takeWhile isBlank).flatten))
      else .incorrect (comment ++ after.takeWhile fun c => c = ' ' || c = '\t') := by
  rw [judgeBlock, if_pos keyword]
  cases Text.lines after with
  | nil =>
    rw [List.headD_nil, List.tail_nil, List.takeWhile_nil, List.flatten_nil, List.append_nil,
      if_pos (by rfl), List.append_nil]
  | cons line later =>
    rw [List.headD_cons, List.tail_cons]
    dsimp only
    split
    · rename_i blank
      rw [List.takeWhile_cons_of_pos blank, List.flatten_cons]
    · rfl

/-- The line on which a block comment ends stops behind what follows on it. -/
theorem getElem_closing (cut : Text.lines comment = earlier ++ [last])
    (longer : Text.lines (comment ++ after) =
      earlier ++ (last ++ (Text.lines after).headD []) :: (Text.lines after).tail) :
    (placedLines (comment ++ after))[earlier.length]? =
      some ⟨Text.lineContent (last ++ (Text.lines after).headD []),
        utf8Size (comment ++ (Text.lines after).headD [])⟩ := by
  have parts : comment = earlier.flatten ++ last := by
    rw [← Text.flatten_lines comment, cut, List.flatten_append, List.flatten_singleton]
  rw [placedLines, longer, getElem_place, parts]
  simp only [Text.utf8Size_append, Nat.zero_add, Nat.add_assoc]

/-- What is left without some characters at the front stops where the whole does. -/
theorem minus_dropWhile (holds : Char → Bool) (front text : Text) :
    Ranged.minus (utf8Size front + utf8Size text) (utf8Size (text.dropWhile holds)) =
      .ok (utf8Size (front ++ text.takeWhile holds)) := by
  have rejoined : utf8Size (text.takeWhile holds) + utf8Size (text.dropWhile holds) =
      utf8Size text := by
    rw [← Text.utf8Size_append, List.takeWhile_append_dropWhile]
  rw [Ranged.minus_of_le (by omega), Text.utf8Size_append, ← rejoined, ← Nat.add_assoc,
    Nat.add_sub_cancel]

/-- What is stale behind a block comment is found with positions in range. -/
theorem measureThroughBlock_placedLines (cut : Text.lines comment = earlier ++ [last])
    (longer : Text.lines (comment ++ after) =
      earlier ++ (last ++ (Text.lines after).headD []) :: (Text.lines after).tail)
    {scanLines : Nat}
    (keyword : mentionsKeyword ((Text.lines comment).take scanLines).flatten = true) :
    measureThroughBlock (comment ++ after) (placedLines (comment ++ after)) (earlier.length + 1)
        (utf8Size comment) =
      .ok (judgeBlock scanLines comment after).measure := by
  have closing := getElem_closing cut longer
  set onLine := (Text.lines after).headD [] with isOnLine
  set below := (Text.lines after).tail with isBelow
  have parts : comment = earlier.flatten ++ last := by
    rw [← Text.flatten_lines comment, cut, List.flatten_append, List.flatten_singleton]
  have behind : after = onLine ++ below.flatten := by
    conv_lhs => rw [← Text.flatten_lines after]
    rw [isOnLine, isBelow]
    cases Text.lines after <;> rfl
  have sameLine : Ranged.between (comment ++ after) (utf8Size comment)
      (utf8Size (comment ++ onLine)) = .ok onLine := by
    conv_lhs => rw [behind, ← List.append_assoc]
    exact Ranged.between_append rfl rfl
  have inside : earlier.length + 1 ≤ (Text.lines (comment ++ after)).length := by
    simp [longer]
  have above : (Text.lines (comment ++ after)).take (earlier.length + 1) =
      earlier ++ [last ++ onLine] := by
    rw [longer, List.take_length_add_append, List.take_succ_cons, List.take_zero]
  have later : (Text.lines (comment ++ after)).drop (earlier.length + 1) = below := by
    rw [longer, List.drop_length_add_append, List.drop_succ_cons, List.drop_zero]
  rw [measureThroughBlock, Ranged.minus_of_le (Nat.le_add_left 1 _), Ranged.ok_bind,
    Nat.add_sub_cancel, Ranged.item, closing, judgeBlock_of_keyword keyword]
  simp only [Ranged.ok_bind, sameLine, Text.trim_isEmpty]
  split
  · rw [placedLines, skipBlank_place inside, Ranged.ok_bind, stopOf_skipBlank inside, above, later,
      Verdict.measure, List.flatten_append, List.flatten_append, List.flatten_singleton,
      ← List.append_assoc, ← parts, List.append_assoc]
    rfl
  · rw [Ranged.behind_append rfl, Ranged.ok_bind, minus_dropWhile]
    rfl

theorem measureBlock_placedLines (nonempty : comment ≠ [])
    (unended : comment.getLast? ≠ some '\n') (scanLines : Nat) :
    measureBlock scanLines (comment ++ after) (placedLines (comment ++ after))
        (Text.lines comment).length (utf8Size comment) =
      .ok (judgeBlock scanLines comment after).measure := by
  obtain ⟨earlier, last, cut, -, longer⟩ := Text.lines_append_of_open nonempty unended
  have height : (Text.lines comment).length = earlier.length + 1 := by simp [cut]
  have scanned := scanned_block cut (longer after) scanLines
  rw [measureBlock, height]
  by_cases none : min (earlier.length + 1) scanLines = 0
  · have unread : scanLines = 0 := by omega
    rw [if_pos none, judgeBlock, unread, List.take_zero]
    rfl
  · rw [if_neg none]
    cases stopped : stopOf (placedLines (comment ++ after))
      (min (earlier.length + 1) scanLines) with
    | error reason =>
      rw [stopped] at scanned
      cases scanned
    | ok stop =>
      rw [stopped, Ranged.ok_bind] at scanned
      rw [Ranged.ok_bind, scanned, Ranged.ok_bind]
      cases keyword : mentionsKeyword ((Text.lines comment).take scanLines).flatten with
      | false =>
        rw [judgeBlock, keyword]
        rfl
      | true => exact measureThroughBlock_placedLines cut (longer after) keyword

end Block

/-! ## The verdict and the fix -/

/-- The measure of a body is the one of its verdict, and no position is out of range on the way. -/
theorem measure_eq (kind : FileKind) (notice : Notice) (scanLines : Nat) (body : Text) :
    measure kind notice scanLines body = .ok (classify kind notice scanLines body).measure := by
  have opening : ((placedLines body).take kind.layout.lineCount).map PlacedLine.content =
      ((Text.lines body).take kind.layout.lineCount).map Text.lineContent := by
    rw [placedLines, take_place, content_place]
  rw [measure, classify, opening]
  split
  · rfl
  · cases cut : Text.lines body with
    | nil =>
      rw [judge, cut, placedLines, cut]
      rfl
    | cons first others =>
      rw [leadingComment_placedLines (closing_marks kind) cut, Ranged.ok_bind]
      cases top : region kind.marks body first with
      | block comment after =>
        obtain ⟨whole, nonempty, unended⟩ := block_spec (closing_marks kind) cut top
        rw [judge_of_block cut top, whole]
        exact measureBlock_placedLines nonempty unended scanLines
      | comments marker =>
        rw [judge_of_comments cut top, region_eq_comments top, placedLines, cut]
        exact measureComments_place scanLines marker (first :: others)
      | none =>
        rw [judge_of_none cut top, placedLines, cut]
        exact measureFirstLine_place scanLines (first :: others)

/-- The first line feed of a text is the one that ends its first line. -/
theorem findPosition_lineFeed {line : Text} (noFeed : '\n' ∉ line) (rest : Text) :
    findPosition? (line ++ '\n' :: rest) ['\n'] = some (utf8Size line) := by
  have first : Text.EndsFirst ['\n'] (line ++ ['\n']) := by
    refine ⟨List.suffix_append line _, ?_⟩
    rw [List.dropLast_concat, List.singleton_infix_iff]
    exact noFeed
  have found := Text.splitAfter_append (List.cons_ne_nil '\n' []) first rest
  rw [List.append_assoc, List.singleton_append] at found
  rw [findPosition_eq (List.cons_ne_nil '\n' []), found, Option.map_some]
  dsimp only
  rw [Text.utf8Size_append, Nat.add_sub_cancel]

theorem findPosition_of_noFeed {line : Text} (noFeed : '\n' ∉ line) :
    findPosition? line ['\n'] = none := by
  rw [findPosition_eq (List.cons_ne_nil '\n' []), Option.map_eq_none_iff,
    Text.splitAfter_eq_none_iff (List.cons_ne_nil '\n' []), List.singleton_infix_iff]
  exact noFeed

theorem split_eq (content : Text) : split content = .ok (Shebang.split content) := by
  cases script : Shebang.opens content with
  | false =>
    rw [split, Shebang.split_of_not_opens script, if_neg (by simp [script])]
    rfl
  | true =>
    rw [split, if_pos script]
    obtain ⟨line, noFeed, same, rfl | ⟨rest, rfl⟩⟩ := Shebang.split_of_opens script
    · rw [findPosition_of_noFeed noFeed, Shebang.split_lastLine noFeed same]
      rfl
    · have whole : line ++ '\n' :: rest = (line ++ ['\n']) ++ rest := by simp
      have size : utf8Size (line ++ ['\n']) = utf8Size line + 1 := Text.utf8Size_append line _
      rw [findPosition_lineFeed noFeed, Shebang.split_line_append rest noFeed same]
      dsimp only
      rw [whole, Ranged.before_append size, Ranged.ok_bind, Ranged.behind_append size]
      rfl

theorem dropBlankLines_eq (text : Text) : dropBlankLines text = .ok (Text.dropBlankLines text) := by
  rw [dropBlankLines, show (fun line : Text => line.trim.isEmpty) = isBlank from
    funext Text.trim_isEmpty, Text.sum_map_utf8Size]
  generalize front : ((Text.lines text).takeWhile isBlank).flatten = blank
  have parts := Text.takeBlankLines_append text
  rw [front] at parts
  conv_lhs => rw [← parts]
  exact Ranged.behind_append rfl

/-- The fixed content is put together with positions in range. -/
theorem fix_eq (kind : FileKind) (notice : Notice) (scanLines currentYear : Nat)
    (content : Text) :
    fix? kind notice scanLines currentYear content =
      .ok (Header.fix? kind notice scanLines currentYear content) := by
  rw [fix?, Header.fix?, split_eq, Ranged.ok_bind]
  dsimp only
  obtain ⟨kept, whole, -⟩ := classify_stale kind notice scanLines (Shebang.split content).2
  have remains := Ranged.behind_of_isPrefix ⟨kept, whole.symm⟩
  rw [measure_eq, Ranged.ok_bind, Verdict.measure]
  dsimp only
  split
  · rfl
  · rw [remains, Ranged.ok_bind, dropBlankLines_eq]
    rfl

/-- **No position is out of range.** For every body the verdict is found with all positions in
range, and what is stale by it is a number of whole characters at the front of the body. For every
content the fix is put together with all positions in range as well. -/
theorem positions_inRange (kind : FileKind) (notice : Notice) (scanLines currentYear : Nat) :
    (∀ body : Text, ∃ kept : Text,
      body = (classify kind notice scanLines body).stale ++ kept ∧
      measure kind notice scanLines body =
        .ok ⟨(classify kind notice scanLines body).status,
          utf8Size (classify kind notice scanLines body).stale⟩) ∧
    ∀ content : Text, fix? kind notice scanLines currentYear content =
      .ok (Header.fix? kind notice scanLines currentYear content) := by
  refine ⟨fun body => ?_, fix_eq kind notice scanLines currentYear⟩
  obtain ⟨kept, whole, -⟩ := classify_stale kind notice scanLines body
  exact ⟨kept, whole, measure_eq kind notice scanLines body⟩

end Offsets

end Hygiene.Header
