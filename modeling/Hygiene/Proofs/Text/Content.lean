import Hygiene.Proofs.Text.Lines

/-!
# Lines and their contents

What stands on a line is what is trimmed of it: the end of a line is blank, so it makes no
difference to the trimmed line (`trim_lineContent`). Text that is added behind an unfinished line
goes on with that line, and what follows is lines of their own (`lines_append_of_open`).
-/

set_option autoImplicit false

namespace Hygiene.Text

/-! ## Trimmed texts -/

theorem trim_isEmpty (text : Text) : text.trim.isEmpty = isBlank text := by
  cases blank : isBlank text with
  | true =>
    rw [trim, trimStart_of_isBlank blank]
    rfl
  | false =>
    obtain ⟨c, member, solid⟩ := List.all_eq_false.mp blank
    rcases mem_trim_or_blank member with inside | white
    · rw [List.isEmpty_eq_false_iff]
      exact List.ne_nil_of_mem inside
    · exact absurd white solid

theorem trim_isEmpty_lineContent (line : Text) :
    (lineContent line).trim.isEmpty = isBlank line := by
  rw [trim_isEmpty, isBlank_lineContent]

theorem trimStart_append_of_not_isBlank {text : Text} (solid : isBlank text = false)
    (more : Text) : (text ++ more).trimStart = text.trimStart ++ more := by
  rw [trimStart, List.dropWhile_append]
  split
  · rename_i none
    rw [List.isEmpty_iff, List.dropWhile_eq_nil_iff] at none
    rw [isBlank, List.all_eq_true.mpr none] at solid
    cases solid
  · rfl

theorem trimEnd_append_of_blank (text : Text) {ends : Text} (white : isBlank ends = true) :
    (text ++ ends).trimEnd = text.trimEnd := by
  rw [trimEnd, Text.dropEndWhile, List.reverse_append, List.dropWhile_append,
    List.dropWhile_eq_nil_iff.mpr]
  · rfl
  · intro c member
    exact List.all_eq_true.mp white c (List.mem_reverse.mp member)

/-- The end of a line is blank, so it is trimmed with the blank characters in front of it. -/
theorem trim_lineContent (line : Text) : (lineContent line).trim = line.trim := by
  obtain ⟨ends, whole, marks⟩ := exists_lineEnd line
  have white : isBlank ends = true :=
    List.all_eq_true.mpr fun c member => by rcases marks c member with rfl | rfl <;> rfl
  cases blank : isBlank (lineContent line) with
  | true =>
    rw [trim, trim, trimStart_of_isBlank blank, trimStart_of_isBlank]
    rw [← isBlank_lineContent, blank]
  | false =>
    conv_rhs => rw [whole, trim, trimStart_append_of_not_isBlank blank,
      trimEnd_append_of_blank _ white]
    rfl

/-! ## Texts that are put together -/

/-- A text with something in it has a line. -/
theorem length_lines_pos {text : Text} (nonempty : text ≠ []) : 0 < (lines text).length := by
  rw [List.length_pos_iff]
  intro none
  have whole := flatten_lines text
  rw [none] at whole
  exact nonempty whole.symm

/-- Text behind a line without a line feed goes on with the line. -/
theorem lines_append_of_noFeed {line : Text} (nonempty : line ≠ []) (noFeed : '\n' ∉ line)
    (below : Text) :
    lines (line ++ below) = (line ++ (lines below).headD []) :: (lines below).tail := by
  induction line with
  | nil => exact absurd rfl nonempty
  | cons c line ih =>
    obtain ⟨here, later⟩ := List.ne_and_not_mem_of_not_mem_cons noFeed
    rw [List.cons_append, lines_cons_of_ne c _ (Ne.symm here)]
    cases line with
    | nil =>
      rw [List.nil_append]
      cases lines below <;> rfl
    | cons d line =>
      rw [ih (List.cons_ne_nil d line) later]
      rfl

/-- Text behind an unfinished line goes on with that line, and the rest is lines of their own. -/
theorem lines_append_of_open {above : Text} (nonempty : above ≠ [])
    (unended : above.getLast? ≠ some '\n') :
    ∃ earlier last, lines above = earlier ++ [last] ∧ last ≠ [] ∧ ∀ below,
      lines (above ++ below) =
        earlier ++ (last ++ (lines below).headD []) :: (lines below).tail := by
  induction above using lineInduction with
  | empty => exact absurd rfl nonempty
  | last line filled noFeed =>
    exact ⟨[], line, lines_of_noFeed line filled noFeed, filled,
      lines_append_of_noFeed filled noFeed⟩
  | feed line rest noFeed ih =>
    rw [List.getLast?_append, List.getLast?_cons] at unended
    cases last : rest.getLast? with
    | none => exact absurd (by rw [last]; rfl) unended
    | some c =>
      have filled : rest ≠ [] := by
        rintro rfl
        cases last
      obtain ⟨earlier, final, cut, solid, longer⟩ := ih filled (by simpa [last] using unended)
      refine ⟨(line ++ ['\n']) :: earlier, final, ?_, solid, fun below => ?_⟩
      · rw [lines_append_lineFeed line rest noFeed, cut, List.cons_append]
      · rw [List.append_assoc, List.cons_append, lines_append_lineFeed line _ noFeed,
          longer below, List.cons_append]

end Hygiene.Text
