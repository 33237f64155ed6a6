import Hygiene.Header.Fix
import Hygiene.Proofs.Text.Fields
import Hygiene.Proofs.Text.Lines

/-!
# The shebang line stays on top

Splitting off a shebang line takes nothing away (`split_append`). A text that begins with
the shebang line of another text is split in the same place, whatever follows the line, and
a line feed is put at the end of the line when it had none (`split_terminated_append`). The
line feed does not change which interpreter the line asks for (`kind_terminated`).
-/

set_option autoImplicit false

namespace Hygiene.Shebang

open Header (terminated)

/-- Whether a text begins with a shebang line is seen on its first line. -/
theorem opens_append_lineFeed (line rest : Text) :
    opens (line ++ '\n' :: rest) = opens line := by
  rw [opens, opens, Text.isPrefixOf_append_lineFeed mark line rest (by decide),
    Text.isPrefixOf_append_lineFeed attributeMark line rest (by decide)]

theorem ne_nil_of_opens {content : Text} (script : opens content = true) : content ≠ [] := by
  rintro rfl
  exact absurd script (by decide)

theorem split_of_not_opens {content : Text} (plain : opens content = false) :
    split content = (none, content) := by
  rw [split, if_neg (by simp [plain])]

/-- The shebang line of a text is split off behind its line feed. -/
theorem split_line_append {line : Text} (rest : Text) (noFeed : '\n' ∉ line)
    (script : opens line = true) :
    split (line ++ '\n' :: rest) = (some (line ++ ['\n']), rest) := by
  rw [split, if_pos ((opens_append_lineFeed line rest).trans script),
    Text.lines_append_lineFeed line rest noFeed]
  simp

/-- A shebang line without a line feed is the whole text. -/
theorem split_lastLine {line : Text} (noFeed : '\n' ∉ line) (script : opens line = true) :
    split line = (some line, []) := by
  rw [split, if_pos script, Text.lines_of_noFeed line (ne_nil_of_opens script) noFeed]
  simp

/-- A text that begins with a shebang line is this line, alone or in front of the rest. -/
theorem split_of_opens {content : Text} (script : opens content = true) :
    ∃ line : Text, '\n' ∉ line ∧ opens line = true ∧
      (content = line ∨ ∃ rest, content = line ++ '\n' :: rest) := by
  by_cases found : '\n' ∈ content
  · obtain ⟨line, rest, rfl, noFeed⟩ := List.eq_append_cons_of_mem found
    exact ⟨line, noFeed, (opens_append_lineFeed line rest).symm.trans script, .inr ⟨rest, rfl⟩⟩
  · exact ⟨content, found, script, .inl rfl⟩

/-- The shebang line and the text below it make up the content. -/
theorem split_append (content : Text) :
    (split content).1.getD [] ++ (split content).2 = content := by
  cases script : opens content with
  | false =>
    rw [split_of_not_opens script]
    rfl
  | true =>
    obtain ⟨line, noFeed, same, rfl | ⟨rest, rfl⟩⟩ := split_of_opens script
    · rw [split_lastLine noFeed same]
      exact List.append_nil content
    · rw [split_line_append rest noFeed same]
      exact List.append_assoc line ['\n'] rest

theorem terminated_of_noFeed {line : Text} (noFeed : '\n' ∉ line) :
    terminated line = line ++ ['\n'] := by
  rw [terminated, if_neg]
  intro last
  exact noFeed (List.mem_of_getLast? last)

theorem terminated_append_lineFeed (line : Text) :
    terminated (line ++ ['\n']) = line ++ ['\n'] := by
  rw [terminated, if_pos List.getLast?_concat]

/-- The shebang line of a text is split off just the same when another text stands below it,
provided that this text does not begin with a shebang line itself. -/
theorem split_terminated_append (content : Text) {body : Text} (plain : opens body = false) :
    split (((split content).1.map terminated).getD [] ++ body) =
      ((split content).1.map terminated, body) := by
  cases script : opens content with
  | false =>
    rw [split_of_not_opens script]
    exact split_of_not_opens plain
  | true =>
    have below : ∀ line : Text, '\n' ∉ line → opens line = true →
        split (line ++ ['\n'] ++ body) = (some (line ++ ['\n']), body) := by
      intro line noFeed same
      rw [List.append_assoc, List.singleton_append]
      exact split_line_append body noFeed same
    obtain ⟨line, noFeed, same, rfl | ⟨rest, rfl⟩⟩ := split_of_opens script
    · simpa [split_lastLine noFeed same, terminated_of_noFeed noFeed] using
        below content noFeed same
    · simpa [split_line_append rest noFeed same, terminated_append_lineFeed] using
        below line noFeed same

/-! ## The interpreter -/

theorem beginning_of_opens {line : Text} (script : opens line = true) :
    ∃ rest : Text, line = mark ++ rest := by
  rw [opens, Bool.and_eq_true, List.isPrefixOf_iff_prefix] at script
  obtain ⟨⟨rest, same⟩, -⟩ := script
  exact ⟨rest, same.symm⟩

theorem dropBeginning_append (beginning rest : Text) :
    Text.dropBeginning? (beginning ++ rest) beginning = some rest := by
  rw [Text.dropBeginning?, if_pos (List.isPrefixOf_iff_prefix.mpr (List.prefix_append _ _)),
    List.drop_left]

/-- A line feed at the end of a shebang line is no part of what the line asks for. -/
theorem kind_append_lineFeed {line : Text} (script : opens line = true) :
    kind? (line ++ ['\n']) = kind? line := by
  obtain ⟨rest, rfl⟩ := beginning_of_opens script
  have words := Text.words_append_blank rest (show isBlankChar '\n' = true by decide)
  simp only [kind?, interpreter?, List.append_assoc, dropBeginning_append, Option.bind_some,
    words]

/-- With a line feed at its end, a shebang line asks for the same interpreter. -/
theorem kind_terminated (content : Text) :
    ((split content).1.map terminated).bind kind? = (split content).1.bind kind? := by
  cases script : opens content with
  | false =>
    rw [split_of_not_opens script]
    rfl
  | true =>
    obtain ⟨line, noFeed, same, rfl | ⟨rest, rfl⟩⟩ := split_of_opens script
    · rw [split_lastLine noFeed same, Option.map_some, terminated_of_noFeed noFeed]
      exact kind_append_lineFeed same
    · rw [split_line_append rest noFeed same, Option.map_some, terminated_append_lineFeed]

/-- A text that asks for an interpreter begins like a script. -/
theorem beginning_of_kind {content : Text} {kind : FileKind}
    (known : (split content).1.bind kind? = some kind) :
    ∃ rest : Text, content = '#' :: '!' :: rest := by
  cases script : opens content with
  | false =>
    rw [split_of_not_opens script] at known
    cases known
  | true => exact beginning_of_opens script

end Hygiene.Shebang
