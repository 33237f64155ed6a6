import Hygiene.Text.Blank

/-!
# Lines

A text is cut into lines right after each line feed, so that the lines put
together again are the text. Every line but the last ends in a line feed, and
no line is empty. What stands on a line is the line without the line feeds and
carriage returns at its end.
-/

set_option autoImplicit false

namespace Hygiene.Text

/-- The lines of a text, each with its line feed. -/
def lines (text : Text) : List Text :=
  text.foldr
    (fun c later =>
      if c = '\n' then ['\n'] :: later
      else match later with
        | [] => [[c]]
        | line :: others => (c :: line) :: others)
    []

/-- What stands on a line: the line without its terminator. -/
def lineContent (line : Text) : Text :=
  line.dropEndWhile fun c => c = '\n' || c = '\r'

@[simp] theorem lines_nil : lines [] = [] := rfl

theorem lines_cons_lineFeed (rest : Text) : lines ('\n' :: rest) = ['\n'] :: lines rest := rfl

/-- The lines of a text make up the text. -/
theorem flatten_lines (text : Text) : (lines text).flatten = text := by
  induction text with
  | nil => rfl
  | cons c rest ih =>
    by_cases feed : c = '\n'
    · subst feed
      simp [lines_cons_lineFeed, ih]
    · have unfolded : lines (c :: rest) = match lines rest with
          | [] => [[c]]
          | line :: others => (c :: line) :: others := by
        simp only [lines, List.foldr_cons, if_neg feed]
      rw [unfolded]
      cases known : lines rest with
      | nil => simpa [known] using ih
      | cons line others => simpa [known] using ih

/-- The lines from the first one that is not blank. -/
def dropBlankLines (text : Text) : Text :=
  ((lines text).dropWhile isBlank).flatten

end Hygiene.Text
