import Mathlib.Data.List.Basic
import Mathlib.Data.List.TakeWhile
import Hygiene.Text.Line

/-!
# How lines make up a text

Every text is empty, or a last line without a line feed, or a line with its line feed in
front of another text (`lineInduction`). What is cut into lines stays cut the same way: the
lines of a text from one of them on, put together, have these lines again
(`lines_flatten_of_suffix`).

What is read up to the first item of another kind does not depend on what stands further behind
(`takeWhile_append_of_stops`), be the items characters or lines.

A text fits on a line when it has no line feed and no carriage return at its end. These are
the texts that a line gives back when they are written on it.
-/

set_option autoImplicit false

namespace Hygiene.Text

/-! ## Runs of items of one kind -/

/-- A run of items does not go on past an item that is not of the kind. -/
theorem takeWhile_append_of_stops {α : Type} {holds : α → Bool} {above below : List α}
    (stops : above.takeWhile holds = above → ∀ item ∈ below.head?, holds item = false) :
    (above ++ below).takeWhile holds = above.takeWhile holds := by
  rw [List.takeWhile_append]
  split
  · rename_i whole
    have all : above.takeWhile holds = above :=
      (List.takeWhile_prefix holds).eq_of_length whole
    rw [all]
    cases below with
    | nil => rw [List.takeWhile_nil, List.append_nil]
    | cons item below =>
      rw [List.takeWhile_cons_of_neg (by simp [stops all item rfl]), List.append_nil]
  · rfl

theorem takeWhile_append_cons_of_stop {α : Type} {holds : α → Bool} {above later : List α}
    {item : α} (stops : above.takeWhile holds = above → holds item = false) :
    (above ++ item :: later).takeWhile holds = above.takeWhile holds :=
  takeWhile_append_of_stops fun whole next first => by
    cases first
    exact stops whole

/-- A run of items that ends above an item either ends before or at an item of another kind. -/
theorem stops_of_length_le {α : Type} {holds : α → Bool} {above later : List α} {item : α}
    (short : ((above ++ item :: later).takeWhile holds).length ≤ above.length)
    (whole : above.takeWhile holds = above) : holds item = false := by
  rw [List.takeWhile_append, if_pos (congrArg List.length whole), List.length_append] at short
  by_contra goes
  rw [List.takeWhile_cons_of_pos (by simpa using goes), List.length_cons] at short
  omega

/-- Items of one kind are the run in front of what begins with another kind. -/
theorem takeWhile_append_eq_left {α : Type} {holds : α → Bool} {above below : List α}
    (all : ∀ item ∈ above, holds item = true) (stops : ∀ item ∈ below.head?, holds item = false) :
    (above ++ below).takeWhile holds = above :=
  (takeWhile_append_of_stops fun _ => stops).trans (List.takeWhile_eq_self_iff.mpr all)

/-! ## Line after line -/

theorem lines_cons_of_ne (c : Char) (rest : Text) (noFeed : c ≠ '\n') :
    lines (c :: rest) =
      match lines rest with
      | [] => [[c]]
      | line :: others => (c :: line) :: others := by
  rw [lines, List.foldr_cons, if_neg noFeed]
  rfl

/-- A text that begins with a line and its line feed has the line as its first one. -/
theorem lines_append_lineFeed (line rest : Text) (noFeed : '\n' ∉ line) :
    lines (line ++ '\n' :: rest) = (line ++ ['\n']) :: lines rest := by
  induction line with
  | nil => rfl
  | cons c line ih =>
    obtain ⟨here, later⟩ := List.ne_and_not_mem_of_not_mem_cons noFeed
    rw [List.cons_append, lines_cons_of_ne c _ (Ne.symm here), ih later]
    rfl

/-- A text without a line feed is one line. -/
theorem lines_of_noFeed (line : Text) (nonempty : line ≠ []) (noFeed : '\n' ∉ line) :
    lines line = [line] := by
  induction line with
  | nil => exact absurd rfl nonempty
  | cons c line ih =>
    obtain ⟨here, later⟩ := List.ne_and_not_mem_of_not_mem_cons noFeed
    rw [lines_cons_of_ne c _ (Ne.symm here)]
    cases line with
    | nil => rfl
    | cons d line => rw [ih (List.cons_ne_nil d line) later]

/-- What holds of the empty text and of every last line, and of a line in front of a text of
which it holds, holds of every text. -/
@[elab_as_elim]
theorem lineInduction {motive : Text → Prop} (empty : motive [])
    (last : ∀ line : Text, line ≠ [] → '\n' ∉ line → motive line)
    (feed : ∀ line rest : Text, '\n' ∉ line → motive rest → motive (line ++ '\n' :: rest))
    (text : Text) : motive text := by
  induction shorter : text.length using Nat.strongRecOn generalizing text with
  | _ size ih =>
    by_cases found : '\n' ∈ text
    · obtain ⟨line, rest, rfl, noFeed⟩ := List.eq_append_cons_of_mem found
      refine feed line rest noFeed (ih rest.length ?_ rest rfl)
      rw [← shorter, List.length_append, List.length_cons]
      omega
    · cases text with
      | nil => exact empty
      | cons c text => exact last (c :: text) (List.cons_ne_nil c text) found

/-- The lines of a text from one of them on are the lines of what they make up. -/
theorem lines_flatten_of_suffix {text : Text} {later : List Text}
    (suffix : later <:+ lines text) : lines later.flatten = later := by
  induction text using lineInduction with
  | empty =>
    rw [List.suffix_nil.mp suffix]
    rfl
  | last line nonempty noFeed =>
    rw [lines_of_noFeed line nonempty noFeed] at suffix
    rcases List.suffix_cons_iff.mp suffix with rfl | inside
    · rw [List.flatten_singleton, lines_of_noFeed line nonempty noFeed]
    · rw [List.suffix_nil.mp inside]
      rfl
  | feed line rest noFeed ih =>
    rw [lines_append_lineFeed line rest noFeed] at suffix
    rcases List.suffix_cons_iff.mp suffix with rfl | inside
    · rw [List.flatten_cons, flatten_lines, List.append_assoc, List.singleton_append,
        lines_append_lineFeed line rest noFeed]
    · exact ih inside

/-- The lines that follow the beginning of a text are not touched by how it is judged: they
are the lines of the rest of the text. -/
theorem lines_flatten_dropWhile (holds : Text → Bool) (text : Text) :
    lines ((lines text).dropWhile holds).flatten = (lines text).dropWhile holds :=
  lines_flatten_of_suffix (List.dropWhile_suffix holds)

/-- A text that is empty or ends in a line feed has its lines in front of those of any text
behind it. -/
theorem lines_append_of_ended {above : Text} (ended : ∀ c ∈ above.getLast?, c = '\n')
    (below : Text) : lines (above ++ below) = lines above ++ lines below := by
  induction above using lineInduction with
  | empty => rfl
  | last line nonempty noFeed =>
    have last := ended _ (List.getLast?_eq_some_getLast nonempty)
    exact absurd (last ▸ List.getLast_mem nonempty) noFeed
  | feed line rest noFeed ih =>
    have later : ∀ c ∈ rest.getLast?, c = '\n' := fun c last =>
      ended c (by rw [List.getLast?_append, List.getLast?_cons, last]; rfl)
    rw [List.append_assoc, List.cons_append, lines_append_lineFeed line _ noFeed,
      lines_append_lineFeed line rest noFeed, ih later, List.cons_append]

/-- The lines in front of one of the lines of a text are the lines of what they make up. Each of
them ends in a line feed, and so does what they make up. -/
theorem lines_flatten_of_append {text : Text} {above later : List Text} (below : later ≠ [])
    (cut : lines text = above ++ later) :
    lines above.flatten = above ∧ (∀ line ∈ above, line.getLast? = some '\n') ∧
      ∀ c ∈ above.flatten.getLast?, c = '\n' := by
  induction text using lineInduction generalizing above with
  | empty => exact absurd (List.append_eq_nil_iff.mp cut.symm).2 below
  | last line nonempty noFeed =>
    rw [lines_of_noFeed line nonempty noFeed] at cut
    cases above with
    | nil => exact ⟨rfl, by simp, by simp⟩
    | cons first others =>
      have rest := (List.cons.inj cut).2
      exact absurd (List.append_eq_nil_iff.mp rest.symm).2 below
  | feed line rest noFeed ih =>
    rw [lines_append_lineFeed line rest noFeed] at cut
    cases above with
    | nil => exact ⟨rfl, by simp, by simp⟩
    | cons first others =>
      obtain ⟨rfl, rest⟩ := List.cons.inj cut
      obtain ⟨same, ended, last⟩ := ih rest
      refine ⟨?_, List.forall_mem_cons.mpr ⟨List.getLast?_concat, ended⟩, ?_⟩
      · rw [List.flatten_cons, List.append_assoc, List.singleton_append,
          lines_append_lineFeed line _ noFeed, same]
      · intro c final
        rw [List.flatten_cons, List.getLast?_append, List.getLast?_concat] at final
        rcases Option.or_eq_some_iff.mp final with inside | ⟨-, here⟩
        · exact last c inside
        · exact (Option.some.inj here).symm

/-! ## What stands on a line -/

theorem isPrefix_dropEndWhile (text : Text) (drops : Char → Bool) :
    text.dropEndWhile drops <+: text := by
  rw [dropEndWhile, ← List.reverse_suffix, List.reverse_reverse]
  exact List.dropWhile_suffix drops

/-- A beginning whose last character stays is kept when the end of a text is dropped. -/
theorem dropEndWhile_append {left : Text} {drops : Char → Bool}
    (stays : ∀ c ∈ left.getLast?, drops c = false) (right : Text) :
    (left ++ right).dropEndWhile drops = left ++ right.dropEndWhile drops := by
  have kept : left.reverse.dropWhile drops = left.reverse := by
    rw [← List.head?_reverse] at stays
    cases reversed : left.reverse with
    | nil => rfl
    | cons c before =>
      rw [reversed] at stays
      exact List.dropWhile_cons_of_neg (by simp [stays c rfl])
  rw [dropEndWhile, dropEndWhile, List.reverse_append, List.dropWhile_append, kept]
  cases dropped : right.reverse.dropWhile drops with
  | nil => simp
  | cons c before => simp

/-- What stands on a line is the beginning of the line. -/
theorem isPrefix_lineContent (line : Text) : lineContent line <+: line :=
  isPrefix_dropEndWhile line _

/-- A text is what is left of it in front of the characters that are dropped. -/
theorem exists_droppedEnd (text : Text) (drops : Char → Bool) :
    ∃ ends : Text, text = text.dropEndWhile drops ++ ends ∧ ∀ c ∈ ends, drops c = true := by
  refine ⟨(text.reverse.takeWhile drops).reverse, ?_, fun c member => ?_⟩
  · rw [dropEndWhile, ← List.reverse_append, List.takeWhile_append_dropWhile,
      List.reverse_reverse]
  · exact List.mem_takeWhile_imp (List.mem_reverse.mp member)

/-- A line is what stands on it in front of line feeds and carriage returns. -/
theorem exists_lineEnd (line : Text) :
    ∃ ends : Text, line = lineContent line ++ ends ∧ ∀ c ∈ ends, c = '\n' ∨ c = '\r' := by
  obtain ⟨ends, whole, dropped⟩ := exists_droppedEnd line fun c => c = '\n' || c = '\r'
  exact ⟨ends, whole, fun c member => by simpa using dropped c member⟩

/-- No line feed stands on a line. -/
theorem noFeed_lineContent {text line : Text} (member : line ∈ lines text) :
    '\n' ∉ lineContent line := by
  induction text using lineInduction with
  | empty => exact absurd member List.not_mem_nil
  | last only nonempty noFeed =>
    rw [lines_of_noFeed only nonempty noFeed, List.mem_singleton] at member
    subst member
    exact fun feed => noFeed ((isPrefix_lineContent line).subset feed)
  | feed first rest noFeed ih =>
    rw [lines_append_lineFeed first rest noFeed, List.mem_cons] at member
    rcases member with rfl | later
    · have dropped : lineContent (first ++ ['\n']) = lineContent first := by
        simp [lineContent, dropEndWhile]
      rw [dropped]
      exact fun feed => noFeed ((isPrefix_lineContent first).subset feed)
    · exact ih later

/-! ## Blank beginnings -/

/-- A text is its blank beginning and what is left without it. -/
theorem takeWhile_append_trimStart (text : Text) :
    text.takeWhile isBlankChar ++ text.trimStart = text :=
  List.takeWhile_append_dropWhile

/-- Nothing stands on a blank line. -/
theorem trimStart_of_isBlank {text : Text} (blank : isBlank text = true) : text.trimStart = [] :=
  List.dropWhile_eq_nil_iff.mpr (List.all_eq_true.mp blank)

/-- A character of a text is blank, or it is left when the text is trimmed. -/
theorem mem_trim_or_blank {text : Text} {c : Char} (member : c ∈ text) :
    c ∈ text.trim ∨ isBlankChar c = true := by
  rw [← takeWhile_append_trimStart text, List.mem_append] at member
  rcases member with before | inside
  · exact .inr (List.mem_takeWhile_imp before)
  · obtain ⟨ends, whole, dropped⟩ := exists_droppedEnd text.trimStart isBlankChar
    rw [whole, List.mem_append] at inside
    exact inside.imp_right (dropped c)

theorem isBlank_append {left right : Text} (first : isBlank left = true)
    (second : isBlank right = true) : isBlank (left ++ right) = true := by
  rw [isBlank] at first second ⊢
  rw [List.all_append, first, second]
  rfl

/-- A line that is followed by another one ends in a line feed at least. -/
theorem exists_lineEnd_of_append {text : Text} {above later : List Text} (below : later ≠ [])
    (cut : lines text = above ++ later) : ∀ line ∈ above, ∃ ends : Text,
      line = lineContent line ++ ends ∧ ends ≠ [] ∧ ∀ c ∈ ends, c = '\n' ∨ c = '\r' := by
  intro line member
  obtain ⟨-, ended, -⟩ := lines_flatten_of_append below cut
  obtain ⟨ends, whole, marks⟩ := exists_lineEnd line
  refine ⟨ends, whole, ?_, marks⟩
  rintro rfl
  have last := ended line member
  rw [whole, List.append_nil] at last
  have inside : line ∈ lines text := cut ▸ List.mem_append_left later member
  exact noFeed_lineContent inside (List.mem_of_getLast? last)

/-- A line is blank when what stands on it is. -/
theorem isBlank_lineContent (line : Text) : isBlank (lineContent line) = isBlank line := by
  obtain ⟨ends, whole, marks⟩ := exists_lineEnd line
  have white : ends.all isBlankChar = true :=
    List.all_eq_true.mpr fun c member => by rcases marks c member with rfl | rfl <;> rfl
  conv_rhs => rw [whole]
  rw [isBlank, isBlank, List.all_append, white, Bool.and_true]

/-- Characters of which each is blank make up a blank text. -/
theorem isBlank_takeWhile {drops : Char → Bool} (text : Text)
    (blank : ∀ c, drops c = true → isBlankChar c = true) :
    isBlank (text.takeWhile drops) = true := by
  rw [isBlank, List.all_eq_true]
  exact fun c member => blank c (List.mem_takeWhile_imp member)

/-- A text is blank lines in front of what is left without them. -/
theorem takeBlankLines_append (text : Text) :
    ((lines text).takeWhile isBlank).flatten ++ dropBlankLines text = text := by
  rw [dropBlankLines, ← List.flatten_append, List.takeWhile_append_dropWhile, flatten_lines]

/-- Lines that are blank make up a blank text. -/
theorem isBlank_flatten {texts : List Text} (blank : ∀ text ∈ texts, isBlank text = true) :
    isBlank texts.flatten = true := by
  rw [isBlank, List.all_flatten, List.all_eq_true]
  exact blank

theorem isBlank_takeWhile_flatten (texts : List Text) :
    isBlank (texts.takeWhile isBlank).flatten = true :=
  isBlank_flatten fun _ member => List.mem_takeWhile_imp member

/-- What is left without the blank lines at the front does not begin with a blank line. -/
theorem dropBlankLines_head (text : Text) :
    ∀ line ∈ (lines (dropBlankLines text)).head?, isBlank line = false := by
  intro line first
  rw [dropBlankLines, lines_flatten_dropWhile] at first
  have stops := List.head?_dropWhile_not isBlank (lines text)
  rw [first] at stops
  simpa using stops

/-! ## Texts that fit on a line -/

/-- A text that a line gives back when it is written on it: it has no line feed, and no
carriage return at its end. -/
def FitsLine (text : Text) : Prop :=
  '\n' ∉ text ∧ text.getLast? ≠ some '\r'

instance (text : Text) : Decidable (FitsLine text) :=
  inferInstanceAs (Decidable (_ ∧ _))

/-- What stands on a line is what was written on it, when that fits. -/
theorem lineContent_terminated {text : Text} (fits : FitsLine text) :
    lineContent (text ++ ['\n']) = text := by
  obtain ⟨noFeed, noReturn⟩ := fits
  simp only [lineContent, dropEndWhile, List.reverse_append, List.reverse_singleton,
    List.singleton_append]
  rw [List.dropWhile_cons_of_pos (by simp)]
  cases reversed : text.reverse with
  | nil => exact (List.reverse_eq_nil_iff.mp reversed).symm
  | cons c before =>
    have written : text = before.reverse ++ [c] := by
      rw [← List.reverse_cons, ← reversed, List.reverse_reverse]
    have noFeedHere : c ≠ '\n' := by
      rintro rfl
      exact noFeed (by simp [written])
    have noReturnHere : c ≠ '\r' := by
      rintro rfl
      exact noReturn (by simp [written])
    rw [List.dropWhile_cons_of_neg (by simp [noFeedHere, noReturnHere]), List.reverse_cons,
      written]

theorem FitsLine.append {left right : Text} (first : FitsLine left) (second : FitsLine right) :
    FitsLine (left ++ right) := by
  refine ⟨by simp [first.1, second.1], ?_⟩
  rw [List.getLast?_append]
  cases last : right.getLast? with
  | none => simpa using first.2
  | some c => simpa [last] using second.2

/-- A text fits on a line behind any character that is no end of a line. -/
theorem FitsLine.cons {c : Char} {text : Text} (noFeed : c ≠ '\n') (noReturn : c ≠ '\r')
    (fits : FitsLine text) : FitsLine (c :: text) := by
  have single : FitsLine [c] := by simp [FitsLine, Ne.symm noFeed, noReturn]
  exact single.append fits

/-- The lines of texts that are written one on a line are these texts, and then the lines of
what follows. -/
theorem lines_terminated_append {texts : List Text} (noFeed : ∀ text ∈ texts, '\n' ∉ text)
    (rest : Text) :
    lines ((texts.map (· ++ ['\n'])).flatten ++ rest) = texts.map (· ++ ['\n']) ++ lines rest := by
  induction texts with
  | nil => rfl
  | cons text texts ih =>
    have later := ih fun other member => noFeed other (List.mem_cons_of_mem text member)
    rw [List.map_cons, List.flatten_cons, List.append_assoc, List.append_assoc,
      List.singleton_append, lines_append_lineFeed text _ (noFeed text List.mem_cons_self), later,
      List.cons_append]

/-- The first of several lines that are joined is a line of its own. -/
theorem lines_join_append {first : Text} (noFeed : '\n' ∉ first) (second : Text)
    (others : List Text) (rest : Text) :
    lines (join ['\n'] (first :: second :: others) ++ rest) =
      (first ++ ['\n']) :: lines (join ['\n'] (second :: others) ++ rest) := by
  have split : join ['\n'] (first :: second :: others) ++ rest =
      first ++ '\n' :: (join ['\n'] (second :: others) ++ rest) := by
    simp [join]
  rw [split, lines_append_lineFeed first _ noFeed]

/-- Texts joined by line feeds, with one more at the end, are written one on a line. -/
theorem join_lineFeed_append (texts : List Text) (nonempty : texts ≠ []) :
    join ['\n'] texts ++ ['\n'] = (texts.map (· ++ ['\n'])).flatten := by
  induction texts with
  | nil => exact absurd rfl nonempty
  | cons text texts ih =>
    cases texts with
    | nil => simp [join]
    | cons other others =>
      have later := ih (List.cons_ne_nil other others)
      rw [List.map_cons, List.flatten_cons, ← later]
      simp [join]

/-- A line feed that ends a line ends what can begin with a text that has none. -/
theorem isPrefixOf_append_lineFeed (beginning line rest : Text) (noFeed : '\n' ∉ beginning) :
    beginning.isPrefixOf (line ++ '\n' :: rest) = beginning.isPrefixOf line := by
  induction beginning generalizing line with
  | nil => simp
  | cons c beginning ih =>
    obtain ⟨here, later⟩ := List.ne_and_not_mem_of_not_mem_cons noFeed
    cases line with
    | nil => simp [List.isPrefixOf, Ne.symm here]
    | cons d line => simp [List.isPrefixOf, ih line later]

end Hygiene.Text
