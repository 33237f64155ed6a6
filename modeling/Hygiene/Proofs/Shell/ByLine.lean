import Mathlib.Data.List.Basic
import Hygiene.Proofs.Text.Listed
import Hygiene.Proofs.Text.Returns
import Hygiene.Shell.Directive

/-!
# Directives are asked for line by line

Which directives a script lacks depends on the set of its lines without the blanks at their ends
(`trimmedLines`), and on nothing else. Two scripts with a line feed between them lack what both of
them lack. The first one may end with a line feed, a carriage return or neither: one more empty
line gives no directive, and blanks at the end of a line do not matter
(`trimmedLines_lineFeed_cases`).

So the lines of a script can be written in another order, more than once, with other blanks around
them or with other line ends (`Shows`), and a line that is added only takes directives from those
that are missing (`missingDirectives_byLine`).
-/

set_option autoImplicit false

namespace Hygiene.Shell

open Text (isBlank)

/-! ## The lines of a script -/

/-- The lines of a script without the blanks at their ends. -/
def trimmedLines (content : Text) : List Text :=
  (Text.lines content).map Text.trim

/-- Blanks on one line. -/
structure Gap (text : Text) : Prop where
  blank : isBlank text = true
  noFeed : '\n' ∉ text

/-- A script shows texts on its lines. Blanks may stand around each text, and a line feed stands
behind each line, except that the last one can do without. A carriage return in front of a line
feed is one of the blanks. -/
inductive Shows : List Text → Text → Prop where
  | nothing : Shows [] []
  | last {front text ends : Text} (before : Gap front) (behind : Gap ends) (noFeed : '\n' ∉ text)
      (filled : front ++ text ++ ends ≠ []) : Shows [text] (front ++ text ++ ends)
  | line {front text ends rest : Text} {texts : List Text} (before : Gap front)
      (behind : Gap ends) (noFeed : '\n' ∉ text) (below : Shows texts rest) :
      Shows (text :: texts) (front ++ text ++ ends ++ '\n' :: rest)

theorem trimmedLines_line {line : Text} (noFeed : '\n' ∉ line) (rest : Text) :
    trimmedLines (line ++ '\n' :: rest) = line.trim :: trimmedLines rest := by
  have white : isBlank ['\n'] = true := by decide
  rw [trimmedLines, Text.lines_append_lineFeed line rest noFeed, List.map_cons,
    Text.trim_append_blank line white]
  rfl

theorem trimmedLines_last {line : Text} (filled : line ≠ []) (noFeed : '\n' ∉ line) :
    trimmedLines line = [line.trim] := by
  rw [trimmedLines, Text.lines_of_noFeed line filled noFeed, List.map_singleton]

theorem Gap.trim_eq {front ends : Text} (before : Gap front) (behind : Gap ends) (text : Text) :
    (front ++ text ++ ends).trim = text.trim := by
  rw [Text.trim_append_blank _ behind.blank, Text.trim_blank_append before.blank]

theorem Gap.noFeed_around {front ends text : Text} (before : Gap front) (behind : Gap ends)
    (noFeed : '\n' ∉ text) : '\n' ∉ front ++ text ++ ends := by
  simp only [List.mem_append, not_or]
  exact ⟨⟨before.noFeed, noFeed⟩, behind.noFeed⟩

/-- What a script shows on its lines are its lines, up to blanks. -/
theorem Shows.trimmedLines_eq {texts : List Text} {content : Text} (shows : Shows texts content) :
    trimmedLines content = texts.map Text.trim := by
  induction shows with
  | nothing => rfl
  | last before behind noFeed filled =>
    rw [trimmedLines_last filled (before.noFeed_around behind noFeed), before.trim_eq behind]
    rfl
  | line before behind noFeed below ih =>
    rw [trimmedLines_line (before.noFeed_around behind noFeed), before.trim_eq behind, ih]
    rfl

/-- A line is what trimming leaves of it between blanks. -/
theorem exists_gaps {line : Text} (noFeed : '\n' ∉ line) :
    ∃ front ends : Text, line = front ++ line.trim ++ ends ∧ Gap front ∧ Gap ends ∧
      '\n' ∉ line.trim := by
  obtain ⟨front, ends, whole, before, behind⟩ := Text.exists_around_trim line
  have apart := noFeed
  rw [whole] at apart
  simp only [List.mem_append, not_or] at apart
  exact ⟨front, ends, whole, ⟨before, apart.1.1⟩, ⟨behind, apart.2⟩, apart.1.2⟩

/-- Every script shows its trimmed lines. -/
theorem shows_trimmedLines (content : Text) : Shows (trimmedLines content) content := by
  induction content using Text.lineInduction with
  | empty => exact .nothing
  | last line filled noFeed =>
    obtain ⟨front, ends, whole, before, behind, plain⟩ := exists_gaps noFeed
    rw [trimmedLines_last filled noFeed]
    have shown : Shows [line.trim] (front ++ line.trim ++ ends) :=
      .last before behind plain (whole ▸ filled)
    rwa [← whole] at shown
  | feed line rest noFeed ih =>
    obtain ⟨front, ends, whole, before, behind, plain⟩ := exists_gaps noFeed
    rw [trimmedLines_line noFeed]
    have shown := Shows.line before behind plain ih
    rwa [← whole] at shown

/-- A line feed behind a script ends its last line, or it is an empty line. -/
theorem trimmedLines_lineFeed_cases (content : Text) :
    trimmedLines (content ++ ['\n']) = trimmedLines content ∨
      trimmedLines (content ++ ['\n']) = trimmedLines content ++ [[]] := by
  induction content using Text.lineInduction with
  | empty => exact .inr rfl
  | last line filled noFeed =>
    left
    rw [trimmedLines_line noFeed [], trimmedLines_last filled noFeed]
    rfl
  | feed line rest noFeed ih =>
    rw [List.append_assoc, List.cons_append, trimmedLines_line noFeed, trimmedLines_line noFeed]
    rcases ih with same | longer
    · left
      rw [same]
    · right
      rw [longer]
      rfl

theorem trimmedLines_joined (above below : Text) :
    trimmedLines (above ++ '\n' :: below) =
      trimmedLines (above ++ ['\n']) ++ trimmedLines below := by
  have ended : ∀ c ∈ (above ++ ['\n']).getLast?, c = '\n' := by simp
  have cut := Text.lines_append_of_ended ended below
  rw [List.append_assoc, List.singleton_append] at cut
  rw [trimmedLines, cut, List.map_append]
  rfl

/-- Carriage returns in front of the line feeds are trimmed off. -/
theorem trimmedLines_withReturns (content : Text) :
    trimmedLines (Text.withReturns content) = trimmedLines content := by
  induction content using Text.lineInduction with
  | empty => rfl
  | last line filled noFeed => rw [Text.withReturns_of_noFeed noFeed]
  | feed line rest noFeed ih =>
    have white : isBlank ['\r'] = true := by decide
    have other : '\n' ∉ line ++ ['\r'] := by simp [noFeed]
    rw [Text.withReturns_append_lineFeed noFeed, trimmedLines_line other, trimmedLines_line noFeed,
      ih, Text.trim_append_blank line white]

/-! ## Directives -/

/-- Whether some line of a script gives a directive. -/
def gives (content : Text) (directive : Directive) : Bool :=
  (trimmedLines content).any directive.isGivenBy

theorem missingDirectives_eq (content : Text) :
    missingDirectives content =
      requiredDirectives.filter fun directive => !gives content directive :=
  rfl

theorem mem_missingDirectives {content : Text} {directive : Directive} :
    directive ∈ missingDirectives content ↔
      directive ∈ requiredDirectives ∧ gives content directive = false := by
  rw [missingDirectives_eq, List.mem_filter, Bool.not_eq_true']

/-- No directive is given by an empty line. -/
theorem not_isGivenBy_nil {directive : Directive} (required : directive ∈ requiredDirectives) :
    directive.isGivenBy [] = false := by
  have all : ∀ directive ∈ requiredDirectives, directive.isGivenBy [] = false := by decide
  exact all directive required

/-- A directive is given in one of two scripts when it is given in the whole. -/
theorem gives_joined {directive : Directive} (required : directive ∈ requiredDirectives)
    (above below : Text) :
    gives (above ++ '\n' :: below) directive = (gives above directive || gives below directive) := by
  have ended : gives (above ++ ['\n']) directive = gives above directive := by
    rcases trimmedLines_lineFeed_cases above with same | longer
    · rw [gives, same, gives]
    · rw [gives, longer, List.any_append, List.any_cons, not_isGivenBy_nil required]
      simp [gives]
  rw [gives, trimmedLines_joined, List.any_append, ← gives, ended, ← gives]

/-- More lines give at least as much. -/
theorem gives_mono {content other : Text}
    (subset : ∀ line ∈ trimmedLines content, line ∈ trimmedLines other) {directive : Directive}
    (given : gives content directive = true) : gives other directive = true := by
  rw [gives, List.any_eq_true] at given ⊢
  obtain ⟨line, member, gives⟩ := given
  exact ⟨line, subset line member, gives⟩

theorem missingDirectives_antitone {content other : Text}
    (subset : ∀ line ∈ trimmedLines content, line ∈ trimmedLines other) :
    (missingDirectives other).Sublist (missingDirectives content) := by
  rw [missingDirectives_eq, missingDirectives_eq]
  apply List.monotone_filter_right
  intro directive missing
  rw [Bool.not_eq_true'] at missing ⊢
  by_contra given
  rw [Bool.not_eq_false] at given
  have also : gives other directive = true := gives_mono subset given
  cases also.symm.trans missing

/-- **Directives combine by lines.** Two scripts with a line feed between them lack what both of
them lack, in the order of the report. What a script lacks depends on the set of its trimmed lines
only, in whatever order, how often and with which blanks and line ends they are written, and a
script with more lines lacks no more. -/
theorem missingDirectives_byLine :
    (∀ above below : Text,
      missingDirectives (above ++ '\n' :: below) =
        requiredDirectives.filter fun directive =>
          directive ∈ missingDirectives above ∧ directive ∈ missingDirectives below) ∧
      (∀ content other : Text, (∀ line, line ∈ trimmedLines content ↔ line ∈ trimmedLines other) →
        missingDirectives content = missingDirectives other) ∧
      (∀ (texts others : List Text) (content other : Text), Shows texts content →
        Shows others other → (∀ text, text ∈ texts ↔ text ∈ others) →
          missingDirectives content = missingDirectives other) ∧
      (∀ content : Text, missingDirectives (Text.withReturns content) = missingDirectives content) ∧
      ∀ content other : Text, (∀ line ∈ trimmedLines content, line ∈ trimmedLines other) →
        (missingDirectives other).Sublist (missingDirectives content) := by
  have bySet : ∀ content other : Text,
      (∀ line, line ∈ trimmedLines content ↔ line ∈ trimmedLines other) →
        missingDirectives content = missingDirectives other := by
    intro content other same
    apply List.Sublist.antisymm
    · exact missingDirectives_antitone fun line => (same line).mpr
    · exact missingDirectives_antitone fun line => (same line).mp
  refine ⟨?_, bySet, ?_, ?_, fun content other => missingDirectives_antitone⟩
  · intro above below
    rw [missingDirectives_eq]
    apply List.filter_congr
    intro directive required
    rw [gives_joined required above below]
    simp [mem_missingDirectives, required]
  · intro texts others content other shows also same
    apply bySet
    intro line
    rw [shows.trimmedLines_eq, also.trimmedLines_eq, List.mem_map, List.mem_map]
    simp only [same]
  · intro content
    apply bySet
    intro line
    rw [trimmedLines_withReturns]

/-- Two lines in another order, with other blanks and line ends. -/
theorem missingDirectives_byLine_reordered :
    Shows ["set -e".toList, "# no_pipefail".toList] "set -e\n# no_pipefail".toList ∧
      Shows ["# no_pipefail".toList, "set -e".toList] "\t# no_pipefail\r\nset -e\n".toList ∧
      missingDirectives "set -e\n# no_pipefail".toList =
        missingDirectives "\t# no_pipefail\r\nset -e\n".toList := by
  have shows : Shows ["set -e".toList, "# no_pipefail".toList]
      "set -e\n# no_pipefail".toList :=
    shows_trimmedLines "set -e\n# no_pipefail".toList
  have also : Shows ["# no_pipefail".toList, "set -e".toList]
      "\t# no_pipefail\r\nset -e\n".toList :=
    shows_trimmedLines "\t# no_pipefail\r\nset -e\n".toList
  refine ⟨shows, also, missingDirectives_byLine.2.2.1 _ _ _ _ shows also ?_⟩
  intro text
  simp only [List.mem_cons, List.not_mem_nil, or_false]
  exact Or.comm

end Hygiene.Shell
