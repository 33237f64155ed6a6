import Hygiene.Proofs.Header.Accepted
import Hygiene.Proofs.Header.Paragraphs

/-!
# Blank lines hide what stands below them

A notice is looked for from the first line of a body on. A blank line there is no comment, and no
keyword stands on it, so nothing is found below it (`classify_blankLines`). The fix then writes the
notice above all of the body, and only the blank lines are gone.

So blank lines in front of a body change nothing exactly when the fix has nothing to remove from
the body (`fix_blankLines`). They are not skipped before the header is judged. An earlier notice
below them is kept, and the same notice is written a second time (`fix_blankLines_hide`).
-/

set_option autoImplicit false

namespace Hygiene

/-! ## Blank lines in front of a text -/

namespace Text

/-- Blank lines, each with its line feed. -/
structure BlankLines (text : Text) : Prop where
  blank : isBlank text = true
  ended : ∀ c ∈ text.getLast?, c = '\n'

theorem blankLines_iff (text : Text) :
    (isBlank text && text.getLast?.all (· == '\n')) = true ↔ BlankLines text := by
  rw [Bool.and_eq_true, Option.all_eq_true]
  constructor
  · rintro ⟨blank, ended⟩
    exact ⟨blank, fun c last => beq_iff_eq.mp (ended c last)⟩
  · rintro ⟨blank, ended⟩
    exact ⟨blank, fun c last => beq_iff_eq.mpr (ended c last)⟩

instance (text : Text) : Decidable (BlankLines text) :=
  decidable_of_iff _ (blankLines_iff text)

variable {blank : Text}

theorem BlankLines.isBlank_of_mem (empty : BlankLines blank) :
    ∀ line ∈ lines blank, isBlank line = true := by
  intro line member
  have all := List.all_eq_true.mp empty.blank
  refine List.all_eq_true.mpr fun c inside => all c ?_
  rw [← flatten_lines blank]
  exact List.mem_flatten.mpr ⟨line, member, inside⟩

/-- Blank lines in front of a text are dropped with those at its front. -/
theorem BlankLines.dropBlankLines_append (empty : BlankLines blank) (body : Text) :
    dropBlankLines (blank ++ body) = dropBlankLines body := by
  rw [dropBlankLines, lines_append_of_ended empty.ended, List.dropWhile_append,
    List.dropWhile_eq_nil_iff.mpr empty.isBlank_of_mem]
  rfl

theorem length_dropBlankLines_le (text : Text) :
    (dropBlankLines text).length ≤ text.length := by
  have whole := congrArg List.length (takeBlankLines_append text)
  rw [List.length_append] at whole
  omega

end Text

/-! ## Where the content is split -/

namespace Shebang

/-- A shebang line with its line feed. -/
def IsLine (line : Text) : Prop :=
  ∃ start : Text, line = start ++ ['\n'] ∧ '\n' ∉ start ∧ opens line = true

theorem opens_of_isBlankChar {c : Char} (blank : isBlankChar c = true) (rest : Text) :
    opens (c :: rest) = false := by
  have other : ('#' == c) = false := by
    rw [beq_eq_false_iff_ne]
    rintro rfl
    exact absurd blank (by decide)
  rw [opens, mark, List.isPrefixOf, other, Bool.false_and, Bool.false_and]

/-- The content is split between the shebang line and a text that begins with none. -/
theorem split_getD_append {shebang : Option Text} {body : Text}
    (script : ∀ line ∈ shebang, IsLine line) (plain : opens body = false) :
    split (shebang.getD [] ++ body) = (shebang, body) := by
  cases shebang with
  | none => exact split_of_not_opens plain
  | some line =>
    obtain ⟨start, rfl, noFeed, same⟩ := script line rfl
    rw [opens_append_lineFeed] at same
    rw [Option.getD_some, List.append_assoc]
    exact split_line_append body noFeed same

theorem IsLine.terminated_eq {line : Text} (script : IsLine line) :
    Header.terminated line = line := by
  obtain ⟨start, rfl, -, -⟩ := script
  exact terminated_append_lineFeed start

end Shebang

namespace Header

open Text (isBlank BlankLines dropBlankLines)

/-! ## A body that begins with a blank line -/

/-- The first line of a notice is not blank. -/
theorem Notice.head_renderLines (kind : FileKind) (notice : Notice) (years : Text) :
    ∀ line ∈ (notice.renderLines kind.layout years).head?, isBlank line = false := by
  cases kind <;> rintro line ⟨⟩ <;> rfl

/-- A blank line is no comment. -/
theorem region_of_isBlank (kind : FileKind) (body : Text) {first : Text}
    (blank : isBlank first = true) : region kind.marks body first = .none := by
  have nothing : indented first = [] :=
    Text.trimStart_of_isBlank ((Text.isBlank_lineContent first).trans blank)
  rw [region, nothing]
  cases kind <;> rfl

/-- No notice is found in a body that begins with a blank line. -/
theorem classify_of_isBlank (kind : FileKind) (notice : Notice) (scanLines : Nat)
    {body first : Text} {others : List Text} (cut : Text.lines body = first :: others)
    (blank : isBlank first = true) : classify kind notice scanLines body = .absent := by
  have wrong : (classify kind notice scanLines body).status ≠ .correct := by
    intro correct
    obtain ⟨-, years, -, same⟩ := (classify_correct_iff kind notice scanLines body).mp correct
    have filled : isBlank (Text.lineContent first) = false := by
      apply notice.head_renderLines kind years
      rw [← same, cut]
      cases kind <;> rfl
    rw [Text.isBlank_lineContent, blank] at filled
    cases filled
  rw [classify_of_status_ne wrong, judge_of_none cut (region_of_isBlank kind body blank),
    judgeFirstLine, mentionsKeyword_of_isBlank blank, Bool.not_false, Bool.or_true]
  rfl

/-- No notice is found below blank lines. -/
theorem classify_blankLines (kind : FileKind) (notice : Notice) (scanLines : Nat)
    {blank : Text} (empty : BlankLines blank) (nonempty : blank ≠ []) (body : Text) :
    classify kind notice scanLines (blank ++ body) = .absent := by
  cases cut : Text.lines blank with
  | nil =>
    rw [← Text.flatten_lines blank, cut] at nonempty
    exact absurd rfl nonempty
  | cons first others =>
    have lines := Text.lines_append_of_ended empty.ended body
    rw [cut, List.cons_append] at lines
    exact classify_of_isBlank kind notice scanLines lines
      (empty.isBlank_of_mem first (cut ▸ List.mem_cons_self))

/-! ## The fix -/

section Fix

variable {shebang : Option Text} {body : Text}

/-- A fixed content begins with the shebang line as it was. -/
theorem assemble_of_isLine (script : ∀ line ∈ shebang, Shebang.IsLine line) (notice rest : Text) :
    assemble shebang notice rest = shebang.getD [] ++ notice ++ belowNotice rest := by
  cases shebang with
  | none => rfl
  | some line =>
    rw [assemble, Option.map_some, (script line rfl).terminated_eq]
    rfl

theorem belowNotice_injective {rest other : Text} (same : belowNotice rest = belowNotice other) :
    rest = other := by
  cases rest <;> cases other <;> cases same <;> rfl

/-- The fix of a content of which the shebang line is known. -/
theorem fix_getD_append {kind : FileKind} {notice : Notice} {scanLines : Nat}
    (currentYear : Nat) (script : ∀ line ∈ shebang, Shebang.IsLine line)
    (plain : Shebang.opens body = false)
    (wrong : (classify kind notice scanLines body).status ≠ .correct) :
    fix? kind notice scanLines currentYear (shebang.getD [] ++ body) =
      some (shebang.getD [] ++ notice.render kind.layout currentYear ++
        belowNotice (remainder (classify kind notice scanLines body) body)) := by
  have split := Shebang.split_getD_append script plain
  rw [fix_of_status_ne currentYear (by rw [split]; exact wrong), split, assemble_of_isLine script]

/-- A fix keeps all of a body that does not begin with a blank line when nothing of it is stale,
and only then. -/
theorem remainder_eq_self_iff (kind : FileKind) (notice : Notice) (scanLines : Nat)
    (begins : ∀ line ∈ (Text.lines body).head?, isBlank line = false) :
    remainder (classify kind notice scanLines body) body = body ↔
      (classify kind notice scanLines body).stale = [] := by
  obtain ⟨kept, whole, -⟩ := classify_stale kind notice scanLines body
  rw [remainder, drop_of_append whole.symm]
  constructor
  · intro same
    have kept_le := Text.length_dropBlankLines_le kept
    have length := congrArg List.length whole
    rw [List.length_append] at length
    rw [same] at kept_le
    exact List.eq_nil_of_length_eq_zero (by omega)
  · intro none
    rw [none, List.nil_append] at whole
    rw [← whole]
    exact dropBlankLines_of_head begins

/-- With blank lines in front of it, all of a body is kept below the notice. -/
theorem fix_append_blankLines (kind : FileKind) (notice : Notice) (scanLines currentYear : Nat)
    {blank : Text} (script : ∀ line ∈ shebang, Shebang.IsLine line) (empty : BlankLines blank)
    (nonempty : blank ≠ []) (begins : ∀ line ∈ (Text.lines body).head?, isBlank line = false) :
    fix? kind notice scanLines currentYear (shebang.getD [] ++ (blank ++ body)) =
      some (shebang.getD [] ++ notice.render kind.layout currentYear ++ belowNotice body) := by
  have absent := classify_blankLines kind notice scanLines empty nonempty body
  have plain : Shebang.opens (blank ++ body) = false := by
    obtain ⟨c, rest, rfl⟩ := List.exists_cons_of_ne_nil nonempty
    exact Shebang.opens_of_isBlankChar (List.all_eq_true.mp empty.blank c List.mem_cons_self) _
  have rest : remainder .absent (blank ++ body) = body :=
    (empty.dropBlankLines_append body).trans (dropBlankLines_of_head begins)
  have wrong : (classify kind notice scanLines (blank ++ body)).status ≠ .correct := by
    rw [absent]
    exact Status.noConfusion
  rw [fix_getD_append currentYear script plain wrong, absent, rest]

end Fix

/-- **Blank lines hide what stands below them.** Take a shebang line or none, blank lines, and a
body that begins with neither. With blank lines in front of it nothing is found in the body, and a
fix writes the notice above all of it. So where the body is not correct, the blank lines change
nothing of the fix exactly when there are none, or nothing of the body is stale. Where it is
correct, nothing is fixed without blank lines, and with them the same header stands once more below
the one that is written. -/
theorem fix_blankLines (kind : FileKind) (notice : Notice) (scanLines currentYear : Nat)
    {shebang : Option Text} {blank body : Text} (script : ∀ line ∈ shebang, Shebang.IsLine line)
    (empty : BlankLines blank)
    (begins : ∀ line ∈ (Text.lines body).head?, isBlank line = false)
    (plain : Shebang.opens body = false) :
    let above := shebang.getD []
    let written := notice.render kind.layout currentYear
    let verdict := classify kind notice scanLines body
    let fixed := fix? kind notice scanLines currentYear (above ++ (blank ++ body))
    (blank ≠ [] →
        classify kind notice scanLines (blank ++ body) = .absent ∧
          fixed = some (above ++ written ++ belowNotice body)) ∧
      (verdict.status ≠ .correct →
        (fixed = fix? kind notice scanLines currentYear (above ++ body) ↔
          blank = [] ∨ verdict.stale = [])) ∧
      (verdict.status = .correct →
        (blank = [] → fixed = none) ∧
          (blank ≠ [] → ∃ below, fixed = some (above ++ written ++ below) ∧
            (classify kind notice scanLines (dropBlankLines below)).status = .correct)) := by
  intro above written verdict fixed
  have whole (nonempty : blank ≠ []) : fixed = some (above ++ written ++ belowNotice body) :=
    fix_append_blankLines kind notice scanLines currentYear script empty nonempty begins
  refine ⟨fun nonempty => ⟨classify_blankLines kind notice scanLines empty nonempty body,
    whole nonempty⟩, fun wrong => ?_, fun correct => ⟨fun none => ?_, fun nonempty => ?_⟩⟩
  · by_cases none : blank = []
    · subst none
      exact iff_of_true rfl (.inl rfl)
    -- Both fixes write the same above what they keep, and one of them keeps all of the body.
    · rw [whole none, fix_getD_append currentYear script plain wrong, Option.some.injEq,
        List.append_cancel_left_eq, or_iff_right none,
        ← remainder_eq_self_iff kind notice scanLines begins]
      exact ⟨fun same => (belowNotice_injective same).symm, fun same => by rw [same]⟩
  · subst none
    refine (fix_eq_none_iff kind notice scanLines currentYear _).mpr ?_
    rw [List.nil_append, Shebang.split_getD_append script plain]
    exact correct
  · refine ⟨belowNotice body, whole nonempty, ?_⟩
    rw [dropBlankLines_belowNotice begins]
    exact correct

/-- The theorem at a script where two blank lines part the shebang line from a comment that states
a copyright. -/
theorem fix_blankLines_belowShebang :
    let notice : Notice := ⟨"MIT".toList, "A".toList, .any⟩
    let shebang : Option Text := some "#!/bin/sh\n".toList
    let blank : Text := " \n\n".toList
    let body : Text := "# Copyright B\n\nx\n".toList
    let above := shebang.getD []
    let written := notice.render FileKind.shell.layout 2026
    let verdict := classify .shell notice 10 body
    let fixed := fix? .shell notice 10 2026 (above ++ (blank ++ body))
    ((∀ line ∈ shebang, Shebang.IsLine line) ∧ BlankLines blank ∧
        (∀ line ∈ (Text.lines body).head?, isBlank line = false) ∧ Shebang.opens body = false) ∧
      (blank ≠ [] →
        classify .shell notice 10 (blank ++ body) = .absent ∧
          fixed = some (above ++ written ++ belowNotice body)) ∧
      (verdict.status ≠ .correct →
        (fixed = fix? .shell notice 10 2026 (above ++ body) ↔
          blank = [] ∨ verdict.stale = [])) ∧
      (verdict.status = .correct →
        (blank = [] → fixed = none) ∧
          (blank ≠ [] → ∃ below, fixed = some (above ++ written ++ below) ∧
            (classify .shell notice 10 (dropBlankLines below)).status = .correct)) := by
  intro notice shebang blank body above written verdict fixed
  have script : ∀ line ∈ shebang, Shebang.IsLine line := by
    intro line member
    obtain rfl : "#!/bin/sh\n".toList = line := Option.some.inj member
    exact ⟨"#!/bin/sh".toList, by decide, by decide, by decide⟩
  have empty : BlankLines blank := by decide
  have begins : ∀ line ∈ (Text.lines body).head?, isBlank line = false := by decide +kernel
  have plain : Shebang.opens body = false := by decide
  exact ⟨⟨script, empty, begins, plain⟩,
    fix_blankLines .shell notice 10 2026 script empty begins plain⟩

/-- A blank line changes what is fixed: a stale comment below it is kept, and a header that is
correct below it is written once more. -/
theorem fix_blankLines_hide :
    let notice : Notice := ⟨"MIT".toList, "Acme".toList, .fixed 2024⟩
    let written := notice.render FileKind.python.layout 2026
    let stale : Text := "# Copyright 2020 Someone\nx = 1\n".toList
    let compliant : Text := written ++ "\nx = 1\n".toList
    (('\n' ∉ notice.license ++ notice.owner ∧ '\r' ∉ notice.license ++ notice.owner) ∧
        BlankLines ['\n'] ∧ ∀ body ∈ [stale, compliant],
          (∀ line ∈ (Text.lines body).head?, isBlank line = false) ∧
            Shebang.opens body = false) ∧
      ((classify .python notice 10 stale).status ≠ .correct ∧
        fix? .python notice 10 2026 ('\n' :: stale) ≠ fix? .python notice 10 2026 stale) ∧
      (classify .python notice 10 compliant).status = .correct ∧
        fix? .python notice 10 2026 ('\n' :: compliant) =
          some (written ++ '\n' :: compliant) := by
  intro notice written stale compliant
  have different : (classify .python notice 10 stale).status ≠ .correct ∧
      fix? .python notice 10 2026 ('\n' :: stale) ≠ fix? .python notice 10 2026 stale := by
    decide +kernel
  have again : (classify .python notice 10 compliant).status = .correct ∧
      fix? .python notice 10 2026 ('\n' :: compliant) = some (written ++ '\n' :: compliant) := by
    decide +kernel
  exact ⟨⟨by decide, by decide, by decide +kernel⟩, different, again⟩

end Header

end Hygiene
