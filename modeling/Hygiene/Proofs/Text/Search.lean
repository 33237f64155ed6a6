import Hygiene.Proofs.Text.Fields
import Hygiene.Proofs.Text.Lines

/-!
# Finding a text in another one

What a search finds is the first place where the needle stands: the text is cut there, and
the needle does not stand anywhere before (`find_eq_some`). A text that is cut behind the
needle consists of what was before, the needle and the rest (`splitAfter_eq_some`), and a text
in which the needle stands first at a place is cut there (`splitAfter_append`).

A needle that has a character in none of its places does not stand across that character, so
it stands in one of the texts that are joined by it (`isInfix_join`).
-/

set_option autoImplicit false

namespace Hygiene.Text

/-- The needle ends the text, and it stands in no other place of it. -/
structure EndsFirst (needle text : Text) : Prop where
  ends : needle <:+ text
  first : ¬ needle <:+: text.dropLast

theorem EndsFirst.refl {needle : Text} (nonempty : needle ≠ []) : EndsFirst needle needle := by
  refine ⟨List.suffix_refl needle, fun inside => ?_⟩
  have short := inside.length_le
  have long := List.length_pos_iff.mpr nonempty
  rw [List.length_dropLast] at short
  omega

/-- One more character in front does not make the needle stand earlier, when it does not
stand at that character. -/
theorem EndsFirst.cons {needle text : Text} (found : EndsFirst needle text) (c : Char)
    (nonempty : text ≠ []) (differs : ¬ needle <+: c :: text) : EndsFirst needle (c :: text) := by
  refine ⟨found.ends.trans (List.suffix_cons c text), fun inside => ?_⟩
  rw [List.dropLast_cons_of_ne_nil nonempty] at inside
  rcases List.infix_cons_iff.mp inside with here | later
  · refine differs (here.trans ?_)
    rw [List.cons_prefix_cons]
    exact ⟨rfl, List.dropLast_prefix text⟩
  · exact found.first later

/-- A needle that is found at a position stands there, and nowhere before. -/
theorem findFrom_eq_some {needle text : Text} (nonempty : needle ≠ []) {start position : Nat}
    (found : findFrom? needle start text = some position) :
    ∃ before after : Text, text = before ++ needle ++ after ∧
      position = start + before.length ∧ EndsFirst needle (before ++ needle) := by
  induction text generalizing start with
  | nil =>
    rw [findFrom?, if_neg (by simpa using nonempty)] at found
    exact absurd found (by simp)
  | cons c rest ih =>
    rw [findFrom?] at found
    by_cases here : needle.isPrefixOf (c :: rest) = true
    · rw [if_pos here, Option.some.injEq] at found
      obtain ⟨after, same⟩ := List.isPrefixOf_iff_prefix.mp here
      exact ⟨[], after, same.symm, found.symm, EndsFirst.refl nonempty⟩
    · rw [if_neg here] at found
      obtain ⟨before, after, rfl, rfl, first⟩ := ih found
      have longer : before ++ needle ≠ [] := by simp [nonempty]
      refine ⟨c :: before, after, rfl, by simp only [List.length_cons]; omega, ?_⟩
      apply first.cons c longer
      intro standing
      apply here
      rw [List.isPrefixOf_iff_prefix]
      apply standing.trans
      rw [List.cons_prefix_cons]
      exact ⟨rfl, List.prefix_append _ after⟩

theorem find_eq_some {needle text : Text} (nonempty : needle ≠ []) {position : Nat}
    (found : find? text needle = some position) :
    ∃ before after : Text, text = before ++ needle ++ after ∧ position = before.length ∧
      EndsFirst needle (before ++ needle) := by
  obtain ⟨before, after, same, rfl, first⟩ := findFrom_eq_some nonempty found
  exact ⟨before, after, same, Nat.zero_add _, first⟩

/-- A text is cut right behind the first needle in it. -/
theorem splitAfter_eq_some {needle text through after : Text} (nonempty : needle ≠ [])
    (cut : splitAfter? text needle = some (through, after)) :
    text = through ++ after ∧ ∃ before, through = before ++ needle ∧
      EndsFirst needle (before ++ needle) := by
  obtain ⟨position, found, same⟩ := Option.map_eq_some_iff.mp cut
  obtain ⟨before, rest, rfl, rfl, first⟩ := find_eq_some nonempty found
  rw [List.splitAt_eq, ← List.length_append, List.take_left, List.drop_left,
    Prod.mk.injEq] at same
  obtain ⟨rfl, rfl⟩ := same
  exact ⟨rfl, before, rfl, first⟩

/-- What does not stand at any earlier place is not a beginning of a longer text. -/
theorem EndsFirst.not_isPrefix {needle before : Text} {c : Char}
    (found : EndsFirst needle (c :: before ++ needle)) (after : Text) :
    ¬ needle <+: c :: before ++ needle ++ after := by
  intro standing
  apply found.first
  apply List.IsPrefix.isInfix
  apply List.prefix_of_prefix_length_le standing
  · exact (List.dropLast_prefix _).trans (List.prefix_append _ after)
  · simp

/-- A needle is found at the place where it stands first. -/
theorem findFrom_append {needle before : Text} (nonempty : needle ≠ [])
    (found : EndsFirst needle (before ++ needle)) (start : Nat) (after : Text) :
    findFrom? needle start (before ++ needle ++ after) = some (start + before.length) := by
  induction before generalizing start with
  | nil =>
    obtain ⟨c, rest, rfl⟩ := List.exists_cons_of_ne_nil nonempty
    rw [List.nil_append, List.cons_append, findFrom?, if_pos]
    · rfl
    · exact List.isPrefixOf_iff_prefix.mpr (List.prefix_append (c :: rest) after)
  | cons c before ih =>
    have later : EndsFirst needle (before ++ needle) := by
      refine ⟨List.suffix_append before needle, fun inside => found.first ?_⟩
      rw [List.cons_append, List.dropLast_cons_of_ne_nil (by simp [nonempty])]
      exact List.infix_cons inside
    have differs := found.not_isPrefix after
    rw [List.cons_append, List.cons_append] at differs ⊢
    rw [findFrom?, if_neg (by simpa using differs), ih later, List.length_cons]
    exact congrArg some (by omega)

theorem splitAfter_append {needle before : Text} (nonempty : needle ≠ [])
    (found : EndsFirst needle (before ++ needle)) (after : Text) :
    splitAfter? (before ++ needle ++ after) needle = some (before ++ needle, after) := by
  rw [splitAfter?, find?, findFrom_append nonempty found, Option.map_some, List.splitAt_eq,
    Nat.zero_add, ← List.length_append, List.take_left, List.drop_left]

/-- A needle that is not found does not stand in the text. -/
theorem not_isInfix_of_findFrom {needle text : Text} (nonempty : needle ≠ []) {start : Nat}
    (absent : findFrom? needle start text = none) : ¬ needle <:+: text := by
  induction text generalizing start with
  | nil => exact fun inside => nonempty (List.infix_nil.mp inside)
  | cons c rest ih =>
    rw [findFrom?] at absent
    split at absent
    · cases absent
    · rename_i differs
      intro inside
      rcases List.infix_cons_iff.mp inside with here | later
      · exact differs (List.isPrefixOf_iff_prefix.mpr here)
      · exact ih absent later

/-! ## Needles that do not stand across a character -/

theorem isPrefix_of_append_cons {needle left right : Text} {c : Char} (plain : c ∉ needle)
    (standing : needle <+: left ++ c :: right) : needle <+: left := by
  rcases List.prefix_or_prefix_of_prefix standing (List.prefix_append left (c :: right)) with
    within | ⟨beyond, rfl⟩
  · exact within
  · cases beyond with
    | nil => simp
    | cons d beyond =>
      have same := (List.cons_prefix_cons.mp ((List.prefix_append_right_inj left).mp standing)).1
      exact absurd (same ▸ List.mem_append_right left List.mem_cons_self) plain

/-- A needle without a character stands before the character or behind it. -/
theorem isInfix_of_append_cons {needle left right : Text} {c : Char} (nonempty : needle ≠ [])
    (plain : c ∉ needle) (standing : needle <:+: left ++ c :: right) :
    needle <:+: left ∨ needle <:+: right := by
  induction left with
  | nil =>
    rcases List.infix_cons_iff.mp standing with here | later
    · have none : needle <+: [] := isPrefix_of_append_cons plain here
      exact absurd (List.prefix_nil.mp none) nonempty
    · exact .inr later
  | cons d left ih =>
    rcases List.infix_cons_iff.mp standing with here | later
    · have within : needle <+: d :: left := isPrefix_of_append_cons plain here
      exact .inl within.isInfix
    · exact (ih later).imp_left List.infix_cons

/-- A needle without line feeds and carriage returns does not stand across the end of a line. -/
theorem isInfix_of_lineEnd {needle text ends rest : Text} (nonempty : needle ≠ [])
    (noFeed : '\n' ∉ needle) (noReturn : '\r' ∉ needle) (ended : ends ≠ [])
    (marks : ∀ c ∈ ends, c = '\n' ∨ c = '\r') (standing : needle <:+: text ++ (ends ++ rest)) :
    needle <:+: text ∨ needle <:+: rest := by
  have plain {c : Char} (mark : c = '\n' ∨ c = '\r') : c ∉ needle := by
    rcases mark with rfl | rfl
    · exact noFeed
    · exact noReturn
  induction ends generalizing text with
  | nil => exact absurd rfl ended
  | cons c ends ih =>
    obtain ⟨mark, later⟩ := List.forall_mem_cons.mp marks
    rcases isInfix_of_append_cons nonempty (plain mark) standing with here | behind
    · exact .inl here
    · cases ends with
      | nil => exact .inr behind
      | cons d ends =>
        have below : needle <:+: [] ∨ needle <:+: rest :=
          ih (List.cons_ne_nil d ends) later behind
        rcases below with none | further
        · exact absurd (List.infix_nil.mp none) nonempty
        · exact .inr further

/-- A needle without line feeds and carriage returns that stands in lines stands on one of
them. -/
theorem isInfix_lineContent {needle : Text} (nonempty : needle ≠ []) (noFeed : '\n' ∉ needle)
    (noReturn : '\r' ∉ needle) {lines : List Text}
    (ended : ∀ line ∈ lines, ∃ ends : Text,
      line = lineContent line ++ ends ∧ ends ≠ [] ∧ ∀ c ∈ ends, c = '\n' ∨ c = '\r')
    (standing : needle <:+: lines.flatten) : ∃ line ∈ lines, needle <:+: lineContent line := by
  induction lines with
  | nil => exact absurd (List.infix_nil.mp standing) nonempty
  | cons line lines ih =>
    obtain ⟨⟨ends, whole, filled, marks⟩, later⟩ := List.forall_mem_cons.mp ended
    rw [List.flatten_cons, whole, List.append_assoc] at standing
    rcases isInfix_of_lineEnd nonempty noFeed noReturn filled marks standing with here | there
    · exact ⟨line, List.mem_cons_self, here⟩
    · obtain ⟨found, member, inside⟩ := ih later there
      exact ⟨found, List.mem_cons_of_mem line member, inside⟩

/-- A needle without the separator stands in one of the texts that are joined. -/
theorem isInfix_join {needle : Text} {c : Char} (nonempty : needle ≠ []) (plain : c ∉ needle)
    {texts : List Text} (standing : needle <:+: join [c] texts) :
    ∃ text ∈ texts, needle <:+: text := by
  induction texts with
  | nil => exact absurd (List.infix_nil.mp standing) nonempty
  | cons text others ih =>
    cases others with
    | nil =>
      rw [join_singleton] at standing
      exact ⟨text, List.mem_cons_self, standing⟩
    | cons other later =>
      rw [join_cons_cons, List.append_assoc, List.singleton_append] at standing
      rcases isInfix_of_append_cons nonempty plain standing with here | there
      · exact ⟨text, List.mem_cons_self, here⟩
      · obtain ⟨found, member, inside⟩ := ih there
        exact ⟨found, List.mem_cons_of_mem text member, inside⟩

/-- A needle that ends the last of the joined texts, and stands nowhere else in them, ends what
they are joined to, and stands nowhere else in it. -/
theorem endsFirst_join {needle last : Text} {c : Char} {texts : List Text}
    (nonempty : needle ≠ []) (plain : c ∉ needle) (ends : needle <:+ last)
    (absent : ∀ text ∈ texts ++ [last.dropLast], ¬ needle <:+: text) :
    EndsFirst needle (join [c] (texts ++ [last])) := by
  have filled : last ≠ [] := fun none => nonempty (List.suffix_nil.mp (none ▸ ends))
  have shorter : (join [c] (texts ++ [last])).dropLast = join [c] (texts ++ [last.dropLast]) := by
    rw [join_concat, join_concat, List.dropLast_append_of_ne_nil filled]
  refine ⟨?_, fun inside => ?_⟩
  · rw [join_concat]
    exact ends.trans (List.suffix_append _ last)
  · rw [shorter] at inside
    obtain ⟨text, member, stands⟩ := isInfix_join nonempty plain inside
    exact absent text member stands

/-! ## Words without regard to case -/

/-- A blank character is no letter. -/
theorem toLower_of_isBlankChar {c : Char} (blank : isBlankChar c = true) : c.toLower = c := by
  refine dif_neg fun upper => ?_
  have least : 65 ≤ c.toNat := upper.1
  have most : c.toNat ≤ 90 := upper.2
  simp only [isBlankChar, Bool.or_eq_true, Bool.and_eq_true, decide_eq_true_eq, beq_iff_eq]
    at blank
  omega

/-- A text begins with a word when its first characters are the word, up to their case. -/
theorem beginsIgnoringCase_iff {text word : Text} :
    beginsIgnoringCase text word = true ↔
      ∃ part, part <+: text ∧ part.map Char.toLower = word := by
  induction word generalizing text with
  | nil =>
    have begins : beginsIgnoringCase text [] = true := by cases text <;> rfl
    exact iff_of_true begins ⟨[], List.nil_prefix, rfl⟩
  | cons letter word ih =>
    cases text with
    | nil =>
      refine iff_of_false (fun begins => nomatch begins) ?_
      rintro ⟨part, inside, same⟩
      rw [List.prefix_nil.mp inside] at same
      cases same
    | cons c text =>
      rw [beginsIgnoringCase, Bool.and_eq_true, beq_iff_eq, ih]
      constructor
      · rintro ⟨rfl, part, inside, rfl⟩
        exact ⟨c :: part, List.cons_prefix_cons.mpr ⟨rfl, inside⟩, rfl⟩
      · rintro ⟨part, inside, same⟩
        obtain ⟨first, rest, rfl, rfl, rfl⟩ := List.map_eq_cons_iff.mp same
        obtain ⟨rfl, later⟩ := List.cons_prefix_cons.mp inside
        exact ⟨rfl, rest, later, rfl⟩

/-- A text mentions a word when characters in it are the word, up to their case. -/
theorem mentions_iff {text word : Text} :
    mentions text word = true ↔ ∃ part, part <:+: text ∧ part.map Char.toLower = word := by
  induction text with
  | nil =>
    rw [mentions, List.isEmpty_iff]
    constructor
    · rintro rfl
      exact ⟨[], List.nil_infix, rfl⟩
    · rintro ⟨part, inside, rfl⟩
      rw [List.infix_nil.mp inside, List.map_nil]
  | cons c rest ih =>
    rw [mentions, Bool.or_eq_true, beginsIgnoringCase_iff, ih]
    constructor
    · rintro (⟨part, here, same⟩ | ⟨part, later, same⟩)
      · exact ⟨part, here.isInfix, same⟩
      · exact ⟨part, List.infix_cons later, same⟩
    · rintro ⟨part, inside, same⟩
      exact (List.infix_cons_iff.mp inside).imp (⟨part, ·, same⟩) (⟨part, ·, same⟩)

/-- A word that a text mentions is mentioned by every text around it. -/
theorem mentions_of_isInfix {text whole word : Text} (mentioned : mentions text word = true)
    (inside : text <:+: whole) : mentions whole word = true := by
  obtain ⟨part, within, same⟩ := mentions_iff.mp mentioned
  exact mentions_iff.mpr ⟨part, within.trans inside, same⟩

/-- Each letter of a word that a text mentions is the letter of a character in the text. -/
theorem exists_mem_of_mentions {text word : Text} (mentioned : mentions text word = true) :
    ∀ letter ∈ word, ∃ c ∈ text, c.toLower = letter := by
  obtain ⟨part, inside, rfl⟩ := mentions_iff.mp mentioned
  intro letter member
  obtain ⟨c, within, same⟩ := List.mem_map.mp member
  exact ⟨c, inside.subset within, same⟩

end Hygiene.Text
