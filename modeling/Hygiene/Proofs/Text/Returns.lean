import Mathlib.Data.List.Induction
import Hygiene.Proofs.Text.Search

/-!
# Line feeds with a carriage return in front

A text may be written with a carriage return in front of each line feed (`withReturns`). Both
characters are blank and both are dropped at the end of a line, so the text is read as before.
It has the same lines, each with its own carriage return (`lines_withReturns`). What is dropped
or taken at either end is the same when both characters are dropped, or neither is taken. A
needle that has neither of them in it stands in the same places (`isInfix_withReturns_iff`), and
the text is cut there (`splitAfter_withReturns`).

Nothing is said against carriage returns that stand in the text already.
-/

set_option autoImplicit false

namespace Hygiene.Text

/-- The text with a carriage return in front of each line feed. -/
def withReturns (text : Text) : Text :=
  text.flatMap fun c => if c = '\n' then ['\r', '\n'] else [c]

theorem withReturns_nil : withReturns [] = [] := rfl

theorem withReturns_lineFeed (rest : Text) :
    withReturns ('\n' :: rest) = '\r' :: '\n' :: withReturns rest := rfl

theorem withReturns_cons_of_ne {c : Char} (other : c ≠ '\n') (rest : Text) :
    withReturns (c :: rest) = c :: withReturns rest := by
  rw [withReturns, List.flatMap_cons, if_neg other]
  rfl

theorem withReturns_append (left right : Text) :
    withReturns (left ++ right) = withReturns left ++ withReturns right :=
  List.flatMap_append

theorem withReturns_flatten (texts : List Text) :
    withReturns texts.flatten = (texts.map withReturns).flatten := by
  induction texts with
  | nil => rfl
  | cons text texts ih =>
    rw [List.flatten_cons, withReturns_append, ih, List.map_cons, List.flatten_cons]

/-- A text without a line feed stays as it is. -/
theorem withReturns_of_noFeed {text : Text} (noFeed : '\n' ∉ text) : withReturns text = text := by
  induction text with
  | nil => rfl
  | cons c rest ih =>
    obtain ⟨here, later⟩ := List.ne_and_not_mem_of_not_mem_cons noFeed
    rw [withReturns_cons_of_ne (Ne.symm here), ih later]

/-- Behind a line stand the carriage return and the line feed. -/
theorem withReturns_append_lineFeed {line : Text} (noFeed : '\n' ∉ line) (rest : Text) :
    withReturns (line ++ '\n' :: rest) = line ++ ['\r'] ++ '\n' :: withReturns rest := by
  rw [withReturns_append, withReturns_lineFeed, withReturns_of_noFeed noFeed, List.append_assoc]
  rfl

theorem feed_mem_withReturns {text : Text} (feed : '\n' ∈ text) : '\n' ∈ withReturns text := by
  rw [withReturns, List.mem_flatMap]
  exact ⟨'\n', feed, by decide⟩

/-- No other text becomes one without a line feed. -/
theorem withReturns_eq_iff {text plain : Text} (noFeed : '\n' ∉ plain) :
    withReturns text = plain ↔ text = plain := by
  constructor
  · intro same
    rw [← same, withReturns_of_noFeed]
    exact fun feed => noFeed (same ▸ feed_mem_withReturns feed)
  · rintro rfl
    exact withReturns_of_noFeed noFeed

/-! ## Lines -/

/-- The lines of a text have their carriage returns each. -/
theorem lines_withReturns (text : Text) :
    lines (withReturns text) = (lines text).map withReturns := by
  induction text using lineInduction with
  | empty => rfl
  | last line nonempty noFeed =>
    rw [withReturns_of_noFeed noFeed, lines_of_noFeed line nonempty noFeed, List.map_singleton,
      withReturns_of_noFeed noFeed]
  | feed line rest noFeed ih =>
    have other : '\n' ∉ line ++ ['\r'] := by simp [noFeed]
    rw [withReturns_append_lineFeed noFeed, lines_append_lineFeed _ _ other, ih,
      lines_append_lineFeed line rest noFeed, List.map_cons, withReturns_append,
      withReturns_of_noFeed noFeed, List.append_assoc]
    rfl

section Ends

variable {kind : Char → Bool}

theorem dropWhile_withReturns (feed : kind '\n' = true) (back : kind '\r' = true) (text : Text) :
    (withReturns text).dropWhile kind = withReturns (text.dropWhile kind) := by
  induction text with
  | nil => rfl
  | cons c rest ih =>
    by_cases here : c = '\n'
    · subst here
      rw [withReturns_lineFeed, List.dropWhile_cons_of_pos back, List.dropWhile_cons_of_pos feed,
        List.dropWhile_cons_of_pos feed, ih]
    · rw [withReturns_cons_of_ne here]
      by_cases dropped : kind c = true
      · rw [List.dropWhile_cons_of_pos dropped, List.dropWhile_cons_of_pos dropped, ih]
      · rw [List.dropWhile_cons_of_neg dropped, List.dropWhile_cons_of_neg dropped,
          withReturns_cons_of_ne here]

theorem takeWhile_withReturns (feed : kind '\n' = false) (back : kind '\r' = false)
    (text : Text) : (withReturns text).takeWhile kind = withReturns (text.takeWhile kind) := by
  induction text with
  | nil => rfl
  | cons c rest ih =>
    by_cases here : c = '\n'
    · subst here
      rw [withReturns_lineFeed, List.takeWhile_cons_of_neg (by simp [back]),
        List.takeWhile_cons_of_neg (by simp [feed]), withReturns_nil]
    · rw [withReturns_cons_of_ne here]
      by_cases taken : kind c = true
      · rw [List.takeWhile_cons_of_pos taken, List.takeWhile_cons_of_pos taken,
          withReturns_cons_of_ne here, ih]
      · rw [List.takeWhile_cons_of_neg taken, List.takeWhile_cons_of_neg taken, withReturns_nil]

theorem dropEndWhile_concat_of_pos {text : Text} {c : Char} (dropped : kind c = true) :
    (text ++ [c]).dropEndWhile kind = text.dropEndWhile kind := by
  rw [dropEndWhile, List.reverse_append, List.reverse_singleton, List.singleton_append,
    List.dropWhile_cons_of_pos dropped]
  rfl

theorem dropEndWhile_concat_of_neg {text : Text} {c : Char} (kept : ¬ kind c = true) :
    (text ++ [c]).dropEndWhile kind = text ++ [c] := by
  rw [dropEndWhile, List.reverse_append, List.reverse_singleton, List.singleton_append,
    List.dropWhile_cons_of_neg kept, List.reverse_cons, List.reverse_reverse]

theorem dropEndWhile_withReturns (feed : kind '\n' = true) (back : kind '\r' = true)
    (text : Text) :
    (withReturns text).dropEndWhile kind = withReturns (text.dropEndWhile kind) := by
  induction text using List.reverseRecOn with
  | nil => rfl
  | append_singleton text c ih =>
    rw [withReturns_append]
    by_cases here : c = '\n'
    · subst here
      have ends : withReturns text ++ withReturns ['\n'] =
          withReturns text ++ ['\r'] ++ ['\n'] := by
        rw [List.append_assoc]
        rfl
      rw [ends, dropEndWhile_concat_of_pos feed, dropEndWhile_concat_of_pos back,
        dropEndWhile_concat_of_pos feed, ih]
    · rw [withReturns_cons_of_ne here, withReturns_nil]
      by_cases dropped : kind c = true
      · rw [dropEndWhile_concat_of_pos dropped, dropEndWhile_concat_of_pos dropped, ih]
      · rw [dropEndWhile_concat_of_neg dropped, dropEndWhile_concat_of_neg dropped,
          withReturns_append, withReturns_cons_of_ne here, withReturns_nil]

end Ends

/-- What stands on a line is the same as before, with its carriage returns if it has line feeds. -/
theorem lineContent_withReturns (line : Text) :
    lineContent (withReturns line) = withReturns (lineContent line) :=
  dropEndWhile_withReturns (by decide) (by decide) line

theorem trimStart_withReturns (text : Text) :
    (withReturns text).trimStart = withReturns text.trimStart :=
  dropWhile_withReturns (by decide) (by decide) text

theorem trim_withReturns (text : Text) : (withReturns text).trim = withReturns text.trim := by
  rw [trim, trimStart_withReturns]
  exact dropEndWhile_withReturns (by decide) (by decide) text.trimStart

theorem isBlank_withReturns (text : Text) : isBlank (withReturns text) = isBlank text := by
  induction text with
  | nil => rfl
  | cons c rest ih =>
    by_cases here : c = '\n'
    · subst here
      exact ih
    · rw [withReturns_cons_of_ne here, isBlank, isBlank, List.all_cons, List.all_cons]
      exact congrArg _ ih

/-- The blank lines at the front are dropped as before. -/
theorem dropBlankLines_withReturns (text : Text) :
    dropBlankLines (withReturns text) = withReturns (dropBlankLines text) := by
  have same : isBlank ∘ withReturns = isBlank := funext isBlank_withReturns
  rw [dropBlankLines, dropBlankLines, lines_withReturns, List.dropWhile_map, same,
    withReturns_flatten]

/-! ## Needles -/

/-- A text without line feeds and carriage returns. -/
def OneLine (text : Text) : Prop :=
  '\n' ∉ text ∧ '\r' ∉ text

instance (text : Text) : Decidable (OneLine text) :=
  inferInstanceAs (Decidable (_ ∧ _))

section Needle

variable {needle : Text}

theorem isPrefix_withReturns_iff (plain : OneLine needle) (text : Text) :
    needle <+: withReturns text ↔ needle <+: text := by
  induction text generalizing needle with
  | nil => rfl
  | cons c rest ih =>
    cases needle with
    | nil => exact iff_of_true List.nil_prefix List.nil_prefix
    | cons d needle =>
      obtain ⟨noFeed, noReturn⟩ := plain
      obtain ⟨first, laterFeed⟩ := List.ne_and_not_mem_of_not_mem_cons noFeed
      obtain ⟨second, laterReturn⟩ := List.ne_and_not_mem_of_not_mem_cons noReturn
      by_cases here : c = '\n'
      · subst here
        rw [withReturns_lineFeed, List.cons_prefix_cons, List.cons_prefix_cons]
        exact iff_of_false (fun same => second same.1.symm) (fun same => first same.1.symm)
      · rw [withReturns_cons_of_ne here, List.cons_prefix_cons, List.cons_prefix_cons,
          ih ⟨laterFeed, laterReturn⟩]

theorem isPrefixOf_withReturns (plain : OneLine needle) (text : Text) :
    needle.isPrefixOf (withReturns text) = needle.isPrefixOf text := by
  rw [Bool.eq_iff_iff, List.isPrefixOf_iff_prefix, List.isPrefixOf_iff_prefix,
    isPrefix_withReturns_iff plain]

theorem isInfix_withReturns_iff (plain : OneLine needle) (text : Text) :
    needle <:+: withReturns text ↔ needle <:+: text := by
  induction text with
  | nil => rfl
  | cons c rest ih =>
    have cut : needle <:+: c :: rest ↔ needle <+: c :: rest ∨ needle <:+: rest :=
      List.infix_cons_iff
    rw [cut, ← ih, ← isPrefix_withReturns_iff plain (c :: rest)]
    by_cases here : c = '\n'
    · subst here
      rw [withReturns_lineFeed, List.infix_cons_iff, List.infix_cons_iff]
      -- At the line feed itself stands only the empty needle, which stands everywhere.
      have start : needle <+: '\n' :: withReturns rest → needle <:+: withReturns rest := by
        cases needle with
        | nil => exact fun _ => List.nil_infix
        | cons d needle =>
          intro same
          have first := (List.cons_prefix_cons.mp same).1
          exact absurd List.mem_cons_self (first ▸ plain.1)
      exact ⟨Or.imp_right (Or.rec start id), Or.imp_right Or.inr⟩
    · rw [withReturns_cons_of_ne here, List.infix_cons_iff]

/-- A needle that does not stand in a text is not found in it. -/
theorem splitAfter_eq_none_iff (nonempty : needle ≠ []) {text : Text} :
    splitAfter? text needle = none ↔ ¬ needle <:+: text := by
  constructor
  · intro unfound
    rw [splitAfter?, Option.map_eq_none_iff] at unfound
    exact not_isInfix_of_findFrom nonempty unfound
  · intro absent
    rw [Option.eq_none_iff_forall_ne_some]
    rintro ⟨through, after⟩ found
    obtain ⟨rfl, before, rfl, -⟩ := splitAfter_eq_some nonempty found
    exact absent ⟨before, after, rfl⟩

/-- A text is cut behind the same needle as before. -/
theorem splitAfter_withReturns (nonempty : needle ≠ []) (plain : OneLine needle) (text : Text) :
    splitAfter? (withReturns text) needle =
      (splitAfter? text needle).map fun (through, after) =>
        (withReturns through, withReturns after) := by
  cases found : splitAfter? text needle with
  | none =>
    rw [splitAfter_eq_none_iff nonempty, ← isInfix_withReturns_iff plain] at found
    exact (splitAfter_eq_none_iff nonempty).mpr found
  | some parts =>
    obtain ⟨through, after⟩ := parts
    obtain ⟨rfl, before, rfl, first⟩ := splitAfter_eq_some nonempty found
    have same : withReturns needle = needle := withReturns_of_noFeed plain.1
    have ends : EndsFirst needle (withReturns before ++ needle) := by
      refine ⟨List.suffix_append _ needle, fun inside => first.first ?_⟩
      rw [List.dropLast_append_of_ne_nil nonempty] at inside ⊢
      rw [← isInfix_withReturns_iff plain, withReturns_append]
      have rest : '\n' ∉ needle.dropLast := fun feed =>
        plain.1 ((List.dropLast_prefix _).subset feed)
      rwa [withReturns_of_noFeed rest]
    rw [withReturns_append, withReturns_append, same, splitAfter_append nonempty ends]
    simp only [Option.map_some, withReturns_append, same]

/-! ## Words without regard to case -/

theorem oneLine_of_map_toLower {part : Text} (plain : OneLine (part.map Char.toLower)) :
    OneLine part :=
  ⟨fun feed => plain.1 (List.mem_map.mpr ⟨_, feed, by decide⟩),
    fun back => plain.2 (List.mem_map.mpr ⟨_, back, by decide⟩)⟩

theorem mentions_withReturns {word : Text} (plain : OneLine word) (text : Text) :
    mentions (withReturns text) word = mentions text word := by
  rw [Bool.eq_iff_iff, mentions_iff, mentions_iff]
  refine exists_congr fun part => and_congr_left ?_
  rintro rfl
  exact isInfix_withReturns_iff (oneLine_of_map_toLower plain) text

theorem beginsIgnoringCase_withReturns {word : Text} (plain : OneLine word) (text : Text) :
    beginsIgnoringCase (withReturns text) word = beginsIgnoringCase text word := by
  rw [Bool.eq_iff_iff, beginsIgnoringCase_iff, beginsIgnoringCase_iff]
  refine exists_congr fun part => and_congr_left ?_
  rintro rfl
  exact isPrefix_withReturns_iff (oneLine_of_map_toLower plain) text

end Needle

end Hygiene.Text
