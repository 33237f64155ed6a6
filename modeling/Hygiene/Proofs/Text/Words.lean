import Hygiene.Proofs.Text.Fields
import Hygiene.Proofs.Text.Lines

/-!
# Words of a text

The first word of a text stands behind blanks only, and it reaches to the next blank or to the end
of the text (`FirstWord`). The words of a text are its first word and the words of what stands
behind that (`words_eq_cons_iff`); a text without a first word is blank (`words_eq_nil_iff`). So
what is asked of the words of a text can be said of the text itself, without cutting all of it.
-/

set_option autoImplicit false

namespace Hygiene.Text

/-- A word is the first one of a text, and something stands behind it. -/
structure FirstWord (text word behind : Text) : Prop where
  /-- In front of the word stand blanks only. -/
  leads : ∃ gap : Text, isBlank gap = true ∧ text = gap ++ word ++ behind
  filled : word ≠ []
  solid : ∀ c ∈ word, isBlankChar c = false
  /-- The word does not go on. -/
  ends : ∀ c ∈ behind.head?, isBlankChar c = true

theorem words_blank_append {gap : Text} (white : isBlank gap = true) (text : Text) :
    words (gap ++ text) = words text := by
  induction gap with
  | nil => rfl
  | cons c gap ih =>
    rw [isBlank, List.all_cons, Bool.and_eq_true] at white
    rw [List.cons_append, words, fields_cons_of_pos isBlankChar _ white.1,
      List.filter_cons_of_neg (by simp)]
    exact ih white.2

/-- A word in front of a blank or of nothing is the first one. -/
theorem words_solid_append {word behind : Text} (filled : word ≠ [])
    (solid : ∀ c ∈ word, isBlankChar c = false) (ends : ∀ c ∈ behind.head?, isBlankChar c = true) :
    words (word ++ behind) = word :: words behind := by
  have single : (fields word isBlankChar).filter (fun field => !field.isEmpty) = [word] := by
    simp [fields_of_plain isBlankChar solid, filled]
  cases behind with
  | nil => simpa [words, fields_nil] using single
  | cons c behind =>
    have white : isBlankChar c = true := ends c rfl
    rw [words, fields_append_cons isBlankChar word behind white, List.filter_append, single, words,
      fields_cons_of_pos isBlankChar behind white]
    simp

/-- The words of a text are its first word and those behind it. -/
theorem FirstWord.words_eq {text word behind : Text} (first : FirstWord text word behind) :
    words text = word :: words behind := by
  obtain ⟨gap, white, rfl⟩ := first.leads
  rw [List.append_assoc, words_blank_append white,
    words_solid_append first.filled first.solid first.ends]

/-- A text is blank or has a first word. -/
theorem exists_firstWord {text : Text} (solid : isBlank text = false) :
    ∃ word behind : Text, FirstWord text word behind := by
  refine ⟨text.trimStart.takeWhile (fun c => !isBlankChar c),
    text.trimStart.dropWhile (fun c => !isBlankChar c), ?_, ?_, ?_, ?_⟩
  · refine ⟨text.takeWhile isBlankChar, isBlank_takeWhile text fun _ blank => blank, ?_⟩
    rw [List.append_assoc, List.takeWhile_append_dropWhile, takeWhile_append_trimStart]
  · intro none
    have stands := List.head?_dropWhile_not isBlankChar text
    rw [← trimStart] at stands
    cases rest : text.trimStart with
    | nil =>
      rw [trimStart, List.dropWhile_eq_nil_iff] at rest
      rw [isBlank, List.all_eq_true.mpr rest] at solid
      cases solid
    | cons c rest => simp_all
  · intro c member
    simpa using List.mem_takeWhile_imp member
  · intro c head
    have stops := List.head?_dropWhile_not (fun c => !isBlankChar c) text.trimStart
    rw [head] at stops
    simpa using stops

/-- **A text is blank when it has no words.** -/
theorem words_eq_nil_iff {text : Text} : words text = [] ↔ isBlank text = true := by
  constructor
  · intro none
    by_contra solid
    obtain ⟨word, behind, first⟩ := exists_firstWord (by simpa using solid)
    rw [first.words_eq] at none
    cases none
  · intro white
    have whole := words_blank_append white []
    rw [List.append_nil] at whole
    exact whole

/-- **The first word of a text and the words behind it.** -/
theorem words_eq_cons_iff {text word : Text} {later : List Text} :
    words text = word :: later ↔
      ∃ behind : Text, FirstWord text word behind ∧ words behind = later := by
  constructor
  · intro cut
    have solid : isBlank text = false := by
      by_contra white
      rw [words_eq_nil_iff.mpr (by simpa using white)] at cut
      cases cut
    obtain ⟨found, behind, first⟩ := exists_firstWord solid
    rw [first.words_eq] at cut
    obtain ⟨rfl, rest⟩ := List.cons.inj cut
    exact ⟨behind, first, rest⟩
  · rintro ⟨behind, first, rfl⟩
    exact first.words_eq

end Hygiene.Text
