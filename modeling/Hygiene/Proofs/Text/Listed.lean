import Hygiene.Proofs.Text.Content
import Hygiene.Proofs.Text.Fields

/-!
# Names between commas

A name stands in an entry when it is all of the entry but for blanks around it, or when it stands
in what is before a comma or behind one (`StandsIn`). These names are the trimmed fields of the
entry (`standsIn_iff`). Two entries hold the names of both when they are put together with a
comma, and blanks around an entry add no name.
-/

set_option autoImplicit false

namespace Hygiene.Text

/-! ## Trimmed texts -/

/-- A text that begins and ends with characters that are not blank. -/
structure Trimmed (text : Text) : Prop where
  nonempty : text ≠ []
  first : ∀ c ∈ text.head?, isBlankChar c = false
  last : ∀ c ∈ text.getLast?, isBlankChar c = false

theorem trim_append_blank (text : Text) {ends : Text} (white : isBlank ends = true) :
    (text ++ ends).trim = text.trim := by
  cases blank : isBlank text with
  | true =>
    rw [trim, trim, trimStart_of_isBlank blank, trimStart_of_isBlank (isBlank_append blank white)]
  | false =>
    rw [trim, trim, trimStart_append_of_not_isBlank blank, trimEnd_append_of_blank _ white]

theorem trim_blank_append {front : Text} (white : isBlank front = true) (text : Text) :
    (front ++ text).trim = text.trim := by
  rw [trim, trim, trimStart, List.dropWhile_append_of_pos (List.all_eq_true.mp white)]
  rfl

theorem Trimmed.trim_eq {text : Text} (trimmed : Trimmed text) : text.trim = text := by
  have start : text.trimStart = text := by
    cases text with
    | nil => rfl
    | cons c rest => exact List.dropWhile_cons_of_neg (by simp [trimmed.first c rfl])
  rw [trim, start]
  simpa [trimEnd, dropEndWhile] using dropEndWhile_append trimmed.last []

/-- A text is what trimming leaves of it between blanks. -/
theorem exists_around_trim (text : Text) :
    ∃ front ends : Text, text = front ++ text.trim ++ ends ∧ isBlank front = true ∧
      isBlank ends = true := by
  obtain ⟨ends, whole, dropped⟩ := exists_droppedEnd text.trimStart isBlankChar
  refine ⟨text.takeWhile isBlankChar, ends, ?_, isBlank_takeWhile text fun _ blank => blank,
    List.all_eq_true.mpr dropped⟩
  rw [List.append_assoc, trim, trimEnd, ← whole, takeWhile_append_trimStart]

theorem trimmed_trim {text : Text} (filled : text.trim ≠ []) : Trimmed text.trim where
  nonempty := filled
  first := by
    intro c head
    obtain ⟨behind, whole⟩ := isPrefix_dropEndWhile text.trimStart isBlankChar
    have solid := List.head?_dropWhile_not isBlankChar text
    obtain ⟨others, cut⟩ := List.head?_eq_some_iff.mp head
    rw [trim, trimEnd] at cut
    rw [← trimStart, ← whole, cut] at solid
    exact solid
  last := by
    intro c last
    have solid := List.head?_dropWhile_not isBlankChar text.trimStart.reverse
    rw [trim, trimEnd, dropEndWhile, List.getLast?_reverse] at last
    rw [last] at solid
    exact solid

/-! ## Names in an entry -/

/-- A name stands in an entry, alone between commas and ends but for blanks around it. -/
inductive StandsIn (name : Text) : Text → Prop where
  /-- Nothing else stands in the entry. -/
  | alone {front ends : Text} (before : isBlank front = true) (behind : isBlank ends = true) :
      StandsIn name (front ++ name ++ ends)
  /-- It stands in what is before a comma. -/
  | before {left : Text} (right : Text) (inside : StandsIn name left) :
      StandsIn name (left ++ ',' :: right)
  /-- It stands in what is behind a comma. -/
  | behind (left : Text) {right : Text} (inside : StandsIn name right) :
      StandsIn name (left ++ ',' :: right)

theorem isComma_of_isBlank {text : Text} (blank : isBlank text = true) :
    ∀ c ∈ text, decide (c = ',') = false := by
  intro c member
  rw [decide_eq_false_iff_not]
  rintro rfl
  exact absurd (List.all_eq_true.mp blank ',' member) (by decide)

/-- The names in an entry are the trimmed fields in which something stands. -/
theorem standsIn_iff {name : Text} (trimmed : Trimmed name) (plain : ',' ∉ name) (entry : Text) :
    StandsIn name entry ↔ ∃ field ∈ entry.fields (· = ','), field.trim = name := by
  constructor
  · intro stands
    induction stands with
    | @alone front ends before behind =>
      have single : ∀ c ∈ front ++ name ++ ends, decide (c = ',') = false := by
        intro c member
        rw [List.mem_append, List.mem_append] at member
        rcases member with (early | inside) | late
        · exact isComma_of_isBlank before c early
        · rw [decide_eq_false_iff_not]
          rintro rfl
          exact plain inside
        · exact isComma_of_isBlank behind c late
      refine ⟨front ++ name ++ ends, ?_, ?_⟩
      · rw [fields_of_plain _ single]
        exact List.mem_singleton_self _
      · rw [trim_append_blank _ behind, trim_blank_append before, trimmed.trim_eq]
    | @before left right inside ih =>
      obtain ⟨field, member, same⟩ := ih
      rw [fields_append_cons _ left right (by simp)]
      exact ⟨field, List.mem_append_left _ member, same⟩
    | @behind left right inside ih =>
      obtain ⟨field, member, same⟩ := ih
      rw [fields_append_cons _ left right (by simp)]
      exact ⟨field, List.mem_append_right _ member, same⟩
  · rintro ⟨field, member, rfl⟩
    induction entry using fieldsInduction (· = ',') with
    | plain text single =>
      rw [fields_of_plain _ single, List.mem_singleton] at member
      subst member
      obtain ⟨front, ends, whole, before, behind⟩ := exists_around_trim field
      have alone : StandsIn field.trim (front ++ field.trim ++ ends) := .alone before behind
      rwa [← whole] at alone
    | parted left c right separator first second =>
      obtain rfl : c = ',' := by simpa using separator
      rw [fields_append_cons _ left right separator, List.mem_append] at member
      rcases member with early | late
      · exact .before right (first early)
      · exact .behind left (second late)

/-- The trimmed fields of an entry. -/
def trimmedFields (entry : Text) : List Text :=
  (entry.fields (· = ',')).map trim

theorem trimmedFields_joined (left right : Text) :
    trimmedFields (left ++ ',' :: right) = trimmedFields left ++ trimmedFields right := by
  rw [trimmedFields, fields_append_cons _ left right (by simp), List.map_append]
  rfl

theorem trimmedFields_blank_append {front : Text} (white : isBlank front = true) (entry : Text) :
    trimmedFields (front ++ entry) = trimmedFields entry := by
  induction entry using fieldsInduction (· = ',') with
  | plain text single =>
    have plain : ∀ c ∈ front ++ text, decide (c = ',') = false := fun c member =>
      (List.mem_append.mp member).elim (isComma_of_isBlank white c) (single c)
    rw [trimmedFields, trimmedFields, fields_of_plain _ plain, fields_of_plain _ single]
    simp only [List.map_cons, List.map_nil, trim_blank_append white]
  | parted left c right separator first second =>
    obtain rfl : c = ',' := by simpa using separator
    rw [← List.append_assoc, trimmedFields_joined, trimmedFields_joined, first]

theorem trimmedFields_append_blank (entry : Text) {ends : Text} (white : isBlank ends = true) :
    trimmedFields (entry ++ ends) = trimmedFields entry := by
  induction entry using fieldsInduction (· = ',') with
  | plain text single =>
    have plain : ∀ c ∈ text ++ ends, decide (c = ',') = false := fun c member =>
      (List.mem_append.mp member).elim (single c) (isComma_of_isBlank white c)
    rw [trimmedFields, trimmedFields, fields_of_plain _ plain, fields_of_plain _ single]
    simp only [List.map_cons, List.map_nil, trim_append_blank _ white]
  | parted left c right separator first second =>
    obtain rfl : c = ',' := by simpa using separator
    rw [List.append_assoc, List.cons_append, trimmedFields_joined, trimmedFields_joined, second]

end Hygiene.Text
