import Mathlib.Data.List.Basic
import Hygiene.Text.Blank

/-!
# Fields of a text

A separating character parts the fields before it from those behind it
(`fields_append_cons`), and none stands in a field (`plain_of_mem_fields`). So what is said of the
fields of a text can be proved for one field and then for two texts with a separating character
between them (`fieldsInduction`). Texts that are joined are the fields of the whole
(`fields_join`). Blank characters at the end of a text do not change its words
(`words_append_blank`).
-/

set_option autoImplicit false

namespace Hygiene

namespace Text

variable (separates : Char → Bool)

theorem fields_nil : fields [] separates = [[]] := rfl

theorem fields_cons_of_pos {c : Char} (rest : Text) (separator : separates c = true) :
    fields (c :: rest) separates = [] :: fields rest separates := by
  rw [fields, List.foldr_cons, if_pos separator]
  rfl

theorem fields_cons_of_neg {c : Char} (rest : Text) (plain : separates c = false) :
    fields (c :: rest) separates =
      match fields rest separates with
      | [] => [[c]]
      | field :: others => (c :: field) :: others := by
  rw [fields, List.foldr_cons, if_neg (by simp [plain])]
  rfl

theorem fields_ne_nil (text : Text) : fields text separates ≠ [] := by
  cases text with
  | nil => exact List.cons_ne_nil _ _
  | cons c rest =>
    cases kind : separates c with
    | true =>
      rw [fields_cons_of_pos separates rest kind]
      exact List.cons_ne_nil _ _
    | false =>
      rw [fields_cons_of_neg separates rest kind]
      cases fields rest separates <;> exact List.cons_ne_nil _ _

/-- A separating character parts the fields before it from those behind it. -/
theorem fields_append_cons (left right : Text) {c : Char} (separator : separates c = true) :
    fields (left ++ c :: right) separates = fields left separates ++ fields right separates := by
  induction left with
  | nil => exact fields_cons_of_pos separates right separator
  | cons d left ih =>
    cases kind : separates d with
    | true =>
      rw [List.cons_append, fields_cons_of_pos separates _ kind,
        fields_cons_of_pos separates _ kind, ih]
      rfl
    | false =>
      rw [List.cons_append, fields_cons_of_neg separates _ kind,
        fields_cons_of_neg separates _ kind, ih]
      cases found : fields left separates with
      | nil => exact absurd found (fields_ne_nil separates left)
      | cons field others => rfl

/-- A text without a separating character is one field. -/
theorem fields_of_plain {text : Text} (plain : ∀ c ∈ text, separates c = false) :
    fields text separates = [text] := by
  induction text with
  | nil => rfl
  | cons c rest ih =>
    rw [fields_cons_of_neg separates rest (plain c List.mem_cons_self),
      ih fun d member => plain d (List.mem_cons_of_mem c member)]

/-- No separating character stands in a field. -/
theorem plain_of_mem_fields {text field : Text} (member : field ∈ fields text separates) :
    ∀ c ∈ field, separates c = false := by
  induction text generalizing field with
  | nil =>
    rw [fields_nil, List.mem_singleton] at member
    simp [member]
  | cons c rest ih =>
    cases kind : separates c with
    | true =>
      rw [fields_cons_of_pos separates rest kind, List.mem_cons] at member
      rcases member with rfl | later
      · simp
      · exact ih later
    | false =>
      rw [fields_cons_of_neg separates rest kind] at member
      cases found : fields rest separates with
      | nil => exact absurd found (fields_ne_nil separates rest)
      | cons first others =>
        rw [found] at member ih
        rcases List.mem_cons.mp member with rfl | later
        · intro d inside
          rcases List.mem_cons.mp inside with rfl | behind
          · exact kind
          · exact ih List.mem_cons_self d behind
        · exact ih (List.mem_cons_of_mem first later)

/-- A text is without separating characters, or it has two shorter texts on the sides of one. -/
theorem fieldsInduction {motive : Text → Prop}
    (plain : ∀ text : Text, (∀ c ∈ text, separates c = false) → motive text)
    (parted : ∀ (left : Text) (c : Char) (right : Text), separates c = true → motive left →
      motive right → motive (left ++ c :: right)) (text : Text) : motive text := by
  induction size : text.length using Nat.strongRecOn generalizing text with
  | ind bound ih =>
    by_cases single : ∀ c ∈ text, separates c = false
    · exact plain text single
    · obtain ⟨c, member, separator⟩ : ∃ c ∈ text, separates c = true := by simpa using single
      obtain ⟨left, right, rfl⟩ := List.append_of_mem member
      rw [List.length_append, List.length_cons] at size
      exact parted left c right separator (ih left.length (by omega) left rfl)
        (ih right.length (by omega) right rfl)

theorem join_singleton (separator text : Text) : join separator [text] = text := by
  simp [join]

theorem join_cons_cons (separator first second : Text) (others : List Text) :
    join separator (first :: second :: others) =
      first ++ separator ++ join separator (second :: others) := by
  simp [join]

/-- Two joined texts are put together with the separator between them. -/
theorem join_append (separator : Text) {left right : List Text} (first : left ≠ [])
    (second : right ≠ []) :
    join separator (left ++ right) = join separator left ++ separator ++ join separator right := by
  induction left with
  | nil => exact absurd rfl first
  | cons text others ih =>
    cases others with
    | nil =>
      obtain ⟨other, later, rfl⟩ := List.exists_cons_of_ne_nil second
      rw [List.singleton_append, join_cons_cons, join_singleton]
    | cons other later =>
      have inner := ih (List.cons_ne_nil other later)
      rw [List.cons_append] at inner
      rw [List.cons_append, List.cons_append, join_cons_cons, join_cons_cons, inner]
      simp only [List.append_assoc]

/-- Texts without a separating character are the fields of what they are joined to. -/
theorem fields_join {c : Char} {texts : List Text} (filled : texts ≠ [])
    (plain : ∀ text ∈ texts, c ∉ text) : fields (join [c] texts) (· = c) = texts := by
  induction texts with
  | nil => exact absurd rfl filled
  | cons text others ih =>
    have alone : fields text (· = c) = [text] := by
      apply fields_of_plain
      intro d member
      rw [decide_eq_false_iff_not]
      rintro rfl
      exact plain text List.mem_cons_self member
    cases others with
    | nil => rw [join_singleton, alone]
    | cons other later =>
      rw [join_cons_cons, List.append_assoc, List.singleton_append,
        fields_append_cons _ text _ (by simp), alone,
        ih (List.cons_ne_nil other later)
          fun inner member => plain inner (List.mem_cons_of_mem text member)]
      rfl

/-- Joined texts are the first ones with the separator behind each, and the last one. -/
theorem join_concat (separator : Text) (texts : List Text) (last : Text) :
    join separator (texts ++ [last]) = (texts.map (· ++ separator)).flatten ++ last := by
  induction texts with
  | nil => exact join_singleton separator last
  | cons text texts ih =>
    obtain ⟨other, later, split⟩ := List.exists_cons_of_ne_nil
      (List.append_ne_nil_of_right_ne_nil texts (List.cons_ne_nil last []))
    rw [List.cons_append, split, join_cons_cons, ← split, ih, List.map_cons, List.flatten_cons]
    exact (List.append_assoc _ _ _).symm

/-- A blank character at the end of a text adds no word. -/
theorem words_append_blank (text : Text) {c : Char} (blank : isBlankChar c = true) :
    words (text ++ [c]) = words text := by
  rw [words, words, fields_append_cons _ text [] blank, fields_nil, List.filter_append]
  simp

end Text

end Hygiene
