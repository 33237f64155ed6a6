import Mathlib.Data.List.Basic
import Hygiene.Header.Notice

/-!
# Years that are read

A year is written with four decimal digits, and a span of years is two of them with a hyphen
between. What is read off the front of a text is a year or a span that a space follows
(`leadingYears_eq_some_iff`), and what is read off a line is one of them wherever it stands
(`yearsIn_eq_some`).

A policy accepts the years that it names (`YearPolicy.Accepts`): any year or span of years, or
the decimal form of the one that is fixed.
-/

set_option autoImplicit false

namespace Hygiene.Header

/-- Four decimal digits. -/
def IsYear (text : Text) : Prop :=
  text.length = 4 ∧ text.all isDecimalDigit = true

instance (text : Text) : Decidable (IsYear text) :=
  inferInstanceAs (Decidable (_ ∧ _))

/-- A year, or a span of years. -/
inductive IsYears : Text → Prop where
  | year {digits : Text} (year : IsYear digits) : IsYears digits
  | span {first last : Text} (begins : IsYear first) (ends : IsYear last) :
      IsYears (first ++ '-' :: last)

/-- The years that a policy accepts, as they are written. -/
def YearPolicy.Accepts : YearPolicy → Text → Prop
  | .any, years => IsYears years
  | .fixed year, years => years = Text.ofInt year

/-! ## The characters of a year -/

theorem IsYear.isDecimalDigit {text : Text} (year : IsYear text) :
    ∀ c ∈ text, isDecimalDigit c = true :=
  List.all_eq_true.mp year.2

/-- Years consist of decimal digits, with a hyphen perhaps. -/
theorem IsYears.plain {years : Text} (read : IsYears years) :
    ∀ c ∈ years, isDecimalDigit c = true ∨ c = '-' := by
  intro c member
  cases read with
  | year year => exact .inl (year.isDecimalDigit c member)
  | span begins ends =>
    rw [List.mem_append, List.mem_cons] at member
    rcases member with first | hyphen | last
    · exact .inl (begins.isDecimalDigit c first)
    · exact .inr hyphen
    · exact .inl (ends.isDecimalDigit c last)

theorem plain_ofNat (number : Nat) : ∀ c ∈ Text.ofNat number, isDecimalDigit c = true :=
  fun c member =>
    isDecimalDigit_of_isDigit c (Nat.isDigit_of_mem_toDigits (by decide) (by decide) member)

theorem plain_ofInt (number : Int) :
    ∀ c ∈ Text.ofInt number, isDecimalDigit c = true ∨ c = '-' := by
  intro c member
  cases number with
  | ofNat number => exact .inl (plain_ofNat number c member)
  | negSucc number =>
    rcases List.mem_cons.mp member with rfl | later
    · exact .inr rfl
    · exact .inl (plain_ofNat (number + 1) c later)

theorem YearPolicy.Accepts.plain {policy : YearPolicy} {years : Text}
    (accepted : policy.Accepts years) : ∀ c ∈ years, isDecimalDigit c = true ∨ c = '-' := by
  cases policy with
  | any => exact IsYears.plain accepted
  | fixed year =>
    rw [show years = Text.ofInt year from accepted]
    exact plain_ofInt year

/-! ## Reading a year -/

/-- Four digits at the front of a text are read as a year. -/
theorem takeYear_append {digits : Text} (year : IsYear digits) (after : Text) :
    takeYear? (digits ++ after) = some (digits, after) := by
  obtain ⟨four, decimal⟩ := year
  obtain ⟨a, b, c, d, rfl⟩ := List.length_eq_four.mp four
  exact if_pos decimal

theorem takeYear_eq_some_iff {text digits after : Text} :
    takeYear? text = some (digits, after) ↔ IsYear digits ∧ text = digits ++ after := by
  constructor
  · intro taken
    rw [takeYear?.eq_def] at taken
    split at taken
    · split at taken
      · rename_i decimal
        rw [Option.some.injEq, Prod.mk.injEq] at taken
        obtain ⟨rfl, rfl⟩ := taken
        exact ⟨⟨rfl, decimal⟩, rfl⟩
      · cases taken
    · cases taken
  · rintro ⟨year, rfl⟩
    exact takeYear_append year after

/-- Years are read off the front of a text when a space follows them. -/
theorem leadingYears_append {years : Text} (read : IsYears years) (rest : Text) :
    leadingYears? (years ++ ' ' :: rest) = some years := by
  cases read with
  | year year =>
    rw [leadingYears?, takeYear_append year]
    rfl
  | @span first last begins ends =>
    have behind : takeYear? (last ++ ' ' :: rest) = some (last, ' ' :: rest) :=
      takeYear_append ends _
    rw [List.append_assoc, List.cons_append, leadingYears?, takeYear_append begins,
      Option.bind_some]
    simp only [behind, Option.bind_some, List.head?_cons, if_true]

theorem leadingYears_eq_some_iff {text years : Text} :
    leadingYears? text = some years ↔ IsYears years ∧ ∃ rest, text = years ++ ' ' :: rest := by
  constructor
  · intro read
    obtain ⟨⟨first, behind⟩, taken, found⟩ := Option.bind_eq_some_iff.mp read
    obtain ⟨begins, rfl⟩ := takeYear_eq_some_iff.mp taken
    dsimp only at found
    split at found
    · cases found
      exact ⟨.year begins, _, rfl⟩
    · obtain ⟨⟨last, after⟩, later, spanned⟩ := Option.bind_eq_some_iff.mp found
      obtain ⟨ends, rfl⟩ := takeYear_eq_some_iff.mp later
      dsimp only at spanned
      split at spanned
      · rename_i spaced
        obtain ⟨rest, rfl⟩ := List.head?_eq_some_iff.mp spaced
        cases spanned
        exact ⟨.span begins ends, rest, by simp⟩
      · cases spanned
    · cases found
  · rintro ⟨read, rest, rfl⟩
    exact leadingYears_append read rest

/-- What is read off a line is a year or a span of years. -/
theorem yearsIn_eq_some {text years : Text} (read : yearsIn? text = some years) :
    IsYears years := by
  induction text with
  | nil => cases read
  | cons c rest ih =>
    rw [yearsIn?, Option.or_eq_some_iff] at read
    rcases read with here | ⟨-, later⟩
    · obtain ⟨after, -, leading⟩ := Option.bind_eq_some_iff.mp here
      exact (leadingYears_eq_some_iff.mp leading).1
    · exact ih later

end Hygiene.Header
