import Mathlib.Data.List.Basic
import Mathlib.Data.List.Forall2

/-!
# Lists that are related element by element

Two lists whose elements are related one by one, where the relation keeps what a test reads, have
the same elements found, kept and counted by the test, up to the relation. Sorting keeps to this
as well, when related elements are sorted alike (`forall₂_mergeSort`).
-/

set_option autoImplicit false

namespace Hygiene.Pointwise

open List (Forall₂)

variable {α β γ : Type} {R : α → β → Prop}

/-! ## Values that may be missing -/

theorem rel_imp {S : α → β → Prop} {first : Option α} {second : Option β}
    (related : Option.Rel R first second) (keeps : ∀ a b, R a b → S a b) :
    Option.Rel S first second := by
  cases related with
  | some holds => exact .some (keeps _ _ holds)
  | none => exact .none

theorem rel_map {δ : Type} {S : γ → δ → Prop} {f : α → γ} {g : β → δ} {first : Option α}
    {second : Option β} (related : Option.Rel R first second)
    (keeps : ∀ a b, R a b → S (f a) (g b)) : Option.Rel S (first.map f) (second.map g) := by
  cases related with
  | some holds => exact .some (keeps _ _ holds)
  | none => exact .none

theorem rel_bind {δ : Type} {S : γ → δ → Prop} {f : α → Option γ} {g : β → Option δ}
    {first : Option α} {second : Option β} (related : Option.Rel R first second)
    (keeps : ∀ a b, R a b → Option.Rel S (f a) (g b)) :
    Option.Rel S (first.bind f) (second.bind g) := by
  cases related with
  | some holds => exact keeps _ _ holds
  | none => exact .none

theorem rel_getD {δ : Type} {S : γ → δ → Prop} {f : α → γ} {g : β → δ} {first : Option α}
    {second : Option β} (related : Option.Rel R first second) (keeps : ∀ a b, R a b → S (f a) (g b))
    {other : γ} {another : δ} (otherwise : S other another) :
    S ((first.map f).getD other) ((second.map g).getD another) := by
  cases related with
  | some holds => exact keeps _ _ holds
  | none => exact otherwise

theorem map_eq {f : α → γ} {g : β → γ} {first : Option α} {second : Option β}
    (related : Option.Rel R first second) (keeps : ∀ a b, R a b → f a = g b) :
    first.map f = second.map g := by
  cases related with
  | some holds => exact congrArg some (keeps _ _ holds)
  | none => rfl

theorem bind_eq {f : α → Option γ} {g : β → Option γ} {first : Option α} {second : Option β}
    (related : Option.Rel R first second) (keeps : ∀ a b, R a b → f a = g b) :
    first.bind f = second.bind g := by
  cases related with
  | some holds => exact keeps _ _ holds
  | none => rfl

theorem isNone_eq {first : Option α} {second : Option β} (related : Option.Rel R first second) :
    first.isNone = second.isNone := by
  cases related <;> rfl

/-! ## Lists -/

/-- Lists that differ in one element only. -/
theorem forall₂_replace {S : α → α → Prop} (refl : ∀ a, S a a) {first second : α}
    (related : S first second) (left right : List α) :
    Forall₂ S (left ++ first :: right) (left ++ second :: right) :=
  List.rel_append (List.forall₂_same.mpr fun a _ => refl a)
    (.cons related (List.forall₂_same.mpr fun a _ => refl a))

variable {first : List α} {second : List β} (related : Forall₂ R first second)
include related

/-- What is found is related and passes the test. -/
theorem rel_find_and {p : α → Bool} {q : β → Bool} (same : ∀ a b, R a b → p a = q b) :
    Option.Rel (fun a b => R a b ∧ p a = true) (first.find? p) (second.find? q) := by
  induction related with
  | nil => exact .none
  | @cons a b _ _ holds _ ih =>
    rw [List.find?_cons, List.find?_cons, ← same _ _ holds]
    cases passes : p a with
    | true => exact .some ⟨holds, passes⟩
    | false => exact ih

theorem rel_find {p : α → Bool} {q : β → Bool} (same : ∀ a b, R a b → p a = q b) :
    Option.Rel R (first.find? p) (second.find? q) :=
  rel_imp (rel_find_and related same) fun _ _ both => both.1

theorem forall₂_filter {p : α → Bool} {q : β → Bool} (same : ∀ a b, R a b → p a = q b) :
    Forall₂ R (first.filter p) (second.filter q) :=
  List.rel_filter (fun a b holds => by simp only [same a b holds]) related

theorem any_eq {p : α → Bool} {q : β → Bool} (same : ∀ a b, R a b → p a = q b) :
    first.any p = second.any q := by
  induction related with
  | nil => rfl
  | cons holds _ ih => rw [List.any_cons, List.any_cons, same _ _ holds, ih]

theorem isEmpty_eq : first.isEmpty = second.isEmpty := by
  cases related <;> rfl

theorem rel_head : Option.Rel R first.head? second.head? := by
  cases related with
  | nil => exact .none
  | cons holds _ => exact .some holds

theorem filterMap_eq {f : α → Option γ} {g : β → Option γ} (same : ∀ a b, R a b → f a = g b) :
    first.filterMap f = second.filterMap g := by
  induction related with
  | nil => rfl
  | cons holds _ ih => rw [List.filterMap_cons, List.filterMap_cons, same _ _ holds, ih]

theorem foldl_eq {f : γ → α → γ} {g : γ → β → γ} (same : ∀ c a b, R a b → f c a = g c b)
    (start : γ) : first.foldl f start = second.foldl g start := by
  induction related generalizing start with
  | nil => rfl
  | cons holds _ ih => rw [List.foldl_cons, List.foldl_cons, same _ _ _ holds, ih]

/-- Each element of the second list is related to one of the first. -/
theorem exists_left {b : β} (member : b ∈ second) : ∃ a ∈ first, R a b := by
  induction related with
  | nil => cases member
  | cons holds _ ih =>
    rcases List.mem_cons.mp member with rfl | inside
    · exact ⟨_, List.mem_cons_self, holds⟩
    · obtain ⟨a, within, holds⟩ := ih inside
      exact ⟨a, List.mem_cons_of_mem _ within, holds⟩

/-- **Lists that are related are sorted into related lists.** -/
theorem forall₂_mergeSort {le : α → α → Bool} {below : β → β → Bool}
    (same : ∀ a b c d, R a b → R c d → le a c = below b d) :
    Forall₂ R (first.mergeSort le) (second.mergeSort below) := by
  -- Both lists are the two sides of one list of pairs, and that list can be sorted by either side.
  have both : ∀ pair ∈ first.zip second, R pair.1 pair.2 := fun pair member =>
    List.forall₂_zip related member
  have left : (first.zip second).map Prod.fst = first :=
    List.map_fst_zip (Nat.le_of_eq related.length_eq)
  have right : (first.zip second).map Prod.snd = second :=
    List.map_snd_zip (Nat.le_of_eq related.length_eq.symm)
  have sortedLeft := List.map_mergeSort (r := fun p q : α × β => le p.1 q.1) (s := le)
    (f := Prod.fst) (l := first.zip second) fun _ _ _ _ => rfl
  have sortedRight := List.map_mergeSort (r := fun p q : α × β => le p.1 q.1) (s := below)
    (f := Prod.snd) (l := first.zip second) fun p inside q within =>
      same _ _ _ _ (both p inside) (both q within)
  rw [left] at sortedLeft
  rw [right] at sortedRight
  rw [← sortedLeft, ← sortedRight, List.forall₂_map_left_iff, List.forall₂_map_right_iff,
    List.forall₂_same]
  exact fun pair member => both pair (List.mem_mergeSort.mp member)

end Hygiene.Pointwise
