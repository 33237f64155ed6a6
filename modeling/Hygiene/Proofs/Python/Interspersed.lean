import Hygiene.Proofs.Python.Pointwise

/-!
# Lists that are related up to added elements

Two lists are interspersed when the second has, in order, elements that are related to those of the
first, and added elements anywhere between them. A test that related elements pass alike and that
no added element passes does not tell the lists apart: what passes it is related one by one
(`Interspersed.forall₂_filter`), and so is the first element found (`Interspersed.rel_find`).
-/

set_option autoImplicit false

namespace Hygiene.Pointwise

open List (Forall₂)

/-- Lists that are related one by one, but for elements that the second has besides. -/
inductive Interspersed {α β : Type} (R : α → β → Prop) (Added : β → Prop) :
    List α → List β → Prop
  | nil : Interspersed R Added [] []
  | kept {a : α} {b : β} {first : List α} {second : List β} (holds : R a b)
      (further : Interspersed R Added first second) :
      Interspersed R Added (a :: first) (b :: second)
  | added {b : β} {first : List α} {second : List β} (extra : Added b)
      (further : Interspersed R Added first second) :
      Interspersed R Added first (b :: second)

namespace Interspersed

variable {α β γ δ : Type} {R S : α → β → Prop} {Added More : β → Prop}
  {first others : List α} {second rest : List β}

/-- Two lists that are related one by one have nothing added. -/
theorem of_forall₂ (related : Forall₂ R first second) : Interspersed R Added first second := by
  induction related with
  | nil => exact .nil
  | cons holds _ ih => exact .kept holds ih

/-- What relates the elements can be weakened where the elements come from the lists. -/
theorem imp_mem (interspersed : Interspersed R Added first second)
    (keeps : ∀ a ∈ first, ∀ b, R a b → S a b) (adds : ∀ b, Added b → More b) :
    Interspersed S More first second := by
  induction interspersed with
  | nil => exact .nil
  | kept holds _ ih =>
    apply kept (keeps _ List.mem_cons_self _ holds)
    exact ih fun a member => keeps a (List.mem_cons_of_mem _ member)
  | added extra _ ih => exact added (adds _ extra) (ih keeps)

theorem append (interspersed : Interspersed R Added first second)
    (further : Interspersed R Added others rest) :
    Interspersed R Added (first ++ others) (second ++ rest) := by
  induction interspersed with
  | nil => exact further
  | kept holds _ ih => exact .kept holds ih
  | added extra _ ih => exact .added extra ih

theorem map {T : γ → δ → Prop} {Other : δ → Prop} {f : α → γ} {g : β → δ}
    (interspersed : Interspersed R Added first second) (keeps : ∀ a b, R a b → T (f a) (g b))
    (adds : ∀ b, Added b → Other (g b)) :
    Interspersed T Other (first.map f) (second.map g) := by
  induction interspersed with
  | nil => exact .nil
  | kept holds _ ih => exact .kept (keeps _ _ holds) ih
  | added extra _ ih => exact .added (adds _ extra) ih

section

variable (interspersed : Interspersed R Added first second) {p : α → Bool} {q : β → Bool}
  (same : ∀ a b, R a b → p a = q b) (fails : ∀ b, Added b → q b = false)
include interspersed same fails

/-- What passes a test that no added element passes is related one by one. -/
theorem forall₂_filter : Forall₂ R (first.filter p) (second.filter q) := by
  induction interspersed with
  | nil => exact .nil
  | @kept a b _ _ holds _ ih =>
    rw [List.filter_cons, List.filter_cons, same a b holds]
    cases q b with
    | true => exact .cons holds ih
    | false => exact ih
  | @added b _ _ extra _ ih =>
    rw [List.filter_cons, fails b extra]
    exact ih

/-- What is found by a test that no added element passes is related. -/
theorem rel_find : Option.Rel R (first.find? p) (second.find? q) := by
  rw [← List.head?_filter, ← List.head?_filter]
  exact rel_head (interspersed.forall₂_filter same fails)

theorem any_eq : first.any p = second.any q := by
  induction interspersed with
  | nil => rfl
  | kept holds _ ih => rw [List.any_cons, List.any_cons, same _ _ holds, ih]
  | added extra _ ih => rw [List.any_cons, fails _ extra, Bool.false_or, ih]

end

end Interspersed

end Hygiene.Pointwise
