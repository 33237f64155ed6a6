import Mathlib.Data.List.Basic

/-!
# Stable sorting

Sorting is stable, so it does not matter whether what is not wanted is left out before or after
it (`filter_mergeSort`). When a finer order agrees with the order in which alike elements come,
sorting by the finer order gives the same (`mergeSort_eq_of_finer`).
-/

set_option autoImplicit false

namespace Hygiene.Sorting

variable {α : Type}

/-- A list is cut in two in one place only, when a test holds in front of the cut and not
behind it. -/
theorem cut_unique {p : α → Prop} {front back first last : List α}
    (same : front ++ back = first ++ last) (holds : ∀ item ∈ front, p item)
    (fails : ∀ item ∈ back, ¬ p item) (alsoHolds : ∀ item ∈ first, p item)
    (alsoFails : ∀ item ∈ last, ¬ p item) : front = first ∧ back = last := by
  induction front generalizing first with
  | nil =>
    cases first with
    | nil => exact ⟨rfl, same⟩
    | cons head others =>
      rw [List.nil_append] at same
      exact absurd (alsoHolds head List.mem_cons_self) (fails head (by simp [same]))
  | cons head others ih =>
    cases first with
    | nil =>
      rw [List.nil_append] at same
      exact absurd (holds head List.mem_cons_self) (alsoFails head (by simp [← same]))
    | cons start more =>
      rw [List.cons_append, List.cons_append, List.cons.injEq] at same
      obtain ⟨rfl, rest⟩ := same
      obtain ⟨rfl, rfl⟩ := ih rest (fun item member => holds item (List.mem_cons_of_mem _ member))
        (fun item member => alsoHolds item (List.mem_cons_of_mem _ member))
      exact ⟨rfl, rfl⟩

section Order

variable {le : α → α → Bool} (trans : ∀ a b c, le a b = true → le b c = true → le a c = true)
  (total : ∀ a b, (le a b || le b a) = true)
include trans total

/-- The first element of a list is sorted into the rest in front of everything that is not
smaller. -/
theorem mergeSort_cons_cut (head : α) (items : List α) :
    ∃ smaller others, (head :: items).mergeSort le = smaller ++ head :: others ∧
      items.mergeSort le = smaller ++ others ∧
      (∀ item ∈ smaller, le head item = false) ∧ ∀ item ∈ others, le head item = true := by
  obtain ⟨smaller, others, sorted, rest, apart⟩ := List.mergeSort_cons trans total head items
  refine ⟨smaller, others, sorted, rest, by simpa using apart, ?_⟩
  have ordered := List.pairwise_mergeSort trans total (head :: items)
  rw [sorted, List.pairwise_append, List.pairwise_cons] at ordered
  exact ordered.2.1.1

/-- **What is not wanted can be left out before or after sorting.** -/
theorem filter_mergeSort (wanted : α → Bool) (items : List α) :
    (items.mergeSort le).filter wanted = (items.filter wanted).mergeSort le := by
  induction items with
  | nil => simp
  | cons head items ih =>
    obtain ⟨smaller, others, sorted, rest, below, above⟩ :=
      mergeSort_cons_cut trans total head items
    rw [rest, List.filter_append] at ih
    cases kept : wanted head with
    | false =>
      rw [sorted, List.filter_append, List.filter_cons_of_neg (by simp [kept]),
        List.filter_cons_of_neg (by simp [kept]), ih]
    | true =>
      obtain ⟨first, last, again, behind, under, beyond⟩ :=
        mergeSort_cons_cut trans total head (items.filter wanted)
      obtain ⟨rfl, rfl⟩ := cut_unique (p := fun item => le head item = false)
        (ih.trans behind)
        (fun item member => below item (List.mem_of_mem_filter member))
        (fun item member => by simp [above item (List.mem_of_mem_filter member)])
        under (fun item member => by simp [beyond item member])
      rw [sorted, List.filter_append, List.filter_cons_of_pos kept,
        List.filter_cons_of_pos kept, again]

/-- **Sorting is sorting by a finer order** that tells the elements apart, when alike elements
come in that order. -/
theorem mergeSort_eq_of_finer {finer : α → α → Bool}
    (refines : ∀ a b, finer a b = true → le a b = true)
    (finerTrans : ∀ a b c, finer a b = true → finer b c = true → finer a c = true)
    (finerTotal : ∀ a b, (finer a b || finer b a) = true) {items : List α}
    (apart : ∀ a ∈ items, ∀ b ∈ items, finer a b = true → finer b a = true → a = b)
    (ties : items.Pairwise fun a b => le a b = true → finer a b = true) :
    items.mergeSort le = items.mergeSort finer := by
  have ordered : ((items.mergeSort le).Pairwise fun a b => finer a b = true) := by
    clear apart
    induction items with
    | nil => simp
    | cons head items ih =>
      obtain ⟨inFront, behind⟩ := List.pairwise_cons.mp ties
      obtain ⟨smaller, others, sorted, rest, below, above⟩ :=
        mergeSort_cons_cut trans total head items
      have inner := ih behind
      rw [rest, List.pairwise_append] at inner
      obtain ⟨first, last, across⟩ := inner
      have member : ∀ item ∈ others, item ∈ items := fun item inside =>
        List.mem_mergeSort.mp (by rw [rest]; exact List.mem_append_right _ inside)
      have before : ∀ item ∈ smaller, finer item head = true := by
        intro item inside
        rcases Bool.or_eq_true_iff.mp (finerTotal item head) with yes | no
        · exact yes
        · exact absurd (refines head item no) (by simp [below item inside])
      have after : ∀ item ∈ others, finer head item = true := fun item inside =>
        inFront item (member item inside) (above item inside)
      rw [sorted, List.pairwise_append, List.pairwise_cons]
      refine ⟨first, ⟨after, last⟩, fun item inside other within => ?_⟩
      rcases List.mem_cons.mp within with rfl | within
      · exact before item inside
      · exact across item inside other within
  refine List.Perm.eq_of_pairwise ?_ ordered
    (List.pairwise_mergeSort finerTrans finerTotal items)
    ((List.mergeSort_perm items le).trans (List.mergeSort_perm items finer).symm)
  intro a b first second
  exact apart a (List.mem_mergeSort.mp first) b (List.mem_mergeSort.mp second)

end Order

end Hygiene.Sorting
