import Mathlib.Data.List.Sort
import Hygiene.Path

/-!
# The order of paths

The components of paths are ordered, the root first and the names behind everything else, and
paths are compared by their components from the left. This is a linear order on components, so
two spellings are at the same place in it exactly when they are spellings of one path
(`order_eq_iff`).

A list of paths is sorted when it grows strictly. It is known by the paths in it, up to their
spelling (`Sorted.components_eq`).
-/

set_option autoImplicit false

namespace Hygiene.Path

namespace Component

theorem compare_name (left right : Text) :
    compare (Component.name left) (Component.name right) = compare left right := by
  show (compare left right).then .eq = compare left right
  rw [Ordering.then_eq]

instance : Std.OrientedOrd Component where
  eq_swap {left right} := by
    cases left with
    | name text =>
      cases right with
      | name other =>
        rw [compare_name, compare_name]
        exact Std.OrientedOrd.eq_swap
      | root => rfl
      | here => rfl
      | above => rfl
    | root => cases right <;> rfl
    | here => cases right <;> rfl
    | above => cases right <;> rfl

instance : Std.TransOrd Component where
  isLE_trans {first second third} earlier later := by
    -- Two names are compared as texts, and all else is settled by the kinds of the steps.
    cases first <;> cases second <;> cases third
    case name.name.name first second third =>
      rw [compare_name] at earlier later ⊢
      exact Std.TransOrd.isLE_trans earlier later
    all_goals first | rfl | exact earlier | exact later | exact nomatch earlier

instance : Std.LawfulEqOrd Component where
  compare_self {component} := by
    cases component with
    | name text =>
      rw [compare_name]
      exact Std.ReflCmp.compare_self
    | root => rfl
    | here => rfl
    | above => rfl
  eq_of_compare {left right} same := by
    cases left <;> cases right
    case name.name left right =>
      rw [compare_name] at same
      rw [Std.LawfulEqCmp.eq_of_compare same]
    all_goals first | rfl | cases same

end Component

/-- Paths are at the same place in the order when they have the same components. -/
theorem order_eq_iff (left right : Path) :
    left.order right = .eq ↔ left.components = right.components :=
  Std.LawfulEqOrd.compare_eq_iff_eq

theorem order_lt_trans {first second third : Path} (earlier : first.order second = .lt)
    (later : second.order third = .lt) : first.order third = .lt := by
  rw [order] at earlier later ⊢
  exact Std.TransCmp.lt_trans earlier later

theorem order_gt_iff (left right : Path) :
    left.order right = .gt ↔ right.order left = .lt := by
  rw [order, order]
  exact Std.OrientedCmp.gt_iff_lt

/-! ## Sorted lists -/

/-- Each path of a list comes before all later ones. -/
def Sorted (paths : List Path) : Prop :=
  paths.Pairwise fun left right => left.order right = .lt

/-- Sorted lists of the same paths are the same, up to the spelling of the paths. -/
theorem Sorted.components_eq {left right : List Path} (first : Sorted left)
    (second : Sorted right)
    (same : ∀ components, components ∈ left.map Path.components ↔
      components ∈ right.map Path.components) :
    left.map Path.components = right.map Path.components := by
  have grows : ∀ {paths : List Path}, Sorted paths →
      (paths.map Path.components).Pairwise fun left right => compare left right = .lt :=
    fun sorted => List.pairwise_map.mpr sorted
  have irreflexive : Std.Irrefl fun left right : List Component => compare left right = .lt :=
    ⟨fun components before => by
      have alike : compare components components = .eq := Std.ReflCmp.compare_self
      rw [alike] at before
      cases before⟩
  have antisymmetric : Std.Antisymm fun left right : List Component => compare left right = .lt :=
    ⟨fun left right before behind => by
      have after : compare left right = .gt := Std.OrientedCmp.gt_iff_lt.mpr behind
      rw [after] at before
      cases before⟩
  exact List.Pairwise.eq_of_mem_iff (grows first) (grows second) same

end Hygiene.Path
