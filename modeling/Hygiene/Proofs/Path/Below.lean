import Hygiene.Proofs.Path.Normal

/-!
# Paths below a base

The steps of a path that is read from a base are those of the base and then those of the path
(`steps_join`). When a path lies below a base, the path that is left of it leads from the base
along the remaining steps (`steps_join_below`). So to take the base off and to put it in front
again does not change the steps.
-/

set_option autoImplicit false

namespace Hygiene.Path

/-- The steps of a path are those of its route that do not stay where they are. -/
theorem steps_eq_filter_route (path : Path) :
    steps path.fields = (FileTree.route path).filter fun step => step != .here := by
  rw [FileTree.route, steps, List.filter_map, List.filter_filter]
  have moves : ∀ field : Text, isVoid field = false ↔
      FileTree.stepAlong field ≠ .here ∧ field ≠ [] := by
    intro field
    rw [FileTree.stepAlong, stepOf, isVoid, Bool.or_eq_false_iff, List.isEmpty_eq_false_iff,
      beq_eq_false_iff_ne, and_comm]
    refine and_congr_left fun _ => ?_
    split
    · simp_all
    · split <;> simp_all
  have kept : (path.fields.filter fun field =>
      ((fun step => step != Component.here) ∘ FileTree.stepAlong) field && !field.isEmpty) =
        path.fields.filter fun field => !isVoid field := by
    apply List.filter_congr
    intro field _
    rw [Bool.eq_iff_iff, Bool.not_eq_true', moves]
    simp
  rw [kept]
  apply List.map_congr_left
  intro field member
  have solid : isVoid field = false := by simpa using (List.mem_filter.mp member).2
  rw [FileTree.stepAlong, if_neg]
  rintro rfl
  cases solid

/-- A path that is read from another one has the steps of both. -/
theorem steps_join {base path : Path} (start : base.spelling ≠ [])
    (relative : path.isAbsolute = false) :
    steps (base.join path).fields = steps base.fields ++ steps path.fields := by
  simp only [steps_eq_filter_route, FileTree.route_join start relative, List.filter_append]

/-- The fields of an absolute path begin with an empty one. -/
theorem fields_of_isAbsolute {path : Path} (absolute : path.isAbsolute = true) :
    ∃ rest, path.fields = [] :: rest := by
  rw [isAbsolute, beq_iff_eq] at absolute
  obtain ⟨rest, spelled⟩ := List.head?_eq_some_iff.mp absolute
  refine ⟨Text.fields rest (· = '/'), ?_⟩
  rw [fields, spelled]
  exact Text.fields_cons_of_pos _ rest (by simp)

/-- The components of an absolute path are the root and the steps behind it. -/
theorem components_of_isAbsolute {path : Path} (absolute : path.isAbsolute = true) :
    path.components = .root :: steps path.fields := by
  obtain ⟨others, cut⟩ := fields_of_isAbsolute absolute
  rw [components_eq (spelling_ne_nil_of_isAbsolute absolute) cut, cut]
  rfl

theorem isAbsolute_of_fields {path : Path} {rest : List Text} (nonempty : path.spelling ≠ [])
    (cut : path.fields = [] :: rest) : path.isAbsolute = true := by
  have spelled := join_fields path
  rw [cut] at spelled
  cases rest with
  | nil => exact absurd spelled.symm nonempty
  | cons first others =>
    rw [isAbsolute, ← spelled, Text.join_cons_cons]
    rfl

/-- Among relative paths only the empty one begins with an empty field. -/
theorem eq_empty_of_relative {path : Path} {rest : List Text} (relative : path.isAbsolute = false)
    (cut : path.fields = [] :: rest) : path = ⟨[]⟩ := by
  by_contra filled
  have nonempty : path.spelling ≠ [] := fun empty => filled (congrArg Path.mk empty)
  rw [isAbsolute_of_fields nonempty cut] at relative
  cases relative

/-! ## Taking a base off -/

/-- Steps that were taken off fields stood in front of the ones that are left. -/
theorem steps_of_dropSteps {others : List Component} {fields left : List Text}
    (found : dropSteps others fields = some left) : steps fields = others ++ steps left := by
  induction fields generalizing others with
  | nil =>
    cases others with
    | nil =>
      cases found
      rfl
    | cons step others => cases found
  | cons field rest ih =>
    cases others with
    | nil =>
      cases found
      rfl
    | cons step others =>
      rw [← List.singleton_append, steps_append]
      rw [dropSteps] at found
      split at found
      · rename_i hollow
        rw [ih found, steps_of_void (by simpa using hollow), List.nil_append]
      · rename_i solid
        split at found
        · rename_i same
          have only : steps [field] = [step] := by
            rw [steps, List.filter_cons_of_pos (by simpa using solid)]
            simp [same]
          rw [ih found, only, List.singleton_append, List.cons_append]
        · cases found

theorem subset_of_dropSteps {others : List Component} {fields left : List Text}
    (found : dropSteps others fields = some left) : left ⊆ fields := by
  induction fields generalizing others with
  | nil =>
    cases others with
    | nil =>
      cases found
      exact List.Subset.refl _
    | cons step others => cases found
  | cons field rest ih =>
    cases others with
    | nil =>
      cases found
      exact List.Subset.refl _
    | cons step others =>
      rw [dropSteps] at found
      split at found
      · exact List.Subset.trans (ih found) (List.subset_cons_self field rest)
      · split at found
        · exact List.Subset.trans (ih found) (List.subset_cons_self field rest)
        · cases found

/-- Fields without the void ones at either end spell a relative path with the same steps. -/
theorem steps_ofFields_trim {fields : List Text} (plain : ∀ field ∈ fields, '/' ∉ field) :
    (ofFields (trim fields)).isAbsolute = false ∧
      steps (ofFields (trim fields)).fields = steps fields := by
  by_cases solid : ∃ field ∈ fields, isVoid field = false
  · have inner := core_trim solid
    obtain ⟨field, member, -⟩ := solid
    have cut := fields_ofFields (List.ne_nil_of_mem member) plain
    have core := fields_ofFields inner.nonempty fun field found =>
      plain field (inner.subset found)
    have whole : Core (ofFields fields).fields (ofFields (trim fields)).fields := by
      rw [core, cut]
      exact inner
    exact ⟨whole.isAbsolute_eq, by rw [whole.steps_eq, cut]⟩
  · have void : ∀ field ∈ fields, isVoid field = true := by
      intro field member
      by_contra filled
      exact solid ⟨field, member, by simpa using filled⟩
    have nothing : trim fields = [] := by
      rw [trim, List.dropWhile_eq_nil_iff.mpr void]
      rfl
    rw [nothing, steps_of_void void]
    exact ⟨rfl, rfl⟩

/-- Only absolute paths lie below an absolute base. What is left of them is relative, and it
leads from the base along the steps of the path. -/
theorem below_eq_some {base path left : Path} (absolute : base.isAbsolute = true)
    (nonempty : path.spelling ≠ []) (found : below? base path = some left) :
    path.isAbsolute = true ∧ left.isAbsolute = false ∧
      steps path.fields = steps base.fields ++ steps left.fields := by
  rw [below?, components_of_isAbsolute absolute] at found
  cases fields : path.fields with
  | nil =>
    rw [fields] at found
    cases found
  | cons first rest =>
    rw [fields] at found
    cases first with
    | cons c text => cases found
    | nil =>
      obtain ⟨remaining, dropped, same⟩ := Option.map_eq_some_iff.mp found
      have plain : ∀ field ∈ remaining, '/' ∉ field := by
        intro field member
        have listed : field ∈ path.fields := by
          rw [fields]
          exact List.mem_cons_of_mem _ (subset_of_dropSteps dropped member)
        exact noSlash_of_mem_fields listed
      obtain ⟨relative, trimmed⟩ := steps_ofFields_trim plain
      have behind : steps ([] :: rest) = steps rest := rfl
      rw [← same, trimmed, behind]
      exact ⟨isAbsolute_of_fields nonempty fields, relative, steps_of_dropSteps dropped⟩

end Hygiene.Path
