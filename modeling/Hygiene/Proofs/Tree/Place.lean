import Hygiene.Proofs.Path.Normal
import Hygiene.Proofs.Tree.Leads

/-!
# Where plain paths lead

A path is plain when it is relative and does not lead upwards. In a tree without links the
steps of a plain path lead straight down along its names (`Leads.location_eq`), so a plain
path to a file is known by where it leads, up to its spelling (`components_eq_iff`).
-/

set_option autoImplicit false

namespace Hygiene

namespace FileTree

open Hygiene.Path (Component Core)

variable {tree : FileTree} {user : User}

/-! ## Steps along names -/

/-- Steps that do not lead upwards lead down along their names. -/
theorem Leads.location_eq {start found : Location} {steps : List Component}
    (leads : Leads tree user start steps found)
    (plain : ∀ step ∈ steps, step ≠ .root ∧ step ≠ .above) :
    found = start ++ steps.filterMap Component.name? := by
  induction leads with
  | arrived location => exact (List.append_nil location).symm
  | root _ _ _ => exact absurd rfl (plain .root List.mem_cons_self).1
  | above _ _ _ => exact absurd rfl (plain .above List.mem_cons_self).2
  | here _ _ ih => exact ih fun step member => plain step (List.mem_cons_of_mem _ member)
  | @name location found text later _ _ _ _ ih =>
    rw [ih fun step member => plain step (List.mem_cons_of_mem _ member),
      List.filterMap_cons_some (show Component.name? (.name text) = some text from rfl),
      List.append_assoc, List.singleton_append]

/-- The steps that a list of fields asks for. -/
def stepsAlong (fields : List Text) : List Component :=
  (fields.filter fun field => !field.isEmpty).map stepAlong

theorem stepsAlong_append (left right : List Text) :
    stepsAlong (left ++ right) = stepsAlong left ++ stepsAlong right := by
  rw [stepsAlong, List.filter_append, List.map_append]
  rfl

theorem route_eq_stepsAlong (path : Path) : route path = stepsAlong path.fields := rfl

theorem stepsAlong_of_void {fields : List Text}
    (void : ∀ field ∈ fields, Path.isVoid field = true) :
    ∀ step ∈ stepsAlong fields, step = .here := by
  intro step member
  obtain ⟨field, found, rfl⟩ := List.mem_map.mp member
  obtain ⟨inside, filled⟩ := List.mem_filter.mp found
  have hollow := void field inside
  rw [Path.isVoid, Bool.or_eq_true] at hollow
  rcases hollow with empty | dot
  · rw [empty] at filled
    cases filled
  · rw [stepAlong, if_pos (beq_iff_eq.mp dot)]

/-- The names along a path are those of its components. -/
theorem names_stepsAlong (fields : List Text) :
    (stepsAlong fields).filterMap Component.name? =
      (Path.steps fields).filterMap Component.name? := by
  induction fields with
  | nil => rfl
  | cons field others ih =>
    rw [← List.singleton_append, stepsAlong_append, Path.steps_append, List.filterMap_append,
      List.filterMap_append, ih]
    congr 1
    by_cases empty : field = []
    · rw [empty]
      rfl
    · by_cases dot : field = ['.']
      · rw [dot]
        rfl
      · simp [stepsAlong, Path.steps, Path.isVoid, stepAlong, empty, dot]

theorem above_mem_steps {fields : List Text} (upwards : .above ∈ stepsAlong fields) :
    .above ∈ Path.steps fields := by
  obtain ⟨field, found, step⟩ := List.mem_map.mp upwards
  obtain ⟨inside, filled⟩ := List.mem_filter.mp found
  rw [stepAlong] at step
  split at step
  · cases step
  · rename_i solid
    refine List.mem_map.mpr ⟨field, List.mem_filter.mpr ⟨inside, ?_⟩, step⟩
    simpa [Path.isVoid, solid] using filled

/-! ## Plain paths -/

/-- In a tree without links a plain path to a file leads straight down along the components
of its normal spelling. -/
theorem location_of_locate (linkFree : tree.LinkFree) {base path : Path} {directory : Location}
    {location : Location} (absolute : base.isAbsolute = true) (plain : path.Plain)
    (leads : tree.locate user directory (base.join path) = .ok location)
    (file : tree.isDirectoryAt location = false) :
    Core path.fields path.normalize.fields ∧
      ∃ start, Leads tree user [] (route base) start ∧
        location = start ++ path.normalize.components.filterMap Component.name? := by
  obtain ⟨-, name, -, named⟩ := fileName_of_locate linkFree absolute leads file
  have inner := Path.core_normalize plain.relative (Path.exists_solid_of_fileName named)
  obtain ⟨-, -, -, route⟩ := (locate_eq_ok_iff linkFree _ _ _).mp leads
  rw [Path.isAbsolute_join path absolute, if_pos rfl,
    route_join (Path.spelling_ne_nil_of_isAbsolute absolute) plain.relative] at route
  obtain ⟨start, above, below⟩ := route.split
  refine ⟨inner, start, above, ?_⟩
  rw [inner.components_eq, ← names_stepsAlong]
  refine below.location_eq fun step member => ⟨?_, ?_⟩
  · rintro rfl
    obtain ⟨field, -, step⟩ := List.mem_map.mp member
    exact stepAlong_ne_root field step
  · rintro rfl
    exact plain.downwards (Path.mem_components_of_mem_steps (above_mem_steps member))

/-- **Plain paths to files lead to the same place when they are the same up to spelling.** -/
theorem components_eq_iff (linkFree : tree.LinkFree) {base left right : Path}
    {directory first second : Location} (absolute : base.isAbsolute = true)
    (here : left.Plain) (there : right.Plain)
    (leads : tree.locate user directory (base.join left) = .ok first)
    (file : tree.isDirectoryAt first = false)
    (also : tree.locate user directory (base.join right) = .ok second)
    (another : tree.isDirectoryAt second = false) :
    left.normalize.components = right.normalize.components ↔ first = second := by
  obtain ⟨inner, start, above, rfl⟩ := location_of_locate linkFree absolute here leads file
  obtain ⟨core, begin, higher, rfl⟩ := location_of_locate linkFree absolute there also another
  obtain rfl := above.unique higher
  rw [List.append_cancel_left_eq]
  constructor
  · exact fun same => by rw [same]
  · intro same
    rw [inner.components_eq, core.components_eq] at same ⊢
    rw [here.steps_eq, there.steps_eq, same]

end FileTree

end Hygiene
