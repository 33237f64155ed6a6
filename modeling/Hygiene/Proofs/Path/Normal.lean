import Mathlib.Data.List.TakeWhile
import Hygiene.Proofs.Path.Fields

/-!
# Normal spellings

The normal spelling of a relative path is made of its fields without the void ones at either
end (`core_normalize`). Void fields ask for no step, so the components of the normal spelling
are the steps of all the fields (`Core.components_eq`).

When the path does not lead upwards either, these components are names (`Plain.steps_eq`).
-/

set_option autoImplicit false

namespace Hygiene

namespace Path

/-! ## The core of a list of fields -/

/-- What is left of fields when void ones are taken off at both ends. It begins and ends with
a field that is not void. -/
structure Core (fields core : List Text) : Prop where
  around : ∃ before behind : List Text, fields = before ++ core ++ behind ∧
    (∀ field ∈ before, isVoid field = true) ∧ ∀ field ∈ behind, isVoid field = true
  nonempty : core ≠ []
  first : ∀ field, core.head? = some field → isVoid field = false
  last : ∀ field, core.getLast? = some field → isVoid field = false

theorem trimEnd_append (fields : List Text) :
    ∃ behind : List Text, fields = trimEnd fields ++ behind ∧
      ∀ field ∈ behind, isVoid field = true := by
  refine ⟨(fields.reverse.takeWhile isVoid).reverse, ?_, fun field member => ?_⟩
  · rw [trimEnd, ← List.reverse_append, List.takeWhile_append_dropWhile, List.reverse_reverse]
  · exact List.mem_takeWhile_imp (List.mem_reverse.mp member)

theorem isVoid_getLast_trimEnd {fields : List Text} {field : Text}
    (last : (trimEnd fields).getLast? = some field) : isVoid field = false := by
  rw [trimEnd, List.getLast?_reverse] at last
  have solid := List.head?_dropWhile_not isVoid fields.reverse
  rw [last] at solid
  exact solid

/-- Fields that begin with one that is not void have a core that begins with it. -/
theorem core_trimEnd {field : Text} (others : List Text) (solid : isVoid field = false) :
    Core (field :: others) (trimEnd (field :: others)) := by
  obtain ⟨behind, cut, void⟩ := trimEnd_append (field :: others)
  cases kept : trimEnd (field :: others) with
  | nil =>
    rw [kept, List.nil_append] at cut
    have hollow := void field (cut ▸ List.mem_cons_self)
    rw [solid] at hollow
    cases hollow
  | cons first later =>
    rw [kept] at cut
    have same := cut
    rw [List.cons_append, List.cons.injEq] at same
    refine ⟨⟨[], behind, cut, fun _ member => (nomatch member), void⟩, List.cons_ne_nil _ _, ?_, ?_⟩
    · intro head found
      cases found
      rw [← same.1]
      exact solid
    · intro last found
      rw [← kept] at found
      exact isVoid_getLast_trimEnd found

/-- Void fields in front are outside the core. -/
theorem Core.append_void {fields core before : List Text} (inner : Core fields core)
    (void : ∀ field ∈ before, isVoid field = true) : Core (before ++ fields) core := by
  obtain ⟨front, behind, cut, hollow, ending⟩ := inner.around
  refine ⟨⟨before ++ front, behind, ?_, ?_, ending⟩, inner.nonempty, inner.first, inner.last⟩
  · rw [cut]
    simp only [List.append_assoc]
  · intro field member
    rcases List.mem_append.mp member with outer | within
    · exact void field outer
    · exact hollow field within

theorem core_trim {fields : List Text} (solid : ∃ field ∈ fields, isVoid field = false) :
    Core fields (trim fields) := by
  have cut : fields = fields.takeWhile isVoid ++ fields.dropWhile isVoid :=
    List.takeWhile_append_dropWhile.symm
  rw [trim]
  cases rest : fields.dropWhile isVoid with
  | nil =>
    obtain ⟨field, member, filled⟩ := solid
    rw [List.dropWhile_eq_nil_iff.mp rest field member] at filled
    cases filled
  | cons first others =>
    have head := List.head?_dropWhile_not isVoid fields
    rw [rest] at head
    have inner := (core_trimEnd others head).append_void
      fun field member => List.mem_takeWhile_imp (l := fields) member
    rw [← rest, ← cut, rest] at inner
    exact inner

/-- The normal spelling of a relative path is made of the core of its fields. -/
theorem normalize_eq_ofFields {path : Path} (relative : path.isAbsolute = false)
    (solid : ∃ field ∈ path.fields, isVoid field = false) :
    ∃ core, Core path.fields core ∧ path.normalize = ofFields core := by
  rw [normalize]
  split
  · rename_i rest cut
    rw [cut] at solid ⊢
    obtain ⟨field, member, filled⟩ := solid
    rcases List.mem_cons.mp member with rfl | later
    · cases filled
    · have here : ∀ field ∈ [['.']], isVoid field = true := by decide
      exact ⟨trim rest, (core_trim ⟨field, later, filled⟩).append_void here, rfl⟩
  · rename_i rest cut
    exfalso
    rw [cut] at solid
    obtain ⟨field, member, filled⟩ := solid
    rcases List.mem_cons.mp member with rfl | later
    · cases filled
    · obtain ⟨first, others, rfl⟩ := List.exists_cons_of_ne_nil (List.ne_nil_of_mem later)
      have spelled := join_fields path
      rw [cut, Text.join_cons_cons] at spelled
      rw [isAbsolute, ← spelled] at relative
      cases relative
  · rename_i notHere notRoot
    cases cut : path.fields with
    | nil => exact absurd cut (Text.fields_ne_nil _ _)
    | cons first others =>
      refine ⟨_, core_trimEnd others ?_, rfl⟩
      rw [isVoid, Bool.or_eq_false_iff, List.isEmpty_eq_false_iff, beq_eq_false_iff_ne]
      exact ⟨fun none => notRoot others (by rw [cut, none]),
        fun dot => notHere others (by rw [cut, dot])⟩

theorem Core.subset {fields core : List Text} (inner : Core fields core) : core ⊆ fields := by
  obtain ⟨before, behind, cut, -, -⟩ := inner.around
  intro field member
  rw [cut]
  exact List.mem_append_left _ (List.mem_append_right _ member)

/-- **The fields of the normal spelling are the core of the fields.** -/
theorem core_normalize {path : Path} (relative : path.isAbsolute = false)
    (solid : ∃ field ∈ path.fields, isVoid field = false) :
    Core path.fields path.normalize.fields := by
  obtain ⟨core, inner, same⟩ := normalize_eq_ofFields relative solid
  rw [same, fields_ofFields inner.nonempty
    fun field member => noSlash_of_mem_fields (inner.subset member)]
  exact inner

/-! ## A path with the core of the fields of another one -/

theorem steps_of_void {fields : List Text} (void : ∀ field ∈ fields, isVoid field = true) :
    steps fields = [] := by
  rw [steps, List.filter_eq_nil_iff.mpr fun field member => by simp [void field member]]
  rfl

theorem Core.steps_eq {fields core : List Text} (inner : Core fields core) :
    steps core = steps fields := by
  obtain ⟨before, behind, rfl, front, ending⟩ := inner.around
  rw [steps_append, steps_append, steps_of_void front, steps_of_void ending, List.nil_append,
    List.append_nil]

variable {path normal : Path}

theorem Core.spelling_ne_nil (inner : Core path.fields normal.fields) : normal.spelling ≠ [] := by
  intro none
  have alone : normal.fields = [[]] := by rw [fields, none, Text.fields_nil]
  have solid := inner.first [] (by rw [alone]; rfl)
  cases solid

theorem Core.isAbsolute_eq (inner : Core path.fields normal.fields) :
    normal.isAbsolute = false := by
  cases absolute : normal.isAbsolute with
  | false => rfl
  | true =>
    rw [isAbsolute, beq_iff_eq] at absolute
    obtain ⟨rest, spelled⟩ := List.head?_eq_some_iff.mp absolute
    have cut : normal.fields = [] :: Text.fields rest (· = '/') := by
      rw [fields, spelled]
      exact Text.fields_cons_of_pos _ rest (by simp)
    have solid := inner.first [] (by rw [cut]; rfl)
    cases solid

/-- The components of the normal spelling are the steps of all the fields. -/
theorem Core.components_eq (inner : Core path.fields normal.fields) :
    normal.components = steps path.fields := by
  rw [← inner.steps_eq]
  cases cut : normal.fields with
  | nil => exact absurd cut inner.nonempty
  | cons first others =>
    have solid := inner.first first (by rw [cut]; rfl)
    have filled := solid
    rw [isVoid, Bool.or_eq_false_iff, List.isEmpty_eq_false_iff, beq_eq_false_iff_ne] at filled
    rw [Path.components_eq inner.spelling_ne_nil cut, firstStep, if_neg filled.1,
      if_neg filled.2, steps, steps, List.filter_cons_of_pos (by simp [solid])]
    rfl

theorem utf8Size_join_le (left right : List Text) :
    Text.utf8Size (Text.join ['/'] left) ≤ Text.utf8Size (Text.join ['/'] (left ++ right)) ∧
      Text.utf8Size (Text.join ['/'] right) ≤ Text.utf8Size (Text.join ['/'] (left ++ right)) := by
  by_cases first : left = []
  · subst first
    exact ⟨Nat.zero_le _, Nat.le_refl _⟩
  · by_cases second : right = []
    · subst second
      rw [List.append_nil]
      exact ⟨Nat.le_refl _, Nat.zero_le _⟩
    · rw [Text.join_append _ first second, Text.utf8Size_append, Text.utf8Size_append]
      omega

/-- A path that is read from another one gets no longer when it is spelled shorter. -/
theorem utf8Size_join_mono (base : Path) (first : path.isAbsolute = false)
    (second : normal.isAbsolute = false)
    (shorter : Text.utf8Size normal.spelling ≤ Text.utf8Size path.spelling) :
    Text.utf8Size (base.join normal).spelling ≤ Text.utf8Size (base.join path).spelling := by
  rw [join, join, if_neg (by simp [second]), if_neg (by simp [first])]
  split
  · exact shorter
  · rw [Text.utf8Size_append, Text.utf8Size_append]
    omega
  · rw [Text.utf8Size_append, Text.utf8Size_append, ← List.singleton_append,
      ← List.singleton_append (l := path.spelling), Text.utf8Size_append, Text.utf8Size_append]
    omega

/-! ## Plain paths -/

/-- The name that a step goes to. -/
def Component.name? : Component → Option Text
  | .name text => some text
  | _ => none

/-- A path is plain when it is relative and does not lead upwards. -/
structure Plain (path : Path) : Prop where
  relative : path.isAbsolute = false
  downwards : .above ∉ path.components

instance (path : Path) : Decidable path.Plain :=
  decidable_of_iff (path.isAbsolute = false ∧ .above ∉ path.components)
    ⟨fun ⟨relative, downwards⟩ => ⟨relative, downwards⟩,
      fun plain => ⟨plain.relative, plain.downwards⟩⟩

theorem mem_components_of_mem_steps {step : Component} (member : step ∈ steps path.fields) :
    step ∈ path.components := by
  rw [components]
  split
  · rename_i cut
    rw [cut] at member
    exact member
  · rename_i cut
    rw [cut] at member
    exact member
  · rename_i rest _ cut
    rw [cut] at member
    exact List.mem_cons_of_mem _ member
  · rename_i rest cut
    rw [cut] at member
    exact List.mem_cons_of_mem _ member
  · rename_i cut
    rw [cut] at member
    exact member

/-- All steps along the fields of a plain path are names. -/
theorem Plain.steps_eq (plain : path.Plain) :
    steps path.fields = ((steps path.fields).filterMap Component.name?).map .name := by
  have names : ∀ step ∈ steps path.fields, step.name?.map .name = some step := by
    intro step member
    cases step with
    | name text => rfl
    | above => exact absurd (mem_components_of_mem_steps member) plain.downwards
    | root =>
      obtain ⟨field, -, made⟩ := List.mem_map.mp member
      rw [stepOf] at made
      split at made <;> cases made
    | here =>
      obtain ⟨field, -, made⟩ := List.mem_map.mp member
      rw [stepOf] at made
      split at made <;> cases made
  rw [List.map_filterMap, List.filterMap_congr names, List.filterMap_some]

/-- A path with a name in it is not made of void fields. -/
theorem exists_solid_of_fileName {name : Text} (named : path.fileName? = some name) :
    ∃ field ∈ path.fields, isVoid field = false := by
  by_contra none
  have void : ∀ field ∈ path.fields, isVoid field = true := by
    intro field member
    cases kind : isVoid field with
    | true => rfl
    | false => exact absurd ⟨field, member, kind⟩ none
  have shape : path.components = [] ∨ path.components = [.root] ∨ path.components = [.here] := by
    rw [components]
    split
    · exact .inl rfl
    · exact .inl rfl
    · rename_i rest _ cut
      rw [steps_of_void fun field member => void field (cut ▸ List.mem_cons_of_mem _ member)]
      exact .inr (.inl rfl)
    · rename_i rest cut
      rw [steps_of_void fun field member => void field (cut ▸ List.mem_cons_of_mem _ member)]
      exact .inr (.inr rfl)
    · rename_i cut
      rw [← cut, steps_of_void void]
      exact .inl rfl
  rw [fileName?] at named
  rcases shape with same | same | same <;> simp [same] at named

end Path

end Hygiene
