import Hygiene.FileTree.Locate
import Hygiene.Proofs.Text.Fields

/-!
# The fields of a path

A path is its fields with slashes between them, and the fields of a path that is put together
are the ones that it was put together from (`join_fields`, `fields_ofFields`). The fields of a path
that is read from another one stand behind those of the other one, so the steps that it asks
for are taken one after the other (`route_join`).

A path without a slash at its end has a last field with something in it. When that field is a
name, it is the name of what the path leads to (`fileName_of_lastField`).
-/

set_option autoImplicit false

namespace Hygiene

namespace Path

/-- A path is its fields with slashes between them. -/
theorem join_fields (path : Path) : Text.join ['/'] path.fields = path.spelling := by
  obtain ⟨spelling⟩ := path
  show Text.join ['/'] (Text.fields spelling (· = '/')) = spelling
  induction spelling with
  | nil => rfl
  | cons c rest ih =>
    by_cases slash : c = '/'
    · subst slash
      rw [Text.fields_cons_of_pos _ rest (by simp)]
      cases found : Text.fields rest (· = '/') with
      | nil => exact absurd found (Text.fields_ne_nil _ rest)
      | cons field others =>
        rw [found] at ih
        rw [Text.join_cons_cons, ih]
        rfl
    · rw [Text.fields_cons_of_neg _ rest (by simp [slash])]
      cases found : Text.fields rest (· = '/') with
      | nil => exact absurd found (Text.fields_ne_nil _ rest)
      | cons field others =>
        rw [found] at ih
        cases others with
        | nil =>
          rw [Text.join_singleton] at ih ⊢
          rw [ih]
        | cons other later =>
          rw [Text.join_cons_cons] at ih ⊢
          rw [← ih]
          rfl

/-- Fields put together with slashes are the fields of the path that they spell. -/
theorem fields_ofFields {fields : List Text} (nonempty : fields ≠ [])
    (plain : ∀ field ∈ fields, '/' ∉ field) : (ofFields fields).fields = fields :=
  Text.fields_join nonempty plain

/-- No slash stands in a field of a path. -/
theorem noSlash_of_mem_fields {path : Path} {field : Text} (member : field ∈ path.fields) :
    '/' ∉ field := by
  intro slash
  simpa using Text.plain_of_mem_fields _ member '/' slash

/-! ## The last field -/

/-- A path that does not end in a slash has a last field with something in it, unless it is
empty. -/
theorem exists_lastField {path : Path} (nonempty : path.spelling ≠ [])
    (noSlash : path.spelling.getLast? ≠ some '/') :
    ∃ (earlier : List Text) (field : Text), path.fields = earlier ++ [field] ∧ field ≠ [] := by
  obtain ⟨earlier, field, cut⟩ : ∃ earlier field, path.fields = earlier ++ [field] :=
    ⟨path.fields.dropLast, path.fields.getLast (Text.fields_ne_nil _ _),
      (List.dropLast_append_getLast _).symm⟩
  refine ⟨earlier, field, cut, ?_⟩
  rintro rfl
  have spelled := join_fields path
  rw [cut] at spelled
  by_cases alone : earlier = []
  · rw [alone] at spelled
    exact nonempty spelled.symm
  · rw [Text.join_append _ alone (List.cons_ne_nil _ _), Text.join_singleton, List.append_nil]
      at spelled
    rw [← spelled, List.getLast?_concat] at noSlash
    exact noSlash rfl

/-! ## Components -/

theorem steps_append (left right : List Text) :
    steps (left ++ right) = steps left ++ steps right := by
  simp [steps]

/-- The component that the first field of a path stands for. -/
def firstStep (field : Text) : List Component :=
  if field = [] then [.root] else if field = ['.'] then [.here] else [stepOf field]

/-- The components of a path are that of its first field and the steps of the others. -/
theorem components_eq {path : Path} {first : Text} {others : List Text}
    (nonempty : path.spelling ≠ []) (cut : path.fields = first :: others) :
    path.components = firstStep first ++ steps others := by
  rw [components, cut]
  split
  · rename_i none
    cases none
  · rename_i none
    have spelled := join_fields path
    rw [cut, none] at spelled
    exact absurd spelled.symm nonempty
  · rename_i rest _ same
    cases same
    rfl
  · rename_i rest same
    cases same
    rfl
  · rename_i field rest _ notRoot notHere same
    cases same
    have plain : isVoid first = false := by
      simp only [isVoid, Bool.or_eq_false_iff, List.isEmpty_eq_false_iff, beq_eq_false_iff_ne]
      exact ⟨notRoot, notHere⟩
    rw [firstStep, if_neg notRoot, if_neg notHere, steps, List.filter_cons_of_pos (by simp [plain])]
    rfl

/-- The last field of a path is the name of what the path leads to, unless it is a dot or
two. -/
theorem fileName_of_lastField {path : Path} {earlier : List Text} {field : Text}
    (cut : path.fields = earlier ++ [field]) (nonempty : field ≠ []) (notHere : field ≠ ['.'])
    (notAbove : field ≠ ['.', '.']) : path.fileName? = some field := by
  have spelled : path.spelling ≠ [] := by
    intro none
    have alone : path.fields = [[]] := by rw [fields, none, Text.fields_nil]
    have last : path.fields.getLast? = some field := by rw [cut, List.getLast?_concat]
    rw [alone] at last
    exact nonempty (Option.some.inj last).symm
  have step : stepOf field = .name field := if_neg notAbove
  have last : steps [field] = [.name field] := by
    simp [steps, isVoid, nonempty, notHere, step]
  have ends : path.components.getLast? = some (.name field) := by
    cases earlier with
    | nil =>
      rw [components_eq spelled cut, firstStep, if_neg nonempty, if_neg notHere, step]
      rfl
    | cons first others =>
      have behind : steps (others.append [field]) = steps others ++ [.name field] :=
        (steps_append others [field]).trans (by rw [last])
      rw [components_eq spelled cut, behind, ← List.append_assoc, List.getLast?_concat]
  rw [fileName?, ends]

/-! ## A path read from another one -/

/-- A relative path that is read from another one is spelled behind it and a slash. -/
theorem exists_join_spelling {base path : Path} (start : base.spelling ≠ [])
    (relative : path.isAbsolute = false) :
    ∃ before : Text, (base.join path).spelling = before ++ '/' :: path.spelling ∧
      (base.spelling = before ∨ base.spelling = before ++ ['/']) := by
  rw [join, if_neg (by simp [relative])]
  split
  · rename_i none
    exact absurd (List.getLast?_eq_none_iff.mp none) start
  · rename_i slash
    obtain ⟨before, spelled⟩ := List.getLast?_eq_some_iff.mp slash
    refine ⟨before, ?_, .inr spelled⟩
    rw [spelled, List.append_assoc, List.singleton_append]
  · exact ⟨base.spelling, rfl, .inl rfl⟩

theorem join_of_isAbsolute {path : Path} (base : Path) (absolute : path.isAbsolute = true) :
    base.join path = path := by
  rw [join, if_pos absolute]

theorem spelling_ne_nil_of_isAbsolute {path : Path} (absolute : path.isAbsolute = true) :
    path.spelling ≠ [] := by
  intro none
  rw [isAbsolute, none] at absolute
  cases absolute

/-- What is read from an absolute path is absolute. -/
theorem isAbsolute_join {base : Path} (path : Path) (absolute : base.isAbsolute = true) :
    (base.join path).isAbsolute = true := by
  cases relative : path.isAbsolute with
  | true =>
    rw [join_of_isAbsolute base relative]
    exact relative
  | false =>
    obtain ⟨before, joined, same⟩ :=
      exists_join_spelling (spelling_ne_nil_of_isAbsolute absolute) relative
    rw [isAbsolute] at absolute ⊢
    rw [joined]
    cases before with
    | nil => rfl
    | cons c before => rcases same with same | same <;> simpa [same] using absolute

end Path

namespace FileTree

/-- A path that is read from another one asks for the steps of both. -/
theorem route_join {base path : Path} (start : base.spelling ≠ [])
    (relative : path.isAbsolute = false) : route (base.join path) = route base ++ route path := by
  obtain ⟨before, joined, same⟩ := Path.exists_join_spelling start relative
  have steps : route (base.join path) = route ⟨before⟩ ++ route path := by
    simp only [route, Path.fields, joined]
    rw [Text.fields_append_cons _ before _ (by simp), List.filter_append, List.map_append]
  have ending : route ⟨before ++ ['/']⟩ = route ⟨before⟩ := by
    simp only [route, Path.fields]
    rw [Text.fields_append_cons _ before _ (by simp), Text.fields_nil]
    simp
  obtain ⟨spelling⟩ := base
  rcases same with rfl | rfl
  · exact steps
  · rw [steps, ending]

/-- The last step of a path is the one that its last field asks for. -/
theorem route_of_lastField {path : Path} {earlier : List Text} {field : Text}
    (cut : path.fields = earlier ++ [field]) (nonempty : field ≠ []) :
    ∃ steps : List Path.Component, route path = steps ++ [stepAlong field] := by
  refine ⟨(earlier.filter fun field => !field.isEmpty).map stepAlong, ?_⟩
  rw [route, cut, List.filter_append, List.map_append]
  simp [nonempty]

end FileTree

end Hygiene
