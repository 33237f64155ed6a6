import Hygiene.Proofs.Path.Spelling

/-!
# Paths read from one another

Reading paths from one another is associative (`join_join`), so a path that is made by reading
names one after the other from a target is the same whether the target is first read from a base
or last (`foldl_join`). Taking an absolute base off a path that was read from it leaves the normal
spelling of the path (`below_join`).

The normal spelling of a path is no longer than the path (`utf8Size_normalize_le`), it ends in a
slash only if the path leads nowhere else (`getLast_join_normalize_ne_slash`), and behind an
absolute base it has the components of the path (`components_join_normalize`).
-/

set_option autoImplicit false

namespace Hygiene.Path

variable {base path : Path}

/-! ## Reading one path after the other -/

theorem eq_of_spelling {left right : Path} (same : left.spelling = right.spelling) :
    left = right :=
  congrArg Path.mk same

/-- What is put between a base and a relative path that is read from it. -/
def seam (base : Path) : Text :=
  if base.spelling = [] ∨ base.spelling.getLast? = some '/' then [] else ['/']

theorem spelling_join (base : Path) (relative : path.isAbsolute = false) :
    (base.join path).spelling = base.spelling ++ base.seam ++ path.spelling := by
  rw [join, if_neg (by simp [relative]), seam]
  split
  · rename_i none
    have empty := List.getLast?_eq_none_iff.mp none
    rw [if_pos (.inl empty), empty]
    rfl
  · rename_i slash
    rw [if_pos (.inr slash), List.append_nil]
  · rename_i c other last
    have closed : ¬ (base.spelling = [] ∨ base.spelling.getLast? = some '/') := by
      rintro (empty | slash)
      · rw [empty] at last
        cases last
      · rw [slash] at last
        exact other (Option.some.inj last).symm
    rw [if_neg closed, List.append_assoc, List.singleton_append]

theorem seam_of_spelling_nil (empty : base.spelling = []) : base.seam = [] :=
  if_pos (.inl empty)

theorem getLast_join (base : Path) (filled : path.spelling ≠ []) :
    (base.join path).spelling.getLast? = path.spelling.getLast? := by
  cases relative : path.isAbsolute with
  | true => rw [join_of_isAbsolute base relative]
  | false => rw [spelling_join base relative, List.getLast?_append_of_ne_nil _ filled]

/-- Behind a seam no other one is needed. -/
theorem seam_append_seam (base : Path) : seam ⟨base.spelling ++ base.seam⟩ = [] := by
  by_cases closed : base.spelling = [] ∨ base.spelling.getLast? = some '/'
  · have none : base.seam = [] := if_pos closed
    rw [none, List.append_nil]
    exact if_pos closed
  · have slash : base.seam = ['/'] := if_neg closed
    rw [slash]
    exact if_pos (.inr List.getLast?_concat)

theorem seam_join (base : Path) (relative : path.isAbsolute = false) :
    (base.join path).seam = path.seam := by
  have spelled := spelling_join base relative
  by_cases empty : path.spelling = []
  · rw [empty, List.append_nil] at spelled
    have alone : base.join path = ⟨base.spelling ++ base.seam⟩ := eq_of_spelling spelled
    rw [alone, seam_append_seam, seam_of_spelling_nil empty]
  · have filled : (base.join path).spelling ≠ [] := by simp [spelled, empty]
    rw [seam, seam, getLast_join base empty]
    simp only [filled, empty]

theorem isAbsolute_join_of_relative (first : base.isAbsolute = false)
    (relative : path.isAbsolute = false) : (base.join path).isAbsolute = false := by
  by_cases empty : base.spelling = []
  · rwa [isAbsolute, spelling_join base relative, seam_of_spelling_nil empty, empty]
  · rw [isAbsolute, spelling_join base relative, List.append_assoc,
      List.head?_append_of_ne_nil _ empty]
    exact first

/-- **Reading paths from one another is associative.** -/
theorem join_join (first second third : Path) :
    (first.join second).join third = first.join (second.join third) := by
  cases last : third.isAbsolute with
  | true => rw [join_of_isAbsolute _ last, join_of_isAbsolute _ last, join_of_isAbsolute _ last]
  | false =>
    cases middle : second.isAbsolute with
    | true =>
      rw [join_of_isAbsolute first middle, join_of_isAbsolute first (isAbsolute_join third middle)]
    | false =>
      apply eq_of_spelling
      rw [spelling_join _ last, spelling_join _ middle, seam_join first middle,
        spelling_join first (isAbsolute_join_of_relative middle last), spelling_join second last]
      simp only [List.append_assoc]

theorem foldl_join (base root : Path) (names : List Text) :
    names.foldl (fun path name => path.join ⟨name⟩) (base.join root) =
      base.join (names.foldl (fun path name => path.join ⟨name⟩) root) := by
  induction names generalizing root with
  | nil => rfl
  | cons name others ih => rw [List.foldl_cons, join_join, ih, List.foldl_cons]

theorem isAbsolute_foldl_join {names : List Text}
    (relative : ∀ name ∈ names, (Path.mk name).isAbsolute = false) (root : Path) :
    (names.foldl (fun path name => path.join ⟨name⟩) root).isAbsolute = root.isAbsolute := by
  induction names generalizing root with
  | nil => rfl
  | cons name others ih =>
    obtain ⟨first, later⟩ := List.forall_mem_cons.mp relative
    rw [List.foldl_cons, ih later]
    cases start : root.isAbsolute with
    | true => exact isAbsolute_join _ start
    | false => exact isAbsolute_join_of_relative start first

/-! ## Taking the base off -/

theorem trim_void_append {front : List Text} (void : ∀ field ∈ front, isVoid field = true)
    (fields : List Text) : trim (front ++ fields) = trim fields := by
  rw [trim, trim, List.dropWhile_append_of_pos void]

theorem trim_around (fields : List Text) :
    ∃ before behind : List Text, fields = before ++ trim fields ++ behind ∧
      (∀ field ∈ before, isVoid field = true) ∧ ∀ field ∈ behind, isVoid field = true := by
  obtain ⟨behind, cut, void⟩ := trimEnd_append (fields.dropWhile isVoid)
  refine ⟨fields.takeWhile isVoid, behind, ?_, fun _ => List.mem_takeWhile_imp, void⟩
  rw [trim, List.append_assoc, ← cut, List.takeWhile_append_dropWhile]

/-- The normal spelling of a relative path is made of its fields without the void ones at either
end. -/
theorem normalize_of_relative (relative : path.isAbsolute = false) :
    path.normalize = ofFields (trim path.fields) := by
  rw [normalize]
  split
  · rename_i rest cut
    have here : ∀ field ∈ [['.']], isVoid field = true := by decide
    rw [cut, ← List.singleton_append, trim_void_append here]
  · rename_i rest cut
    obtain rfl := eq_empty_of_relative relative cut
    cases cut
    rfl
  · rename_i notHere notRoot
    cases cut : path.fields with
    | nil => exact absurd cut (Text.fields_ne_nil _ _)
    | cons first others =>
      have solid : isVoid first = false := by
        rw [isVoid, Bool.or_eq_false_iff, List.isEmpty_eq_false_iff, beq_eq_false_iff_ne]
        exact ⟨fun none => notRoot others (by rw [cut, none]),
          fun dot => notHere others (by rw [cut, dot])⟩
      rw [trim, List.dropWhile_cons_of_neg (by simp [solid])]

theorem void_of_steps_nil {fields : List Text} (none : steps fields = []) :
    ∀ field ∈ fields, isVoid field = true := by
  rw [steps, List.map_eq_nil_iff, List.filter_eq_nil_iff] at none
  intro field member
  simpa using none field member

/-- The steps of fields can be taken off these fields, and what stands behind them is left. -/
theorem exists_dropSteps_append (front behind : List Text) :
    ∃ left, dropSteps (steps front) (front ++ behind) = some left ∧ trim left = trim behind := by
  induction front with
  | nil => exact ⟨behind, dropSteps.eq_1 behind, rfl⟩
  | cons field others ih =>
    cases void : isVoid field with
    | true =>
      have along : steps (field :: others) = steps others := by
        rw [steps, List.filter_cons_of_neg (by simp [void])]
        rfl
      rw [along]
      cases more : steps others with
      | nil =>
        refine ⟨field :: others ++ behind, dropSteps.eq_1 _, trim_void_append ?_ behind⟩
        exact void_of_steps_nil (along.trans more)
      | cons step later =>
        rw [more] at ih
        rw [List.cons_append, dropSteps, if_pos void]
        exact ih
    | false =>
      have along : steps (field :: others) = stepOf field :: steps others := by
        rw [steps, List.filter_cons_of_pos (by simp [void])]
        rfl
      rw [along, List.cons_append, dropSteps, if_neg (by simp [void]), if_pos rfl]
      exact ih

/-- **Below an absolute base, the normal spelling is left of a path that was read from the
base.** -/
theorem below_join (absolute : base.isAbsolute = true) (relative : path.isAbsolute = false) :
    below? base (base.join path) = some path.normalize := by
  obtain ⟨before, joined, same⟩ :=
    exists_join_spelling (spelling_ne_nil_of_isAbsolute absolute) relative
  obtain ⟨others, behind⟩ := fields_of_isAbsolute absolute
  have cut : (base.join path).fields = Text.fields before (· = '/') ++ path.fields := by
    rw [fields, joined]
    exact Text.fields_append_cons _ before _ (by simp)
  -- The base begins with an empty field, also when a slash at its end was taken for the seam.
  obtain ⟨front, start, along⟩ : ∃ front, Text.fields before (· = '/') = [] :: front ∧
      steps base.fields = steps front := by
    rcases same with whole | ending
    · have parts : Text.fields before (· = '/') = base.fields := by rw [fields, whole]
      exact ⟨others, parts.trans behind, by rw [behind]; rfl⟩
    · have parts : base.fields = Text.fields before (· = '/') ++ [[]] := by
        rw [fields, ending]
        exact Text.fields_append_cons _ before [] (by simp)
      cases found : Text.fields before (· = '/') with
      | nil => exact absurd found (Text.fields_ne_nil _ _)
      | cons first front =>
        rw [found, behind] at parts
        obtain ⟨rfl, -⟩ := List.cons.inj parts
        refine ⟨front, rfl, ?_⟩
        rw [behind, parts, steps_append]
        exact List.append_nil _
  obtain ⟨left, dropped, trimmed⟩ := exists_dropSteps_append front path.fields
  rw [start, List.cons_append, ← List.append_nil (front ++ path.fields)] at cut
  rw [below_of_fields absolute _ _ cut (List.forall_mem_nil _), along, dropped,
    normalize_of_relative relative, ← trimmed]
  rfl

/-! ## The normal spelling -/

/-- The normal spelling is no longer than the path. -/
theorem utf8Size_normalize_le (path : Path) :
    Text.utf8Size path.normalize.spelling ≤ Text.utf8Size path.spelling := by
  cases absolute : path.isAbsolute with
  | false =>
    obtain ⟨before, behind, cut, -, -⟩ := trim_around path.fields
    have inner := (utf8Size_join_le before (trim path.fields)).2
    have outer := (utf8Size_join_le (before ++ trim path.fields) behind).1
    rw [← cut, join_fields] at outer
    rw [normalize_of_relative absolute]
    exact Nat.le_trans inner outer
  | true =>
    obtain ⟨rest, cut⟩ := fields_of_isAbsolute absolute
    obtain ⟨behind, parts, -⟩ := trimEnd_append rest
    have spelled : path.spelling = '/' :: Text.join ['/'] rest := by
      rw [← join_fields path, cut]
      cases rest with
      | nil =>
        have alone := join_fields path
        rw [cut] at alone
        exact absurd alone.symm (spelling_ne_nil_of_isAbsolute absolute)
      | cons first others => rw [Text.join_cons_cons]; rfl
    have shorter := (utf8Size_join_le (trimEnd rest) behind).1
    rw [← parts] at shorter
    rw [normalize_of_isAbsolute absolute cut, spelled, spell, if_pos rfl]
    exact Nat.add_le_add_left shorter _

/-- What is read from a base gets no longer in its normal spelling. -/
theorem utf8Size_join_normalize_le (base path : Path) :
    Text.utf8Size (base.join path.normalize).spelling ≤
      Text.utf8Size (base.join path).spelling := by
  have kind := isAbsolute_normalize path
  cases absolute : path.isAbsolute with
  | false =>
    exact utf8Size_join_mono base absolute (kind.trans absolute) (utf8Size_normalize_le path)
  | true =>
    rw [join_of_isAbsolute base absolute, join_of_isAbsolute base (kind.trans absolute)]
    exact utf8Size_normalize_le path

/-- A path that is made of fields does not end in a slash. -/
theorem exists_getLast_spell {absolute : Bool} {fields : List Text}
    (trimmed : Trimmed absolute fields) (nonempty : fields ≠ []) :
    ∃ c, (spell absolute fields).spelling.getLast? = some c ∧ c ≠ '/' := by
  have cut := fields_spell trimmed nonempty
  have last : (spell absolute fields).fields.getLast? ≠ some [] := by
    rw [cut, List.getLast?_append_of_ne_nil _ nonempty]
    intro empty
    have solid := trimmed.ended [] empty
    cases solid
  cases found : (spell absolute fields).spelling.getLast? with
  | none =>
    rw [Path.fields, List.getLast?_eq_none_iff.mp found] at last
    exact absurd rfl last
  | some c =>
    refine ⟨c, rfl, ?_⟩
    rintro rfl
    obtain ⟨before, spelled⟩ := List.getLast?_eq_some_iff.mp found
    have parts : Text.fields (before ++ ['/']) (· = '/') = Text.fields before (· = '/') ++ [[]] :=
      Text.fields_append_cons _ before [] (by simp)
    rw [Path.fields, spelled, parts] at last
    exact last List.getLast?_concat

/-- A path that leads somewhere does not end in a slash in its normal spelling. -/
theorem getLast_join_normalize_ne_slash (base : Path) (moves : steps path.fields ≠ []) :
    (base.join path.normalize).spelling.getLast? ≠ some '/' := by
  obtain ⟨fields, trimmed, same, along⟩ := normalize_eq_spell path
  have nonempty : fields ≠ [] := by
    rintro rfl
    exact moves along.symm
  obtain ⟨c, last, other⟩ := exists_getLast_spell trimmed nonempty
  rw [← same] at last
  have filled : path.normalize.spelling ≠ [] := by
    intro empty
    rw [empty] at last
    cases last
  rw [getLast_join base filled, last]
  exact fun slash => other (Option.some.inj slash)

theorem steps_join_normalize (absolute : base.isAbsolute = true) (path : Path) :
    steps (base.join path.normalize).fields = steps (base.join path).fields := by
  have start := spelling_ne_nil_of_isAbsolute absolute
  have kind := isAbsolute_normalize path
  cases outright : path.isAbsolute with
  | true =>
    rw [join_of_isAbsolute base outright, join_of_isAbsolute base (kind.trans outright),
      steps_normalize]
  | false =>
    rw [steps_join start outright, steps_join start (kind.trans outright), steps_normalize]

/-- **The normal spelling has the same components behind an absolute base.** -/
theorem components_join_normalize (absolute : base.isAbsolute = true) (path : Path) :
    (base.join path.normalize).components = (base.join path).components := by
  rw [components_of_isAbsolute (isAbsolute_join _ absolute),
    components_of_isAbsolute (isAbsolute_join _ absolute), steps_join_normalize absolute]

end Hygiene.Path
