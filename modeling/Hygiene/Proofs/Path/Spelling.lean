import Hygiene.Proofs.Path.Below

/-!
# What normal spellings are made of

A path in its normal spelling is made of fields, with a slash in front when it is absolute
(`normalize_eq_spell`). The last of these fields is not void, and the first one is not void
either unless the path is absolute. So the normal spelling is its own normal spelling
(`normalize_normalize`), it is absolute when the path is, and it keeps all the components but a
leading `.` (`components_normalize`). What is left of a path below an absolute base is the same
for the normal spelling (`below_normalize`).
-/

set_option autoImplicit false

namespace Hygiene.Path

/-- The path that fields spell, behind the root when it is absolute. -/
def spell (absolute : Bool) (fields : List Text) : Path :=
  if absolute then ⟨'/' :: (ofFields fields).spelling⟩ else ofFields fields

/-- The last of the fields, if there is one, is not void. -/
def Ended (fields : List Text) : Prop :=
  ∀ field ∈ fields.getLast?, isVoid field = false

/-- Fields that a normal spelling is made of. -/
structure Trimmed (absolute : Bool) (fields : List Text) : Prop where
  plain : ∀ field ∈ fields, '/' ∉ field
  ended : Ended fields
  begun : absolute = false → ∀ field ∈ fields.head?, isVoid field = false

/-! ## Fields without the void ones at their ends -/

theorem isPrefix_trimEnd (fields : List Text) : trimEnd fields <+: fields := by
  obtain ⟨behind, cut, -⟩ := trimEnd_append fields
  exact ⟨behind, cut.symm⟩

theorem ended_trimEnd (fields : List Text) : Ended (trimEnd fields) :=
  fun _ last => isVoid_getLast_trimEnd last

theorem trimEnd_of_ended {fields : List Text} (ended : Ended fields) : trimEnd fields = fields := by
  rw [trimEnd]
  cases turned : fields.reverse with
  | nil => exact (List.reverse_eq_nil_iff.mp turned).symm
  | cons last before =>
    have solid : isVoid last = false := by
      apply ended
      rw [List.getLast?_eq_head?_reverse, turned]
      rfl
    rw [List.dropWhile_cons_of_neg (by simp [solid]), ← turned, List.reverse_reverse]

/-- The fields that are taken without the void ones at the end are the longest ended beginning. -/
theorem isPrefix_trimEnd_iff {front fields : List Text} (ended : Ended front) :
    front <+: trimEnd fields ↔ front <+: fields := by
  refine ⟨fun first => first.trans (isPrefix_trimEnd fields), fun first => ?_⟩
  obtain ⟨behind, cut, void⟩ := trimEnd_append fields
  obtain ⟨later, whole⟩ := first
  rw [cut] at whole
  rcases List.append_eq_append_iff.mp whole with ⟨more, inside, -⟩ | ⟨more, longer, part⟩
  · exact ⟨more, inside.symm⟩
  · cases last : more.getLast? with
    | none =>
      rw [List.getLast?_eq_none_iff.mp last, List.append_nil] at longer
      exact longer ▸ List.prefix_rfl
    | some field =>
      have within : field ∈ behind := by
        rw [part]
        exact List.mem_append_left _ (List.mem_of_getLast? last)
      have solid := ended field (by rw [longer, List.getLast?_append, last]; rfl)
      rw [void field within] at solid
      cases solid

theorem trimmed_nil : Trimmed false [] where
  plain := by simp
  ended := by simp [Ended]
  begun := by simp

theorem trimmed_trimEnd {fields : List Text} (plain : ∀ field ∈ fields, '/' ∉ field) :
    Trimmed true (trimEnd fields) where
  plain field member := plain field ((isPrefix_trimEnd fields).subset member)
  ended := ended_trimEnd fields
  begun := by simp

theorem trimmed_trim {fields : List Text} (plain : ∀ field ∈ fields, '/' ∉ field) :
    Trimmed false (trim fields) where
  plain field member :=
    plain field ((List.dropWhile_suffix _).subset ((isPrefix_trimEnd _).subset member))
  ended := ended_trimEnd _
  begun := by
    intro _ field first
    obtain ⟨later, cut⟩ := List.head?_eq_some_iff.mp first
    obtain ⟨behind, whole⟩ := isPrefix_trimEnd (fields.dropWhile isVoid)
    have head := List.head?_dropWhile_not isVoid fields
    rw [← whole, ← trim, cut] at head
    exact head

theorem steps_trimEnd (fields : List Text) : steps (trimEnd fields) = steps fields := by
  obtain ⟨behind, cut, void⟩ := trimEnd_append fields
  conv_rhs => rw [cut, steps_append, steps_of_void void, List.append_nil]

theorem steps_trim (fields : List Text) : steps (trim fields) = steps fields := by
  have front : steps (fields.takeWhile isVoid) = [] :=
    steps_of_void fun _ member => List.mem_takeWhile_imp member
  conv_rhs => rw [← List.takeWhile_append_dropWhile (p := isVoid) (l := fields), steps_append,
    front, List.nil_append, ← steps_trimEnd]
  rfl

/-! ## The normal spelling -/

theorem isAbsolute_of_cut {path : Path} {first : Text} {others : List Text}
    (cut : path.fields = first :: others) (begun : first ≠ []) : path.isAbsolute = false := by
  cases absolute : path.isAbsolute with
  | false => rfl
  | true =>
    obtain ⟨rest, behind⟩ := fields_of_isAbsolute absolute
    rw [cut] at behind
    exact absurd (List.cons.inj behind).1 begun

/-- **A normal spelling is made of fields, behind the root when the path is absolute.** They ask
for the same steps as the fields of the path. -/
theorem normalize_eq_spell (path : Path) :
    ∃ fields, Trimmed path.isAbsolute fields ∧ path.normalize = spell path.isAbsolute fields ∧
      steps fields = steps path.fields := by
  have plain : ∀ field ∈ path.fields, '/' ∉ field := fun _ member => noSlash_of_mem_fields member
  rw [normalize]
  split
  · rename_i rest cut
    rw [cut] at plain
    rw [isAbsolute_of_cut cut (by decide), cut]
    exact ⟨trim rest, trimmed_trim fun field member => plain field (List.mem_cons_of_mem _ member),
      rfl, steps_trim rest⟩
  · rename_i rest cut
    split
    · rename_i none
      have empty : path = ⟨[]⟩ := by
        have spelled := join_fields path
        rw [cut, List.isEmpty_iff.mp none] at spelled
        exact congrArg Path.mk spelled.symm
      subst empty
      exact ⟨[], trimmed_nil, rfl, rfl⟩
    · rename_i more
      have absolute : path.isAbsolute = true := by
        refine isAbsolute_of_fields ?_ cut
        intro none
        rw [fields, none, Text.fields_nil] at cut
        exact more (by rw [← (List.cons.inj cut).2]; rfl)
      rw [cut] at plain
      rw [absolute, cut]
      exact ⟨trimEnd rest, trimmed_trimEnd fun field member =>
        plain field (List.mem_cons_of_mem _ member), rfl, steps_trimEnd rest⟩
  · rename_i notHere notRoot
    cases cut : path.fields with
    | nil => exact absurd cut (Text.fields_ne_nil _ _)
    | cons first others =>
      have filled : first ≠ [] := fun none => notRoot others (by rw [cut, none])
      have solid : isVoid first = false := by
        rw [isVoid, Bool.or_eq_false_iff, List.isEmpty_eq_false_iff, beq_eq_false_iff_ne]
        exact ⟨filled, fun dot => notHere others (by rw [cut, dot])⟩
      have inner := core_trimEnd others solid
      rw [cut] at plain
      rw [isAbsolute_of_cut cut filled]
      exact ⟨_, ⟨fun field member => plain field (inner.subset member), inner.last,
        fun _ => inner.first⟩, rfl, steps_trimEnd _⟩

/-! ## Paths that are made of fields -/

variable {absolute : Bool} {fields : List Text}

/-- What stands in front of the fields of a path that is made of fields. -/
def leadingFields (absolute : Bool) : List Text :=
  if absolute then [[]] else []

theorem fields_spell (trimmed : Trimmed absolute fields) (nonempty : fields ≠ []) :
    (spell absolute fields).fields = leadingFields absolute ++ fields := by
  have inner := fields_ofFields nonempty trimmed.plain
  cases absolute with
  | false => exact inner
  | true => exact (Text.fields_cons_of_pos _ _ (by simp)).trans (congrArg _ inner)

theorem isAbsolute_spell (trimmed : Trimmed absolute fields) :
    (spell absolute fields).isAbsolute = absolute := by
  cases absolute with
  | true => rfl
  | false =>
    cases fields with
    | nil => rfl
    | cons first others =>
      have cut := fields_spell trimmed (List.cons_ne_nil first others)
      refine isAbsolute_of_cut cut ?_
      rintro rfl
      exact Bool.noConfusion (trimmed.begun rfl [] rfl)

theorem normalize_spell (trimmed : Trimmed absolute fields) :
    (spell absolute fields).normalize = spell absolute fields := by
  cases fields with
  | nil => cases absolute <;> rfl
  | cons first others =>
    have same := trimEnd_of_ended trimmed.ended
    cases absolute with
    | true =>
      have cut : (spell true (first :: others)).fields = [] :: first :: others :=
        fields_spell trimmed (List.cons_ne_nil first others)
      rw [normalize, cut]
      dsimp only
      rw [if_neg (by simp), same]
      rfl
    | false =>
      have cut : (spell false (first :: others)).fields = first :: others :=
        fields_spell trimmed (List.cons_ne_nil first others)
      have solid := trimmed.begun rfl first rfl
      rw [normalize, cut]
      split
      · rename_i front
        rw [(List.cons.inj front).1] at solid
        cases solid
      · rename_i front
        rw [(List.cons.inj front).1] at solid
        cases solid
      · rw [same]
        rfl

theorem components_spell (trimmed : Trimmed absolute fields) :
    (spell absolute fields).components =
      (if absolute then [.root] else []) ++ steps fields := by
  cases fields with
  | nil => cases absolute <;> rfl
  | cons first others =>
    have cut := fields_spell trimmed (List.cons_ne_nil first others)
    cases absolute with
    | true => exact components_eq (List.cons_ne_nil _ _) cut
    | false =>
      have whole : Core (first :: others) (first :: others) :=
        ⟨⟨[], [], by simp, nofun, nofun⟩, List.cons_ne_nil first others, trimmed.begun rfl,
          trimmed.ended⟩
      have alone := fields_ofFields (List.cons_ne_nil first others) trimmed.plain
      have inner : Core (ofFields (first :: others)).fields
          (spell false (first :: others)).fields := by
        rw [cut, alone]
        exact whole
      rw [inner.components_eq, alone]
      rfl

/-- **The normal spelling is its own normal spelling.** -/
theorem normalize_normalize (path : Path) : path.normalize.normalize = path.normalize := by
  obtain ⟨fields, trimmed, same, -⟩ := normalize_eq_spell path
  rw [same, normalize_spell trimmed]

theorem isAbsolute_normalize (path : Path) : path.normalize.isAbsolute = path.isAbsolute := by
  obtain ⟨fields, trimmed, same, -⟩ := normalize_eq_spell path
  rw [same, isAbsolute_spell trimmed]

/-- The components of a normal spelling are those of the path but for a leading `.`. -/
theorem components_normalize (path : Path) :
    path.normalize.components =
      (if path.isAbsolute then [.root] else []) ++ steps path.fields := by
  obtain ⟨fields, trimmed, same, along⟩ := normalize_eq_spell path
  rw [same, components_spell trimmed, along]

theorem steps_spell (trimmed : Trimmed absolute fields) :
    steps (spell absolute fields).fields = steps fields := by
  by_cases nonempty : fields = []
  · subst nonempty
    cases absolute <;> rfl
  · rw [fields_spell trimmed nonempty, steps_append]
    cases absolute <;> rfl

/-- The fields of the normal spelling ask for the same steps. -/
theorem steps_normalize (path : Path) : steps path.normalize.fields = steps path.fields := by
  obtain ⟨fields, trimmed, same, along⟩ := normalize_eq_spell path
  rw [same, steps_spell trimmed, along]

/-! ## Below a base -/

theorem dropSteps_of_void {step : Component} {others : List Component} {fields : List Text}
    (void : ∀ field ∈ fields, isVoid field = true) : dropSteps (step :: others) fields = none := by
  induction fields with
  | nil => rfl
  | cons field rest ih =>
    rw [dropSteps, if_pos (void field List.mem_cons_self)]
    exact ih fun other member => void other (List.mem_cons_of_mem field member)

/-- Void fields at the end are left over when steps are taken off. -/
theorem dropSteps_append_void {behind : List Text} (void : ∀ field ∈ behind, isVoid field = true)
    (others : List Component) (fields : List Text) :
    dropSteps others (fields ++ behind) = (dropSteps others fields).map (· ++ behind) := by
  induction fields generalizing others with
  | nil =>
    cases others with
    | nil => exact dropSteps.eq_1 behind
    | cons step others => exact dropSteps_of_void void
  | cons field rest ih =>
    cases others with
    | nil => rfl
    | cons step others =>
      rw [List.cons_append, dropSteps, dropSteps, ih, ih]
      split
      · rfl
      · split <;> rfl

theorem trimEnd_append_void {behind : List Text} (void : ∀ field ∈ behind, isVoid field = true)
    (fields : List Text) : trimEnd (fields ++ behind) = trimEnd fields := by
  rw [trimEnd, trimEnd, List.reverse_append, List.dropWhile_append_of_pos]
  exact fun field member => void field (List.mem_reverse.mp member)

theorem trim_append_void {behind : List Text} (void : ∀ field ∈ behind, isVoid field = true)
    (fields : List Text) : trim (fields ++ behind) = trim fields := by
  rw [trim, trim, List.dropWhile_append]
  split
  · rename_i none
    rw [List.isEmpty_iff.mp none, List.dropWhile_eq_nil_iff.mpr void]
  · exact trimEnd_append_void void _

variable {base path : Path}

/-- What is left of an absolute path below an absolute base can be told from its fields without
void ones at the end. -/
theorem below_of_fields (absolute : base.isAbsolute = true) (core behind : List Text)
    (cut : path.fields = [] :: (core ++ behind)) (void : ∀ field ∈ behind, isVoid field = true) :
    below? base path =
      (dropSteps (steps base.fields) core).map fun left => ofFields (trim left) := by
  rw [below?, components_of_isAbsolute absolute, cut]
  dsimp only
  rw [dropSteps_append_void void, Option.map_map]
  congr 1
  exact funext fun left => congrArg ofFields (trim_append_void void left)

/-- The normal spelling of an absolute path is made of the fields behind the root. -/
theorem normalize_of_isAbsolute (outright : path.isAbsolute = true) {rest : List Text}
    (cut : path.fields = [] :: rest) : path.normalize = spell true (trimEnd rest) := by
  have more : rest.isEmpty = false := by
    rw [List.isEmpty_eq_false_iff]
    rintro rfl
    have spelled := join_fields path
    rw [cut] at spelled
    exact spelling_ne_nil_of_isAbsolute outright spelled.symm
  rw [normalize, cut]
  dsimp only
  rw [if_neg (by simp [more])]
  rfl

/-- **The normal spelling leaves the same below an absolute base.** -/
theorem below_normalize (absolute : base.isAbsolute = true) (outright : path.isAbsolute = true) :
    below? base path.normalize = below? base path := by
  obtain ⟨rest, cut⟩ := fields_of_isAbsolute outright
  obtain ⟨behind, parts, void⟩ := trimEnd_append rest
  have plain : ∀ field ∈ rest, '/' ∉ field := by
    intro field member
    have inside : field ∈ path.fields := cut ▸ List.mem_cons_of_mem _ member
    exact noSlash_of_mem_fields inside
  have trimmed : Trimmed true (trimEnd rest) := trimmed_trimEnd plain
  rw [below_of_fields absolute _ _ (cut.trans (congrArg _ parts)) void,
    normalize_of_isAbsolute outright cut]
  by_cases none : trimEnd rest = []
  · rw [none]
    exact below_of_fields absolute [] [[]] rfl (by decide)
  · have same : (spell true (trimEnd rest)).fields = [] :: (trimEnd rest ++ []) := by
      rw [fields_spell trimmed none, List.append_nil]
      rfl
    exact below_of_fields absolute _ _ same nofun

/-- Steps at the front of what fields ask for can be taken off. -/
theorem exists_dropSteps {others more : List Component} {fields : List Text}
    (along : steps fields = others ++ more) : ∃ left, dropSteps others fields = some left := by
  induction fields generalizing others with
  | nil =>
    obtain ⟨rfl, -⟩ := List.append_eq_nil_iff.mp along.symm
    exact ⟨[], rfl⟩
  | cons field rest ih =>
    cases others with
    | nil => exact ⟨field :: rest, rfl⟩
    | cons step others =>
      rw [dropSteps]
      split
      · rename_i void
        have front : steps (field :: rest) = steps rest := by
          rw [steps, List.filter_cons_of_neg (by simpa using void)]
          rfl
        exact ih (front.symm.trans along)
      · rename_i solid
        have front : steps (field :: rest) = stepOf field :: steps rest := by
          rw [steps, List.filter_cons_of_pos (by simpa using solid)]
          rfl
        rw [front, List.cons_append, List.cons.injEq] at along
        rw [if_pos along.1]
        exact ih along.2

/-- An absolute path lies below an absolute base when its steps begin with those of the base. -/
theorem exists_below (absolute : base.isAbsolute = true) (outright : path.isAbsolute = true)
    {more : List Component} (along : steps path.fields = steps base.fields ++ more) :
    ∃ left, below? base path = some left := by
  obtain ⟨rest, cut⟩ := fields_of_isAbsolute outright
  have behind : steps rest = steps base.fields ++ more := by
    rw [← along, cut]
    rfl
  obtain ⟨left, dropped⟩ := exists_dropSteps behind
  refine ⟨ofFields (trim left), ?_⟩
  rw [below_of_fields absolute _ _ (cut.trans (congrArg _ (List.append_nil rest).symm)) nofun,
    dropped]
  rfl

/-- A relative path leaves nothing but itself below an absolute base. -/
theorem getD_below_of_relative (absolute : base.isAbsolute = true)
    (relative : path.isAbsolute = false) : (below? base path).getD path = path := by
  rw [below?, components_of_isAbsolute absolute]
  cases cut : path.fields with
  | nil => rfl
  | cons first rest =>
    cases first with
    | cons c field => rfl
    | nil =>
      obtain rfl := eq_empty_of_relative relative cut
      cases cut
      cases steps base.fields <;> rfl

end Hygiene.Path
