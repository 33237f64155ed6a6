import Hygiene.Proofs.Path.Spelling

/-!
# The directories above a path

The ancestors of a path in its normal spelling are the path, the directories above it as it is
spelled, and, when it is relative, the empty path (`mem_ancestors_normalize`). A directory above a
path is spelled at the front of the path, up to the end of a field that names something, and
something is named behind it; the root is above every absolute path that names something. So the
empty path is no directory above anything (`IsAbove.spelling_ne_nil`).

The parent of a path that is made of fields is made of these fields without the last one and
without the void ones in front of it. From there on the ancestors are the beginnings of the fields
that end in one which is not void (`mem_ancestorsWithin_spell`).
-/

set_option autoImplicit false

namespace Hygiene.Path

/-- A directory is above a path as it is spelled. -/
inductive IsAbove : Path → Path → Prop where
  /-- The root is above an absolute path that leads on from it. -/
  | root {path : Path} (absolute : path.isAbsolute = true)
      (leads : ∃ field ∈ path.fields, isVoid field = false) : IsAbove ⟨['/']⟩ path
  /-- A path leads on behind a slash from a directory that is named at the front of it. -/
  | named {directory path : Path} {rest : Text}
      (spelled : path.spelling = directory.spelling ++ '/' :: rest)
      (ends : ∃ field ∈ directory.fields.getLast?, isVoid field = false)
      (leads : ∃ field ∈ Text.fields rest (· = '/'), isVoid field = false) :
      IsAbove directory path

theorem IsAbove.spelling_ne_nil {directory path : Path} (above : IsAbove directory path) :
    directory.spelling ≠ [] := by
  cases above with
  | root => exact List.cons_ne_nil _ _
  | named _ ends =>
    rintro none
    obtain ⟨field, last, solid⟩ := ends
    rw [fields, none, Text.fields_nil] at last
    cases last
    cases solid

/-! ## Parents -/

variable {absolute : Bool} {fields : List Text}

theorem parent_spell (trimmed : Trimmed absolute fields) (nonempty : fields ≠ []) :
    (spell absolute fields).parent? = some (spell absolute (trimEnd fields.dropLast)) := by
  have whole := trimEnd_of_ended trimmed.ended
  obtain ⟨earlier, last, rfl⟩ : ∃ earlier last, fields = earlier ++ [last] :=
    ⟨fields.dropLast, fields.getLast nonempty, (List.dropLast_append_getLast nonempty).symm⟩
  have turned : (trimEnd (earlier ++ [last])).reverse = last :: earlier.reverse := by
    rw [whole, List.reverse_append]
    rfl
  rw [List.dropLast_concat]
  cases absolute with
  | true =>
    have cut : (spell true (earlier ++ [last])).fields = [] :: (earlier ++ [last]) :=
      fields_spell trimmed nonempty
    rw [parent?, cut]
    dsimp only
    rw [turned]
    dsimp only
    rw [List.reverse_reverse]
    rfl
  | false =>
    have cut : (spell false (earlier ++ [last])).fields = earlier ++ [last] :=
      fields_spell trimmed nonempty
    rw [parent?, cut]
    split
    · rename_i rest front
      have solid := trimmed.begun rfl [] (by rw [front]; rfl)
      cases solid
    · rename_i rest front
      have solid := trimmed.begun rfl ['.'] (by rw [front]; rfl)
      cases solid
    · rw [turned]
      dsimp only
      rw [List.reverse_reverse]
      rfl

theorem parent_spell_nil (absolute : Bool) : (spell absolute []).parent? = none := by
  cases absolute <;> rfl

theorem Trimmed.of_isPrefix {front : List Text} (trimmed : Trimmed absolute fields)
    (first : front <+: fields) (ended : Ended front) : Trimmed absolute front where
  plain field member := trimmed.plain field (first.subset member)
  ended := ended
  begun := by
    intro relative field head
    obtain ⟨later, rfl⟩ := List.head?_eq_some_iff.mp head
    obtain ⟨behind, rfl⟩ := first
    exact trimmed.begun relative field rfl

/-! ## Ancestors -/

/-- The ancestors of a path that is made of fields are made of the beginnings of these fields. -/
theorem mem_ancestorsWithin_spell {bound : Nat} (trimmed : Trimmed absolute fields)
    (enough : fields.length ≤ bound) (above : Path) :
    above ∈ ancestorsWithin bound (spell absolute fields) ↔
      ∃ front, front <+: fields ∧ Ended front ∧ above = spell absolute front := by
  induction bound generalizing fields with
  | zero =>
    obtain rfl := List.length_eq_zero_iff.mp (Nat.le_zero.mp enough)
    rw [ancestorsWithin, List.mem_singleton]
    constructor
    · exact fun same => ⟨[], List.prefix_rfl, trimmed.ended, same⟩
    · rintro ⟨front, first, -, same⟩
      rwa [List.prefix_nil.mp first] at same
  | succ bound ih =>
    rw [ancestorsWithin]
    by_cases nonempty : fields = []
    · subst nonempty
      rw [parent_spell_nil, List.mem_singleton]
      constructor
      · exact fun same => ⟨[], List.prefix_rfl, trimmed.ended, same⟩
      · rintro ⟨front, first, -, same⟩
        rwa [List.prefix_nil.mp first] at same
    · have shorter : trimEnd fields.dropLast <+: fields :=
        (isPrefix_trimEnd _).trans (List.dropLast_prefix fields)
      have fewer : (trimEnd fields.dropLast).length ≤ bound := by
        have fits := (isPrefix_trimEnd fields.dropLast).length_le
        rw [List.length_dropLast] at fits
        omega
      rw [parent_spell trimmed nonempty, List.mem_cons,
        ih (trimmed.of_isPrefix shorter (ended_trimEnd _)) fewer]
      constructor
      · rintro (same | ⟨front, first, ended, same⟩)
        · exact ⟨fields, List.prefix_rfl, trimmed.ended, same⟩
        · exact ⟨front, first.trans shorter, ended, same⟩
      · rintro ⟨front, ⟨behind, whole⟩, ended, same⟩
        by_cases all : behind = []
        · rw [all, List.append_nil] at whole
          exact .inl (whole ▸ same)
        · refine .inr ⟨front, (isPrefix_trimEnd_iff ended).mpr ⟨behind.dropLast, ?_⟩, ended, same⟩
          rw [← whole, List.dropLast_append_of_ne_nil all]

/-- There are no more fields than there are characters in what they spell. -/
theorem length_le_join {fields : List Text} (ended : Ended fields) :
    fields.length ≤ (Text.join ['/'] fields).length := by
  induction fields with
  | nil => exact Nat.zero_le _
  | cons first others ih =>
    cases others with
    | nil =>
      have solid := ended first rfl
      rw [Text.join_singleton]
      cases first with
      | nil => cases solid
      | cons c rest => exact Nat.succ_le_succ (Nat.zero_le _)
    | cons second later =>
      have behind := ih fun field last => ended field (by rwa [List.getLast?_cons_cons])
      rw [Text.join_cons_cons, List.length_append, List.length_append]
      simp only [List.length_cons, List.length_nil] at behind ⊢
      omega

theorem mem_ancestors_spell (trimmed : Trimmed absolute fields) (above : Path) :
    above ∈ ancestors (spell absolute fields) ↔
      ∃ front, front <+: fields ∧ Ended front ∧ above = spell absolute front := by
  apply mem_ancestorsWithin_spell trimmed
  have fits := length_le_join trimmed.ended
  cases absolute with
  | true => exact Nat.le_succ_of_le fits
  | false => exact fits

/-! ## Directories above -/

/-- Nothing is named in the root or in the empty path. -/
theorem nonempty_of_solid (solid : ∃ field ∈ (spell absolute fields).fields, isVoid field = false) :
    fields ≠ [] := by
  rintro rfl
  obtain ⟨field, member, solid⟩ := solid
  have void : ∀ field ∈ (spell absolute []).fields, isVoid field = true := by
    cases absolute <;> decide
  rw [void field member] at solid
  cases solid

theorem ofFields_fields (path : Path) : ofFields path.fields = path :=
  congrArg Path.mk (join_fields path)

/-- A directory that is named at the front of a path is made of a beginning of its fields. -/
theorem exists_front_of_named {directory : Path} {rest : Text} (trimmed : Trimmed absolute fields)
    (spelled : (spell absolute fields).spelling = directory.spelling ++ '/' :: rest)
    (ends : ∃ field ∈ directory.fields.getLast?, isVoid field = false)
    (leads : ∃ field ∈ Text.fields rest (· = '/'), isVoid field = false) :
    ∃ front behind, fields = front ++ behind ∧ front ≠ [] ∧ behind ≠ [] ∧ Ended front ∧
      directory = spell absolute front := by
  have parts : (spell absolute fields).fields = directory.fields ++ Text.fields rest (· = '/') := by
    rw [Path.fields, spelled]
    exact Text.fields_append_cons _ _ rest (by simp)
  obtain ⟨last, isLast, named⟩ := ends
  obtain ⟨field, member, solid⟩ := leads
  have nonempty := nonempty_of_solid ⟨field, parts ▸ List.mem_append_right _ member, solid⟩
  rw [fields_spell trimmed nonempty] at parts
  have more := List.ne_nil_of_mem member
  have ended : Ended directory.fields := by
    intro other found
    rw [Option.mem_def.mp isLast] at found
    cases found
    exact named
  cases absolute with
  | false =>
    have filled := List.ne_nil_of_mem (List.mem_of_getLast? isLast)
    exact ⟨directory.fields, _, parts, filled, more, ended, (ofFields_fields directory).symm⟩
  | true =>
    cases cut : directory.fields with
    | nil => exact absurd cut (Text.fields_ne_nil _ _)
    | cons first front =>
      rw [cut] at parts isLast ended
      obtain ⟨rfl, whole⟩ := List.cons.inj parts
      cases front with
      | nil =>
        cases isLast
        cases named
      | cons second later =>
        refine ⟨second :: later, _, whole, List.cons_ne_nil _ _, more, ?_, ?_⟩
        · exact fun other found => ended other (by rwa [List.getLast?_cons_cons])
        · rw [← ofFields_fields directory, cut, ofFields, Text.join_cons_cons]
          rfl

theorem spelling_spell_append {front behind : List Text} (first : front ≠ [])
    (second : behind ≠ []) :
    (spell absolute (front ++ behind)).spelling =
      (spell absolute front).spelling ++ '/' :: Text.join ['/'] behind := by
  have joined : Text.join ['/'] (front ++ behind) =
      Text.join ['/'] front ++ '/' :: Text.join ['/'] behind := by
    rw [Text.join_append _ first second, List.append_assoc, List.singleton_append]
  cases absolute with
  | false => exact joined
  | true => exact congrArg (List.cons '/') joined

/-- What is above a path that is made of fields is made of a beginning of them. The empty path is
made of none. -/
theorem isAbove_spell_iff (trimmed : Trimmed absolute fields) (directory : Path) :
    IsAbove directory (spell absolute fields) ↔
      ∃ front, front <+: fields ∧ Ended front ∧ directory = spell absolute front ∧
        front ≠ fields ∧ (absolute = true ∨ front ≠ []) := by
  constructor
  · intro above
    cases above with
    | root isRoot leads =>
      obtain rfl : absolute = true := (isAbsolute_spell trimmed).symm.trans isRoot
      exact ⟨[], List.nil_prefix, fun _ last => (nomatch last), rfl,
        (nonempty_of_solid leads).symm, .inl rfl⟩
    | named spelled ends leads =>
      obtain ⟨front, behind, rfl, nonempty, more, ended, same⟩ :=
        exists_front_of_named trimmed spelled ends leads
      exact ⟨front, List.prefix_append front behind, ended, same, by simp [more], .inr nonempty⟩
  · rintro ⟨front, ⟨behind, rfl⟩, ended, rfl, shorter, named⟩
    have more : behind ≠ [] := by
      rintro rfl
      exact shorter (List.append_nil front).symm
    have leads : ∃ field ∈ behind, isVoid field = false := by
      refine ⟨behind.getLast more, List.getLast_mem more, trimmed.ended _ ?_⟩
      rw [List.getLast?_append_of_ne_nil _ more, List.getLast?_eq_some_getLast]
      exact Option.mem_some_self _
    by_cases none : front = []
    · subst none
      obtain rfl : absolute = true := named.resolve_right fun filled => filled rfl
      have cut := fields_spell trimmed (by simp [more])
      obtain ⟨field, member, solid⟩ := leads
      exact .root (isAbsolute_spell trimmed) ⟨field, cut ▸ List.mem_append_right _ member, solid⟩
    · have cut := fields_spell (trimmed.of_isPrefix (List.prefix_append front behind) ended) none
      have inner : Text.fields (Text.join ['/'] behind) (· = '/') = behind :=
        fields_ofFields more fun field member =>
          trimmed.plain field (List.mem_append_right front member)
      refine .named (spelling_spell_append none more) ?_ (by rwa [inner])
      refine ⟨front.getLast none, ?_, ended _ (List.getLast?_eq_some_getLast none)⟩
      rw [cut, List.getLast?_append_of_ne_nil _ none]
      exact List.getLast?_eq_some_getLast none

/-- **The ancestors of a path are the path, the directories above it, and the empty path when it
is relative.** -/
theorem mem_ancestors_normalize (path above : Path) :
    above ∈ path.normalize.ancestors ↔
      above = path.normalize ∨ IsAbove above path.normalize ∨
        path.isAbsolute = false ∧ above = ⟨[]⟩ := by
  obtain ⟨fields, trimmed, same, -⟩ := normalize_eq_spell path
  rw [same, mem_ancestors_spell trimmed, isAbove_spell_iff trimmed]
  constructor
  · rintro ⟨front, first, ended, rfl⟩
    by_cases whole : front = fields
    · exact .inl (by rw [whole])
    · by_cases none : path.isAbsolute = false ∧ front = []
      · refine .inr (.inr ⟨none.1, ?_⟩)
        rw [none.1, none.2]
        rfl
      · refine .inr (.inl ⟨front, first, ended, rfl, whole, ?_⟩)
        by_cases absolute : path.isAbsolute = true
        · exact .inl absolute
        · exact .inr fun empty => none ⟨by simpa using absolute, empty⟩
  · rintro (rfl | ⟨front, first, ended, rfl, -⟩ | ⟨relative, rfl⟩)
    · exact ⟨fields, List.prefix_rfl, trimmed.ended, rfl⟩
    · exact ⟨front, first, ended, rfl⟩
    · refine ⟨[], List.nil_prefix, fun _ last => (nomatch last), ?_⟩
      rw [relative]
      rfl

end Hygiene.Path
