import Hygiene.Proofs.Python.RuleByRule
import Hygiene.Proofs.Text.Listed

/-!
# Which rules are selected

The entries to include and to ignore are read as sets of names (`NamedBy`, `mem_names_iff`). When
all the names to include are names of rules, the selected rules are the default ones and the
included ones without the ignored ones; the first name to include that is no rule's is an error
(`mem_select_iff`, `select_eq_error_iff`). Nothing but these sets and the first unknown name counts
(`select_congr`). So it makes no difference how the names are distributed over entries
(`Regrouped`), their order matters to an error only, and a name to ignore that is no rule's changes
nothing (`select_algebra`).
-/

set_option autoImplicit false

namespace Hygiene.Python.Rule

/-- A name is read from entries: it stands in one of them, and neither blanks nor commas belong to
it. -/
structure NamedBy (entries : List Text) (name : Text) : Prop where
  trimmed : Text.Trimmed name
  plain : ',' ∉ name
  stands : ∃ entry ∈ entries, Text.StandsIn name entry

/-- A name of some rule. -/
def IsRuleName (name : Text) : Prop :=
  ∃ rule : Rule, rule.name = name

/-- The same names are written down in entries in another way, in the same order. -/
inductive Regrouped : List Text → List Text → Prop where
  | symm {first second : List Text} (same : Regrouped first second) : Regrouped second first
  | trans {first second third : List Text} (same : Regrouped first second)
      (further : Regrouped second third) : Regrouped first third
  | behind (entry : Text) {first second : List Text} (same : Regrouped first second) :
      Regrouped (entry :: first) (entry :: second)
  /-- An entry is given once more. -/
  | repeated (entry : Text) (between others : List Text) :
      Regrouped (entry :: (between ++ others)) (entry :: (between ++ entry :: others))
  /-- Two entries are joined with a comma. -/
  | joined (left right : Text) (others : List Text) :
      Regrouped (left :: right :: others) ((left ++ ',' :: right) :: others)
  /-- Blanks are written around an entry. -/
  | padded {front ends : Text} (before : Text.isBlank front = true)
      (behind : Text.isBlank ends = true) (entry : Text) (others : List Text) :
      Regrouped (entry :: others) ((front ++ entry ++ ends) :: others)
  /-- An empty entry is added. -/
  | emptied (others : List Text) : Regrouped others ([] :: others)

/-! ## Names in entries -/

theorem names_cons (entry : Text) (others : List Text) :
    names (entry :: others) =
      ((Text.trimmedFields entry).filter fun name => !name.isEmpty) ++ names others := by
  rw [names, names, List.flatMap_cons, List.map_append, List.filter_append]
  rfl

theorem names_append (left right : List Text) :
    names (left ++ right) = names left ++ names right := by
  rw [names, names, names, List.flatMap_append, List.map_append, List.filter_append]

/-- The names that are read are those that stand in entries. -/
theorem mem_names_iff (entries : List Text) (name : Text) :
    name ∈ names entries ↔ NamedBy entries name := by
  have read : name ∈ names entries ↔
      name ≠ [] ∧ ∃ entry ∈ entries, ∃ field ∈ entry.fields (· = ','), field.trim = name := by
    simp only [names, List.mem_filter, List.mem_map, List.mem_flatMap, Bool.not_eq_true',
      List.isEmpty_eq_false_iff]
    constructor
    · rintro ⟨⟨field, ⟨entry, given, inside⟩, same⟩, filled⟩
      exact ⟨filled, entry, given, field, inside, same⟩
    · rintro ⟨filled, entry, given, field, inside, same⟩
      exact ⟨⟨field, ⟨entry, given, inside⟩, same⟩, filled⟩
  rw [read]
  constructor
  · rintro ⟨filled, entry, given, field, inside, rfl⟩
    have trimmed := Text.trimmed_trim filled
    have plain : ',' ∉ field.trim := by
      intro comma
      obtain ⟨front, ends, whole, -⟩ := Text.exists_around_trim field
      have member : ',' ∈ field := by
        rw [whole]
        exact List.mem_append_left _ (List.mem_append_right _ comma)
      exact absurd (Text.plain_of_mem_fields _ inside ',' member) (by decide)
    exact ⟨trimmed, plain, entry, given,
      (Text.standsIn_iff trimmed plain entry).mpr ⟨field, inside, rfl⟩⟩
  · rintro ⟨trimmed, plain, entry, given, stands⟩
    exact ⟨trimmed.nonempty, entry, given, (Text.standsIn_iff trimmed plain entry).mp stands⟩

/-- The first name of any kind does not depend on how the names are written down. -/
theorem Regrouped.find?_names {first second : List Text} (same : Regrouped first second)
    (wanted : Text → Bool) : (names first).find? wanted = (names second).find? wanted := by
  induction same with
  | symm _ ih => exact ih.symm
  | trans _ _ ih further => exact ih.trans further
  | behind entry _ ih => rw [names_cons, names_cons, List.find?_append, List.find?_append, ih]
  | repeated entry between others =>
    simp only [names_cons, names_append, List.find?_append]
    cases ((Text.trimmedFields entry).filter fun name => !name.isEmpty).find? wanted <;> simp
  | joined left right others =>
    rw [names_cons, names_cons, names_cons, Text.trimmedFields_joined, List.filter_append,
      List.append_assoc]
  | padded before behind entry others =>
    rw [names_cons, names_cons, Text.trimmedFields_append_blank _ behind,
      Text.trimmedFields_blank_append before]
  | emptied others =>
    rw [names_cons]
    rfl

/-- The names do not depend on how they are written down. -/
theorem Regrouped.mem_names {first second : List Text} (same : Regrouped first second)
    (name : Text) : name ∈ names first ↔ name ∈ names second := by
  have found := same.find?_names (· == name)
  have member (texts : List Text) : name ∈ texts ↔ (texts.find? (· == name)).isSome = true := by
    simp [List.find?_isSome]
  rw [member, member, found]

theorem mem_names_of_perm {first second : List Text} (order : first.Perm second) (name : Text) :
    name ∈ names first ↔ name ∈ names second :=
  (((order.flatMap_right _).map _).filter _).mem_iff

/-! ## The selection -/

theorem ofName_eq_some_iff (name : Text) (rule : Rule) :
    ofName? name = some rule ↔ rule.name = name := by
  constructor
  · intro found
    simpa using List.find?_some found
  · rintro rfl
    exact ofName_name rule

theorem ofName_eq_none_iff (name : Text) : ofName? name = none ↔ ¬ IsRuleName name := by
  rw [Option.eq_none_iff_forall_ne_some, IsRuleName, not_exists]
  simp only [ne_eq, ofName_eq_some_iff]

theorem mem_filterMap_ofName (names : List Text) (rule : Rule) :
    rule ∈ names.filterMap ofName? ↔ rule.name ∈ names := by
  simp only [List.mem_filterMap, ofName_eq_some_iff, exists_eq_right']

theorem contains_filterMap_ofName {first second : List Text} {rule : Rule}
    (same : rule.name ∈ first ↔ rule.name ∈ second) :
    (first.filterMap ofName?).contains rule = (second.filterMap ofName?).contains rule := by
  rw [Bool.eq_iff_iff, List.contains_iff_mem, List.contains_iff_mem, mem_filterMap_ofName,
    mem_filterMap_ofName, same]

/-- A selection fails for the first name to include that no rule has. -/
theorem select_eq_error_iff (included ignored : List Text) (error : Error) :
    select included ignored = .error error ↔
      ∃ before unknown behind, names included = before ++ unknown :: behind ∧
        (∀ name ∈ before, IsRuleName name) ∧ ¬ IsRuleName unknown ∧
        error = .argument (unknownMessage unknown) := by
  have first (unknown : Text) :
      (names included).find? (fun name => (ofName? name).isNone) = some unknown ↔
        ∃ before behind, names included = before ++ unknown :: behind ∧
          (∀ name ∈ before, IsRuleName name) ∧ ¬ IsRuleName unknown := by
    rw [List.find?_eq_some_iff_append]
    simp only [Option.isNone_iff_eq_none, ofName_eq_none_iff, Bool.not_eq_true',
      Option.isNone_eq_false_iff, ← Option.ne_none_iff_isSome, ne_eq, not_not]
    constructor
    · rintro ⟨other, before, behind, whole, known⟩
      exact ⟨before, behind, whole, known, other⟩
    · rintro ⟨before, behind, whole, known, other⟩
      exact ⟨other, before, behind, whole, known⟩
  rw [select]
  cases found : (names included).find? fun name => (ofName? name).isNone with
  | some unknown =>
    obtain ⟨before, behind, whole, known, other⟩ := (first unknown).mp found
    constructor
    · rintro same
      cases same
      exact ⟨before, unknown, behind, whole, known, other, rfl⟩
    · rintro ⟨front, name, later, parts, all, wrong, rfl⟩
      rw [(first name).mpr ⟨front, later, parts, all, wrong⟩, Option.some.injEq] at found
      rw [found]
  | none =>
    refine ⟨nofun, ?_⟩
    rintro ⟨front, name, later, parts, all, wrong, -⟩
    rw [(first name).mpr ⟨front, later, parts, all, wrong⟩] at found
    cases found

/-- A selection fails when some name to include is no rule's. -/
theorem exists_select_eq_error_iff (included ignored : List Text) :
    (∃ error, select included ignored = .error error) ↔
      ∃ name, NamedBy included name ∧ ¬ IsRuleName name := by
  simp only [select_eq_error_iff, ← mem_names_iff]
  constructor
  · rintro ⟨error, before, unknown, behind, whole, -, other, -⟩
    exact ⟨unknown, by simp [whole], other⟩
  · rintro ⟨name, member, other⟩
    have some : ((names included).find? fun name => (ofName? name).isNone).isSome = true := by
      rw [List.find?_isSome]
      exact ⟨name, member, by simpa using (ofName_eq_none_iff name).mpr other⟩
    obtain ⟨unknown, found⟩ := Option.isSome_iff_exists.mp some
    have fails : select included ignored = .error (.argument (unknownMessage unknown)) := by
      rw [select, found]
    exact ⟨_, (select_eq_error_iff included ignored _).mp fails⟩

/-- What is selected are the default rules and the included ones without the ignored ones. -/
theorem mem_select_iff {included ignored : List Text} {rules : List Rule}
    (selected : select included ignored = .ok rules) (rule : Rule) :
    rule ∈ rules ↔
      (rule ∈ defaultEnabled ∨ NamedBy included rule.name) ∧ ¬ NamedBy ignored rule.name := by
  rw [select] at selected
  split at selected
  · cases selected
  · cases selected
    simp only [mem_filter_all, Bool.and_eq_true, Bool.or_eq_true, List.contains_iff_mem,
      Bool.not_eq_true', ← Bool.not_eq_true, mem_filterMap_ofName, mem_names_iff]

/-- What is selected depends on the first unknown name to include and on the rules that are
named. -/
theorem select_congr {included other ignored otherIgnored : List Text}
    (faults : (names other).find? (fun name => (ofName? name).isNone) =
      (names included).find? fun name => (ofName? name).isNone)
    (adds : ∀ rule : Rule, rule.name ∈ names other ↔ rule.name ∈ names included)
    (drops : ∀ rule : Rule, rule.name ∈ names otherIgnored ↔ rule.name ∈ names ignored) :
    select other otherIgnored = select included ignored := by
  rw [select, select, faults]
  split
  · rfl
  · dsimp only
    congr 1
    apply List.filter_congr
    intro rule _
    rw [contains_filterMap_ofName (adds rule), contains_filterMap_ofName (drops rule)]

/-- Where no name is unknown, only the sets of names count. -/
theorem toOption_select_congr {included other ignored otherIgnored : List Text}
    (adds : ∀ name, name ∈ names other ↔ name ∈ names included)
    (drops : ∀ name, name ∈ names otherIgnored ↔ name ∈ names ignored) :
    (select other otherIgnored).toOption = (select included ignored).toOption := by
  have known : (∀ name ∈ names other, ¬ (ofName? name).isNone = true) ↔
      ∀ name ∈ names included, ¬ (ofName? name).isNone = true := by simp only [adds]
  rw [← List.find?_eq_none, ← List.find?_eq_none] at known
  cases first : (names other).find? fun name => (ofName? name).isNone with
  | some unknown =>
    cases second : (names included).find? fun name => (ofName? name).isNone with
    | some another =>
      rw [select, select, first, second]
      rfl
    | none =>
      rw [known.mpr second] at first
      cases first
  | none =>
    have faults := first.trans (known.mp first).symm
    exact congrArg Except.toOption
      (select_congr faults (fun rule => adds rule.name) fun rule => drops rule.name)

/-- **A selection of rules is set algebra on names.** It fails, with the first unknown name, when a
name to include is no rule's. Otherwise it is the default rules and the included ones without the
ignored ones, in the order of their names. It is the same however the names are written down and,
where it does not fail, in whatever order they are. Unknown names to ignore change nothing. -/
theorem select_algebra (included ignored : List Text) :
    ((∃ error, select included ignored = .error error) ↔
      ∃ name, NamedBy included name ∧ ¬ IsRuleName name) ∧
    (∀ error, select included ignored = .error error →
      ∃ before unknown behind, names included = before ++ unknown :: behind ∧
        (∀ name ∈ before, IsRuleName name) ∧ ¬ IsRuleName unknown ∧
        error = .argument (unknownMessage unknown)) ∧
    (∀ rules, select included ignored = .ok rules → rules.Sublist all ∧ ∀ rule, rule ∈ rules ↔
      (rule ∈ defaultEnabled ∨ NamedBy included rule.name) ∧ ¬ NamedBy ignored rule.name) ∧
    (∀ otherIncluded otherIgnored, Regrouped included otherIncluded →
      Regrouped ignored otherIgnored →
      select otherIncluded otherIgnored = select included ignored) ∧
    (∀ otherIncluded otherIgnored, included.Perm otherIncluded → ignored.Perm otherIgnored →
      (select otherIncluded otherIgnored).toOption = (select included ignored).toOption) ∧
    ∀ unknown, (∀ name, NamedBy unknown name → ¬ IsRuleName name) →
      select included (ignored ++ unknown) = select included ignored := by
  refine ⟨exists_select_eq_error_iff included ignored,
    fun error => (select_eq_error_iff included ignored error).mp, fun rules selected => ⟨?_, ?_⟩,
    fun otherIncluded otherIgnored included' ignored' => ?_,
    fun otherIncluded otherIgnored included' ignored' => ?_, fun unknown foreign => ?_⟩
  · rw [select] at selected
    split at selected <;> cases selected
    exact List.filter_sublist
  · exact mem_select_iff selected
  · exact select_congr (included'.find?_names _).symm
      (fun rule => (included'.mem_names rule.name).symm)
      fun rule => (ignored'.mem_names rule.name).symm
  · exact toOption_select_congr (fun name => (mem_names_of_perm included' name).symm)
      fun name => (mem_names_of_perm ignored' name).symm
  · refine select_congr rfl (fun rule => Iff.rfl) fun rule => ?_
    rw [names_append, List.mem_append, or_iff_left]
    exact fun member => foreign rule.name ((mem_names_iff unknown rule.name).mp member) ⟨rule, rfl⟩

end Hygiene.Python.Rule
