import Mathlib.Data.List.Infix
import Hygiene.Proofs.Path.Ancestors

/-!
# The way up from a path

The parent of a path has its components without the last one (`parent_spec`), and there is
no parent only at the top: at the root or at the empty path. So the ancestors of a path, in the
order in which they are passed on the way up, have as components the beginnings of the components
of the path, the longest one first (`components_ancestors`). An absolute path leads up to the root
and a relative one to the empty path. The fewer components an ancestor has, the further up it is
(`pairwise_ancestors`).

This holds of every path as it is spelled, whatever void fields stand in it.
-/

set_option autoImplicit false

namespace Hygiene.Path

/-- The components of the root or of the empty path. -/
def IsTop (components : List Component) : Prop :=
  components = [] ∨ components = [.root]

/-- The beginnings of a list of components, the longest one first. Below the root the empty one is
none. -/
def beginnings (components : List Component) : List (List Component) :=
  (components.inits.filter fun front => !front.isEmpty || components.head? != some .root).reverse

/-! ## Parents -/

/-- Fields end in one that asks for a step, or they ask for no step at all. -/
theorem trimEnd_cases (fields : List Text) :
    ((trimEnd fields).reverse = [] ∧ steps fields = []) ∨
      ∃ before last, (trimEnd fields).reverse = last :: before.reverse ∧ before <+: fields ∧
        steps fields = steps (trimEnd before) ++ [stepOf last] := by
  rw [← steps_trimEnd fields]
  cases turned : (trimEnd fields).getLast? with
  | none =>
    rw [List.getLast?_eq_none_iff.mp turned]
    exact .inl ⟨rfl, rfl⟩
  | some last =>
    obtain ⟨before, whole⟩ := List.getLast?_eq_some_iff.mp turned
    have solid := isVoid_getLast_trimEnd turned
    have step : steps [last] = [stepOf last] := by simp [steps, solid]
    refine .inr ⟨before, last, ?_, ?_, ?_⟩
    · rw [whole, List.reverse_append, List.reverse_singleton, List.singleton_append]
    · exact (whole ▸ List.prefix_append before [last]).trans (isPrefix_trimEnd fields)
    · rw [whole, steps_append, step, steps_trimEnd]

/-- What a path has for a parent: at the top there is none, and from anywhere else the parent is
one component up. -/
inductive ParentSpec (path : Path) : Option Path → Prop where
  | top (isTop : IsTop path.components) : ParentSpec path none
  | up {parent : Path} {last : Component} (inside : ¬ IsTop path.components)
      (whole : path.components = parent.components ++ [last]) : ParentSpec path (some parent)

theorem not_isTop_concat {front : List Component} {last : Component}
    (inside : front ≠ [] ∨ last ≠ .root) : ¬ IsTop (front ++ [last]) := by
  rintro (none | root)
  · simp at none
  · cases front with
    | nil => simp_all
    | cons first later => simp at root

/-- Components of a path behind a slash. -/
theorem components_of_root {path : Path} {rest : List Text} (cut : path.fields = [] :: rest)
    (more : rest ≠ []) : path.components = .root :: steps rest := by
  rw [components, cut]
  split
  · rename_i same
    cases same
  · rename_i same
    exact absurd (List.cons.inj same).2 more
  · rename_i same
    rw [(List.cons.inj same).2]
  · rename_i same
    cases same
  · rename_i notRoot _ same
    exact absurd (List.cons.inj same).1.symm notRoot

/-- Components of a path that is neither behind a slash nor behind a dot. -/
theorem components_of_solid {path : Path} (notRoot : ∀ rest, path.fields ≠ [] :: rest)
    (notHere : ∀ rest, path.fields ≠ ['.'] :: rest) : path.components = steps path.fields := by
  rw [components]
  split
  · rename_i none
    rw [none]
    rfl
  · rename_i cut
    exact absurd cut (notRoot [])
  · rename_i cut
    exact absurd cut (notRoot _)
  · rename_i cut
    exact absurd cut (notHere _)
  · rename_i cut
    rw [cut]

section

variable {path : Path} {rest : List Text}

/-- No slash stands in the fields of a path that are kept above its last step. -/
theorem noSlash_trimEnd {before : List Text} (front : before <+: rest)
    (kept : ∀ field ∈ rest, field ∈ path.fields) : ∀ field ∈ trimEnd before, '/' ∉ field :=
  fun field member =>
    noSlash_of_mem_fields (kept field (front.subset ((isPrefix_trimEnd before).subset member)))

theorem parent_of_root (cut : path.fields = [] :: rest) :
    path.parent? = match (trimEnd rest).reverse with
      | [] => none
      | _ :: before => some ⟨'/' :: (ofFields (trimEnd before.reverse)).spelling⟩ := by
  cases back : (trimEnd rest).reverse <;> simp only [parent?, cut, back]

/-- Behind a slash the way up ends at the root. -/
theorem parent_spec_root (cut : path.fields = [] :: rest) : ParentSpec path path.parent? := by
  rw [parent_of_root cut]
  rcases trimEnd_cases rest with ⟨none, stays⟩ | ⟨before, last, turned, front, along⟩
  · rw [none]
    refine .top ?_
    by_cases more : rest = []
    · rw [components, cut, more]
      exact .inl rfl
    · rw [components_of_root cut more, stays]
      exact .inr rfl
  · have more : rest ≠ [] := by
      rintro rfl
      simp [trimEnd] at turned
    have trimmed : Trimmed true (trimEnd before) := trimmed_trimEnd fun field member =>
      noSlash_of_mem_fields (cut ▸ List.mem_cons_of_mem _ (front.subset member))
    have parts : path.components =
        (spell true (trimEnd before)).components ++ [stepOf last] := by
      rw [components_of_root cut more, along, components_spell trimmed]
      rfl
    rw [turned]
    dsimp only
    rw [List.reverse_reverse]
    exact .up (parts ▸ not_isTop_concat (.inl (by simp [components_spell trimmed]))) parts

theorem parent_of_here (cut : path.fields = ['.'] :: rest) :
    path.parent? = match (trimEnd rest).reverse with
      | [] => some ⟨[]⟩
      | _ :: before => some (ofFields (['.'] :: trimEnd before.reverse)) := by
  cases back : (trimEnd rest).reverse <;> simp only [parent?, cut, back]

/-- Behind a dot the way up passes the directory itself and ends at the empty path. -/
theorem parent_spec_here (cut : path.fields = ['.'] :: rest) : ParentSpec path path.parent? := by
  have here : path.components = .here :: steps rest := by
    rw [components, cut]
    rfl
  rw [parent_of_here cut]
  rcases trimEnd_cases rest with ⟨none, stays⟩ | ⟨before, last, turned, front, along⟩
  · have parts : path.components = (Path.mk []).components ++ [.here] := by
      rw [here, stays]
      rfl
    rw [none]
    exact .up (parts ▸ not_isTop_concat (.inr (by decide))) parts
  · have plain : ∀ field ∈ trimEnd before, '/' ∉ field :=
      noSlash_trimEnd front fun _ member => cut ▸ List.mem_cons_of_mem _ member
    have cutAbove : (ofFields (['.'] :: trimEnd before)).fields = ['.'] :: trimEnd before :=
      fields_ofFields (List.cons_ne_nil _ _) (List.forall_mem_cons.mpr ⟨by decide, plain⟩)
    have parts : path.components =
        (ofFields (['.'] :: trimEnd before)).components ++ [stepOf last] := by
      rw [here, along, components, cutAbove]
      rfl
    rw [turned]
    dsimp only
    rw [List.reverse_reverse]
    refine .up (parts ▸ not_isTop_concat (.inl ?_)) parts
    rw [components, cutAbove]
    exact List.cons_ne_nil _ _

section Solid

variable (notRoot : ∀ rest, path.fields ≠ [] :: rest)
  (notHere : ∀ rest, path.fields ≠ ['.'] :: rest)
include notRoot notHere

theorem parent_of_solid :
    path.parent? = match (trimEnd path.fields).reverse with
      | [] => none
      | _ :: before => some (ofFields (trimEnd before.reverse)) := by
  rw [parent?]
  split
  · rename_i cut
    exact absurd cut (notRoot _)
  · rename_i cut
    exact absurd cut (notHere _)
  · rfl

/-- The first field of such a path stays solid when fields at the end are left out. -/
theorem trimmed_of_solid {before : List Text} (front : before <+: path.fields) :
    Trimmed false (trimEnd before) := by
  refine ⟨noSlash_trimEnd front fun _ => id, ended_trimEnd before, ?_⟩
  intro _ field head
  obtain ⟨others, cut⟩ := List.head?_eq_some_iff.mp head
  obtain ⟨behind, same⟩ := (isPrefix_trimEnd before).trans front
  rw [cut] at same
  rw [isVoid, Bool.or_eq_false_iff, List.isEmpty_eq_false_iff, beq_eq_false_iff_ne]
  exact ⟨fun none => notRoot _ (by rw [← same, none]; rfl),
    fun dot => notHere _ (by rw [← same, dot]; rfl)⟩

/-- From a first field that is solid the way up ends at the empty path. -/
theorem parent_spec_solid : ParentSpec path path.parent? := by
  have solid := components_of_solid notRoot notHere
  rw [parent_of_solid notRoot notHere]
  rcases trimEnd_cases path.fields with ⟨none, stays⟩ | ⟨before, last, turned, front, along⟩
  · rw [none]
    exact .top (.inl (solid.trans stays))
  · have trimmed := trimmed_of_solid notRoot notHere front
    have parts : path.components =
        (spell false (trimEnd before)).components ++ [stepOf last] := by
      rw [solid, along, components_spell trimmed]
      rfl
    rw [turned]
    dsimp only
    rw [List.reverse_reverse]
    refine .up (parts ▸ not_isTop_concat (.inr ?_)) parts
    rw [stepOf]
    split <;> simp

end Solid

end

theorem parent_spec (path : Path) : ParentSpec path path.parent? := by
  by_cases root : ∃ rest, path.fields = [] :: rest
  · exact parent_spec_root root.choose_spec
  by_cases here : ∃ rest, path.fields = ['.'] :: rest
  · exact parent_spec_here here.choose_spec
  exact parent_spec_solid (not_exists.mp root) (not_exists.mp here)

/-! ## Ancestors -/

theorem beginnings_of_isTop {components : List Component} (top : IsTop components) :
    beginnings components = [components] := by
  rcases top with rfl | rfl <;> decide

theorem beginnings_concat {front : List Component} {last : Component}
    (inside : ¬ IsTop (front ++ [last])) :
    beginnings (front ++ [last]) = (front ++ [last]) :: beginnings front := by
  have head : ((front ++ [last]).head? != some .root) = (front.head? != some .root) := by
    cases front with
    | nil =>
      have other : last ≠ .root := fun root => inside (.inr (by rw [root]; rfl))
      simpa [bne] using other
    | cons first later => rfl
  have longest : (front ++ [last]).inits = front.inits ++ [front ++ [last]] := by
    simp [List.inits_append]
  rw [beginnings, head, longest, List.filter_append, List.reverse_append, beginnings]
  simp

/-- Fields that ask for a step have a character. -/
theorem length_steps_le (fields : List Text) :
    (steps fields).length ≤ (Text.join ['/'] fields).length := by
  induction fields with
  | nil => exact Nat.zero_le _
  | cons first others ih =>
    have one : (steps [first]).length ≤ first.length := by
      cases first with
      | nil => exact Nat.zero_le _
      | cons c rest =>
        rw [steps, List.length_map]
        exact (List.length_filter_le _ _).trans (Nat.succ_le_succ (Nat.zero_le _))
    have parts : steps (first :: others) = steps [first] ++ steps others :=
      steps_append [first] others
    rw [parts, List.length_append]
    cases others with
    | nil => simpa [Text.join_singleton, steps] using one
    | cons second later =>
      rw [Text.join_cons_cons, List.length_append, List.length_append]
      omega

/-- There are no more components than characters in a path. -/
theorem length_components_le (path : Path) : path.components.length ≤ path.spelling.length := by
  by_cases empty : path.spelling = []
  · have none : path.fields = [[]] := by rw [fields, empty, Text.fields_nil]
    rw [components, none]
    exact Nat.zero_le _
  · cases cut : path.fields with
    | nil => exact absurd cut (Text.fields_ne_nil _ _)
    | cons first others =>
      have one : (firstStep first).length = 1 := by
        rw [firstStep]
        split
        · rfl
        · split <;> rfl
      rw [components_eq empty cut, List.length_append, one]
      cases others with
      | nil => exact List.length_pos_iff.mpr empty
      | cons second later =>
        have spelled := join_fields path
        rw [cut, Text.join_cons_cons] at spelled
        have fits := length_steps_le (second :: later)
        rw [← spelled, List.length_append, List.length_append, List.length_singleton]
        omega

theorem components_ancestorsWithin {bound : Nat} {path : Path}
    (enough : path.components.length ≤ bound) :
    (ancestorsWithin bound path).map components = beginnings path.components := by
  induction bound generalizing path with
  | zero =>
    have top : IsTop path.components := .inl (List.length_eq_zero_iff.mp (Nat.le_zero.mp enough))
    rw [beginnings_of_isTop top]
    rfl
  | succ bound ih =>
    have spec := parent_spec path
    rw [ancestorsWithin, List.map_cons]
    cases above : path.parent? with
    | none =>
      rw [above] at spec
      cases spec with
      | top isTop =>
        rw [beginnings_of_isTop isTop]
        rfl
    | some parent =>
      rw [above] at spec
      cases spec with
      | up inside whole =>
        rw [whole] at inside enough
        rw [List.length_append, List.length_singleton] at enough
        rw [ih (Nat.le_of_succ_le_succ enough), whole, beginnings_concat inside]

/-- **The ancestors of a path have as components the beginnings of its components, the longest one
first.** -/
theorem components_ancestors (path : Path) :
    path.ancestors.map components = beginnings path.components :=
  components_ancestorsWithin (length_components_le path)

/-- On the way up there are ever fewer components. -/
theorem pairwise_ancestors (path : Path) :
    path.ancestors.Pairwise fun closer farther =>
      farther.components.length < closer.components.length := by
  have order : (beginnings path.components).Pairwise fun closer farther =>
      farther.length < closer.length := by
    rw [beginnings, List.pairwise_reverse]
    refine List.Pairwise.filter _ (List.pairwise_iff_getElem.mpr ?_)
    intro i j low high less
    rw [List.length_inits] at low high
    rw [List.getElem_inits, List.getElem_inits, List.length_take, List.length_take]
    omega
  rw [← components_ancestors] at order
  exact List.pairwise_map.mp order

end Hygiene.Path
