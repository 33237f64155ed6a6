import Hygiene.Proofs.Path.Joined
import Hygiene.Proofs.Tree.Place

/-!
# Steps that can be left out

Steps that stay where they are can be left out on the way to a location, whatever links the way
leads through (`Shortened.follow`). The normal spelling of a path leaves out nothing else
(`shortened_normalize`), so it leads where the path leads (`locate_join_normalize`). The path can
lead nowhere where its normal spelling leads to a file: a slash or a dot behind the name of a file
asks for a directory, and the normal spelling does without it.
-/

set_option autoImplicit false

namespace Hygiene.FileTree

open Hygiene.Path (Component spell Trimmed)

variable {tree : FileTree} {user : User}

/-! ## What one step does -/

theorem advance_name_eq (location : Location) (text : Text) (later : List Component) :
    tree.advance user location (.name text :: later) =
      (tree.requireSearchable user location).bind fun _ =>
        if maxNameSize < Text.utf8Size text then .error .nameTooLong
        else match tree.lookup (location ++ [text]) with
          | none => .error .notFound
          | some (.link target) =>
            .ok (.redirected (if target.isAbsolute then [] else location) (route target ++ later))
          | some _ => tree.advance user (location ++ [text]) later := by
  rw [advance]
  cases tree.requireSearchable user location with
  | error error => rfl
  | ok free =>
    simp only [bind, Except.bind]
    split
    · rfl
    · cases tree.lookup (location ++ [text]) with
      | none => rfl
      | some entry => cases entry <;> rfl

theorem follow_succ (bound : Nat) (location : Location) (steps : List Component) :
    tree.follow user (bound + 1) location steps =
      match tree.advance user location steps with
      | .error error => .error error
      | .ok (.arrived found) => .ok found
      | .ok (.redirected base further) => tree.follow user bound base further := by
  rw [follow]
  cases tree.advance user location steps with
  | error error => rfl
  | ok passage => cases passage <;> rfl

/-! ## Steps that can be left out -/

/-- The second steps are the first ones without some that stay where they are. -/
inductive Shortened : List Component → List Component → Prop where
  | nil : Shortened [] []
  | step (step : Component) {steps direct : List Component} (rest : Shortened steps direct) :
      Shortened (step :: steps) (step :: direct)
  | here {steps direct : List Component} (rest : Shortened steps direct) :
      Shortened (.here :: steps) direct

namespace Shortened

theorem refl (steps : List Component) : Shortened steps steps := by
  induction steps with
  | nil => exact .nil
  | cons step others ih => exact .step step ih

theorem append {first second third fourth : List Component} (earlier : Shortened first second)
    (later : Shortened third fourth) : Shortened (first ++ third) (second ++ fourth) := by
  induction earlier with
  | nil => exact later
  | step step _ ih => exact .step step ih
  | here _ ih => exact .here ih

theorem of_here {steps : List Component} (here : ∀ step ∈ steps, step = .here) :
    Shortened steps [] := by
  induction steps with
  | nil => exact .nil
  | cons step others ih =>
    obtain ⟨rfl, later⟩ := List.forall_mem_cons.mp here
    exact .here (ih later)

theorem split {earlier later direct : List Component}
    (shorter : Shortened (earlier ++ later) direct) :
    ∃ front behind, direct = front ++ behind ∧ Shortened earlier front ∧
      Shortened later behind := by
  induction earlier generalizing direct with
  | nil => exact ⟨[], direct, rfl, .nil, shorter⟩
  | cons step others ih =>
    rw [List.cons_append] at shorter
    cases shorter with
    | step _ rest =>
      obtain ⟨front, behind, rfl, first, second⟩ := ih rest
      exact ⟨step :: front, behind, rfl, .step step first, second⟩
    | here rest =>
      obtain ⟨front, behind, rfl, first, second⟩ := ih rest
      exact ⟨front, behind, rfl, .here first, second⟩

/-- No name can be left out. -/
theorem eq_of_names {names : List Text} {direct : List Component}
    (shorter : Shortened (names.map .name) direct) : direct = names.map .name := by
  induction names generalizing direct with
  | nil =>
    cases shorter
    rfl
  | cons name others ih =>
    cases shorter with
    | step _ rest => rw [ih rest, List.map_cons]

end Shortened

/-- Two searches came equally far, and the second one has shortened steps before it. -/
inductive Passage.Shortened : Passage → Passage → Prop where
  | arrived (location : Location) : Shortened (.arrived location) (.arrived location)
  | redirected (location : Location) {steps direct : List Component}
      (shorter : FileTree.Shortened steps direct) :
      Shortened (.redirected location steps) (.redirected location direct)

/-- Shortened steps come as far. -/
theorem Shortened.advance {steps direct : List Component} (shorter : Shortened steps direct)
    {location : Location} {passage : Passage}
    (came : tree.advance user location steps = .ok passage) :
    ∃ other, tree.advance user location direct = .ok other ∧ passage.Shortened other := by
  induction shorter generalizing location with
  | nil =>
    cases came
    exact ⟨_, rfl, .arrived location⟩
  | @step step steps direct rest ih =>
    cases step with
    | name text =>
      rw [advance_name_eq] at came ⊢
      cases searchable : tree.requireSearchable user location with
      | error error => simp [searchable, Except.bind] at came
      | ok free =>
        simp only [searchable, Except.bind] at came ⊢
        split at came
        · cases came
        · rename_i short
          rw [if_neg short]
          split at came
          · cases came
          · cases came
            exact ⟨_, rfl, .redirected _ ((refl _).append rest)⟩
          · exact ih came
    | _ =>
      simp only [FileTree.advance] at came ⊢
      cases searchable : tree.requireSearchable user location with
      | error error => simp [searchable, bind, Except.bind] at came
      | ok free =>
        simp only [searchable, bind, Except.bind] at came ⊢
        exact ih came
  | here rest ih =>
    rw [FileTree.advance] at came
    cases searchable : tree.requireSearchable user location with
    | error error => simp [searchable, bind, Except.bind] at came
    | ok free =>
      simp only [searchable, bind, Except.bind] at came
      exact ih came

/-- **Shortened steps lead where the steps lead.** -/
theorem Shortened.follow {steps direct : List Component} (shorter : Shortened steps direct)
    {bound : Nat} {location found : Location}
    (reached : tree.follow user bound location steps = .ok found) :
    tree.follow user bound location direct = .ok found := by
  induction bound generalizing location steps direct with
  | zero => cases reached
  | succ bound ih =>
    rw [follow_succ] at reached ⊢
    cases came : tree.advance user location steps with
    | error error =>
      rw [came] at reached
      cases reached
    | ok passage =>
      obtain ⟨other, along, alike⟩ := shorter.advance came
      rw [came] at reached
      rw [along]
      cases alike with
      | arrived => exact reached
      | redirected _ further => exact ih further reached

/-! ## The normal spelling -/

theorem shortened_of_around {fields before core behind : List Text}
    (cut : fields = before ++ core ++ behind)
    (front : ∀ field ∈ before, Path.isVoid field = true)
    (ending : ∀ field ∈ behind, Path.isVoid field = true) :
    Shortened (stepsAlong fields) (stepsAlong core) := by
  rw [cut, stepsAlong_append, stepsAlong_append]
  have whole := ((Shortened.of_here (stepsAlong_of_void front)).append (.refl (stepsAlong core))
    ).append (.of_here (stepsAlong_of_void ending))
  rwa [List.nil_append, List.append_nil] at whole

theorem route_spell {absolute : Bool} {fields : List Text} (trimmed : Trimmed absolute fields) :
    route (spell absolute fields) = stepsAlong fields := by
  by_cases nonempty : fields = []
  · subst nonempty
    cases absolute <;> rfl
  · rw [route_eq_stepsAlong, Path.fields_spell trimmed nonempty, stepsAlong_append]
    cases absolute <;> rfl

/-- The normal spelling asks for the steps of the path without some that stay where they are. -/
theorem shortened_normalize (path : Path) : Shortened (route path) (route path.normalize) := by
  have plain : ∀ field ∈ path.fields, '/' ∉ field := fun _ => Path.noSlash_of_mem_fields
  cases absolute : path.isAbsolute with
  | false =>
    obtain ⟨before, behind, cut, front, ending⟩ := Path.trim_around path.fields
    have along := route_spell (Path.trimmed_trim plain)
    rw [Path.normalize_of_relative absolute]
    exact along ▸ shortened_of_around cut front ending
  | true =>
    obtain ⟨rest, cut⟩ := Path.fields_of_isAbsolute absolute
    obtain ⟨behind, parts, ending⟩ := Path.trimEnd_append rest
    rw [cut] at plain
    have trimmed := Path.trimmed_trimEnd (List.forall_mem_cons.mp plain).2
    rw [Path.normalize_of_isAbsolute absolute cut, route_spell trimmed, route_eq_stepsAlong, cut]
    have around : [] :: rest = [[]] ++ Path.trimEnd rest ++ behind :=
      congrArg (List.cons []) parts
    exact shortened_of_around around (by decide) ending

theorem shortened_join_normalize {base : Path} (absolute : base.isAbsolute = true) (path : Path) :
    Shortened (route (base.join path)) (route (base.join path.normalize)) := by
  have start := Path.spelling_ne_nil_of_isAbsolute absolute
  have kind := Path.isAbsolute_normalize path
  cases outright : path.isAbsolute with
  | true =>
    rw [Path.join_of_isAbsolute base outright, Path.join_of_isAbsolute base (kind.trans outright)]
    exact shortened_normalize path
  | false =>
    rw [route_join start outright, route_join start (kind.trans outright)]
    exact (Shortened.refl _).append (shortened_normalize path)

/-! ## Searches that go on -/

theorem advance_append (location : Location) (earlier later : List Component) :
    tree.advance user location (earlier ++ later) =
      (tree.advance user location earlier).bind fun passage =>
        match passage with
        | .arrived middle => tree.advance user middle later
        | .redirected base further => .ok (.redirected base (further ++ later)) := by
  induction earlier generalizing location with
  | nil => rfl
  | cons step others ih =>
    rw [List.cons_append]
    cases step with
    | name text =>
      rw [advance_name_eq, advance_name_eq]
      cases tree.requireSearchable user location with
      | error error => rfl
      | ok free =>
        simp only [Except.bind]
        split
        · rfl
        · cases tree.lookup (location ++ [text]) with
          | none => rfl
          | some entry =>
            cases entry with
            | link target => simp only [List.append_assoc]
            | file mode content => exact ih _
            | directory mode => exact ih _
    | _ =>
      simp only [advance]
      cases tree.requireSearchable user location with
      | error error => rfl
      | ok free => exact ih _

/-- A search that ends with a step that stays where it is comes to a directory. -/
theorem isDirectoryAt_of_follow_here {bound : Nat} {location found : Location}
    {steps : List Component}
    (reached : tree.follow user bound location (steps ++ [.here]) = .ok found) :
    tree.isDirectoryAt found = true := by
  induction bound generalizing location steps with
  | zero => cases reached
  | succ bound ih =>
    rw [follow_succ, advance_append] at reached
    cases came : tree.advance user location steps with
    | error error =>
      rw [came] at reached
      cases reached
    | ok passage =>
      rw [came] at reached
      cases passage with
      | redirected base further => exact ih reached
      | arrived middle =>
        simp only [Except.bind, advance] at reached
        cases searchable : tree.requireSearchable user middle with
        | error error => simp [searchable, bind, Except.bind] at reached
        | ok free =>
          simp only [searchable, bind, Except.bind, Except.ok.injEq] at reached
          rw [← reached]
          exact isDirectoryAt_of_searchable searchable

/-- The steps of a path are the last ones when it is read from another one. -/
theorem exists_route_join {base : Path} (start : base.spelling ≠ []) (path : Path) :
    ∃ front, route (base.join path) = front ++ route path := by
  cases outright : path.isAbsolute with
  | true => exact ⟨[], by rw [Path.join_of_isAbsolute base outright, List.nil_append]⟩
  | false => exact ⟨route base, route_join start outright⟩

/-- **The normal spelling of a path leads where the path leads.** -/
theorem locate_join_normalize {base path : Path} {directory location : Location}
    (absolute : base.isAbsolute = true)
    (located : tree.locate user directory (base.join path) = .ok location) :
    tree.locate user directory (base.join path.normalize) = .ok location := by
  obtain ⟨-, short, closed, reached⟩ := (locate_eq_ok_iff_follow _ _ _).mp located
  have outright : ∀ other, (base.join other).isAbsolute = true := fun other =>
    Path.isAbsolute_join other absolute
  rw [if_pos (outright path)] at reached
  refine (locate_eq_ok_iff_follow _ _ _).mpr
    ⟨Path.spelling_ne_nil_of_isAbsolute (outright _),
      Nat.le_trans (Path.utf8Size_join_normalize_le base path) short, fun slash => ?_, ?_⟩
  · by_cases ends : (base.join path).spelling.getLast? = some '/'
    · exact closed ends
    -- The normal spelling ends in a slash and the path does not, so the path ends in a dot.
    have filled : path.spelling ≠ [] := by
      intro empty
      have same : path = ⟨[]⟩ := Path.eq_of_spelling empty
      subst same
      exact ends slash
    rw [Path.getLast_join base filled] at ends
    obtain ⟨earlier, field, cut, something⟩ := Path.exists_lastField filled ends
    obtain ⟨steps, along⟩ := route_of_lastField cut something
    cases void : Path.isVoid field with
    | false =>
      refine absurd slash (Path.getLast_join_normalize_ne_slash base ?_)
      rw [cut, Path.steps_append]
      simp [Path.steps, void]
    | true =>
      have here : stepAlong field = .here := by
        rw [Path.isVoid, Bool.or_eq_true, List.isEmpty_iff, beq_iff_eq] at void
        exact if_pos (void.resolve_left something)
      obtain ⟨front, whole⟩ :=
        exists_route_join (Path.spelling_ne_nil_of_isAbsolute absolute) path
      rw [whole, along, here, ← List.append_assoc] at reached
      exact isDirectoryAt_of_follow_here reached
  · rw [if_pos (outright _)]
    exact (shortened_join_normalize absolute path).follow reached

end Hygiene.FileTree
