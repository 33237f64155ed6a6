import Hygiene.Proofs.Path.Fields

/-!
# Steps in a tree without links

In a tree without links a path is followed in one go, and where its steps lead is told by a
relation with one rule for each kind of step (`Leads`). A search for the path finds a location
exactly when the steps lead there (`locate_eq_ok_iff`).

Steps from the top only ever lead below directories. So a path that leads to a file ends in
the name of the file, whatever stands in front of it (`fileName_of_locate`).
-/

set_option autoImplicit false

namespace Hygiene

/-- Whether an entry is a link. -/
def Entry.isLink : Entry → Bool
  | .link _ => true
  | _ => false

namespace FileTree

open Hygiene.Path (Component)

/-- No link stands anywhere in the tree. -/
def LinkFree (tree : FileTree) : Prop :=
  ∀ (location : Location) (target : Path), tree.lookup location ≠ some (.link target)

theorem linkFree_of_entries {tree : FileTree}
    (none : ∀ placed ∈ tree.entries, placed.2.isLink = false) : tree.LinkFree := by
  intro location target stands
  obtain ⟨placed, found, same⟩ := Option.map_eq_some_iff.mp stands
  have plain := none placed (List.mem_of_find?_eq_some found)
  rw [same] at plain
  cases plain

/-- A location where a directory stands that may be searched. -/
abbrev Searchable (tree : FileTree) (user : User) (location : Location) : Prop :=
  tree.requireSearchable user location = .ok ()

/-- Steps lead from a location to another one, each of them taken in a directory that may be
searched. -/
inductive Leads (tree : FileTree) (user : User) :
    Location → List Component → Location → Prop where
  | arrived (location : Location) : Leads tree user location [] location
  | root {location found : Location} {later : List Component}
      (searchable : Searchable tree user location) (rest : Leads tree user [] later found) :
      Leads tree user location (.root :: later) found
  | here {location found : Location} {later : List Component}
      (searchable : Searchable tree user location) (rest : Leads tree user location later found) :
      Leads tree user location (.here :: later) found
  | above {location found : Location} {later : List Component}
      (searchable : Searchable tree user location)
      (rest : Leads tree user location.dropLast later found) :
      Leads tree user location (.above :: later) found
  | name {location found : Location} {text : Text} {later : List Component}
      (searchable : Searchable tree user location) (short : Text.utf8Size text ≤ maxNameSize)
      (stands : tree.lookup (location ++ [text]) ≠ none)
      (rest : Leads tree user (location ++ [text]) later found) :
      Leads tree user location (.name text :: later) found

variable {tree : FileTree} {user : User}

namespace Leads

theorem split {first third : Location} {earlier later : List Component}
    (leads : Leads tree user first (earlier ++ later) third) :
    ∃ second, Leads tree user first earlier second ∧ Leads tree user second later third := by
  induction earlier generalizing first with
  | nil => exact ⟨first, .arrived first, leads⟩
  | cons step earlier ih =>
    rw [List.cons_append] at leads
    cases leads with
    | root searchable rest =>
      obtain ⟨second, start, behind⟩ := ih rest
      exact ⟨second, .root searchable start, behind⟩
    | here searchable rest =>
      obtain ⟨second, start, behind⟩ := ih rest
      exact ⟨second, .here searchable start, behind⟩
    | above searchable rest =>
      obtain ⟨second, start, behind⟩ := ih rest
      exact ⟨second, .above searchable start, behind⟩
    | name searchable short stands rest =>
      obtain ⟨second, start, behind⟩ := ih rest
      exact ⟨second, .name searchable short stands start, behind⟩

/-- Steps lead to one location only. -/
theorem unique {start left right : Location} {steps : List Component}
    (first : Leads tree user start steps left) (second : Leads tree user start steps right) :
    left = right := by
  induction first with
  | arrived location => cases second with | arrived => rfl
  | root _ _ ih => cases second with | root _ rest => exact ih rest
  | here _ _ ih => cases second with | here _ rest => exact ih rest
  | above _ _ ih => cases second with | above _ rest => exact ih rest
  | name _ _ _ _ ih => cases second with | name _ _ _ rest => exact ih rest

end Leads

/-! ## The search along steps -/

/-- In a tree without links a step to a name is taken when the name is short enough and
something stands there. -/
theorem advance_name (linkFree : tree.LinkFree) {location : Location}
    (searchable : Searchable tree user location) (text : Text) (later : List Component) :
    tree.advance user location (.name text :: later) =
      if maxNameSize < Text.utf8Size text then .error .nameTooLong
      else if tree.lookup (location ++ [text]) = none then .error .notFound
      else tree.advance user (location ++ [text]) later := by
  simp only [advance, searchable, bind, Except.bind]
  split
  · rfl
  · cases stands : tree.lookup (location ++ [text]) with
    | none => rfl
    | some entry =>
      rw [if_neg (Option.some_ne_none entry)]
      cases entry with
      | file mode content => rfl
      | directory mode => rfl
      | link target => exact absurd stands (linkFree _ target)

/-- In a tree without links a search comes as far as the steps lead. -/
theorem advance_eq_arrived_iff (linkFree : tree.LinkFree) (location found : Location)
    (steps : List Component) :
    tree.advance user location steps = .ok (.arrived found) ↔
      Leads tree user location steps found := by
  induction steps generalizing location with
  | nil =>
    constructor
    · intro arrived
      cases arrived
      exact .arrived _
    · intro leads
      cases leads
      rfl
  | cons step later ih =>
    cases searchable : tree.requireSearchable user location with
    | error error =>
      constructor
      · intro arrived
        cases step <;> simp [advance, searchable, bind, Except.bind] at arrived
      · intro leads
        cases leads <;> simp_all
    | ok free =>
      cases free
      cases step with
      | root =>
        simp only [advance, searchable, bind, Except.bind, ih]
        exact ⟨.root searchable, fun leads => by cases leads; assumption⟩
      | here =>
        simp only [advance, searchable, bind, Except.bind, ih]
        exact ⟨.here searchable, fun leads => by cases leads; assumption⟩
      | above =>
        simp only [advance, searchable, bind, Except.bind, ih]
        exact ⟨.above searchable, fun leads => by cases leads; assumption⟩
      | name text =>
        rw [advance_name linkFree searchable]
        constructor
        · intro arrived
          split at arrived
          · cases arrived
          · split at arrived
            · cases arrived
            · rename_i short stands
              exact .name searchable (Nat.not_lt.mp short) stands ((ih _).mp arrived)
        · intro leads
          cases leads with
          | name _ short stands rest =>
            rw [if_neg (Nat.not_lt.mpr short), if_neg stands]
            exact (ih _).mpr rest

/-- In a tree without links no search is sent elsewhere. -/
theorem advance_ne_redirected (linkFree : tree.LinkFree) (location base : Location)
    (steps further : List Component) :
    tree.advance user location steps ≠ .ok (.redirected base further) := by
  induction steps generalizing location with
  | nil => exact fun same => by cases same
  | cons step later ih =>
    cases searchable : tree.requireSearchable user location with
    | error error => cases step <;> simp [advance, searchable, bind, Except.bind]
    | ok free =>
      cases step with
      | root => simpa only [advance, searchable, bind, Except.bind] using ih _
      | here => simpa only [advance, searchable, bind, Except.bind] using ih _
      | above => simpa only [advance, searchable, bind, Except.bind] using ih _
      | name text =>
        rw [advance_name linkFree searchable]
        split
        · exact fun same => by cases same
        · split
          · exact fun same => by cases same
          · exact ih _

theorem follow_eq_ok_iff (linkFree : tree.LinkFree) (bound : Nat) (location found : Location)
    (steps : List Component) :
    tree.follow user (bound + 1) location steps = .ok found ↔
      Leads tree user location steps found := by
  rw [← advance_eq_arrived_iff linkFree, follow]
  cases passage : tree.advance user location steps with
  | error error => simp [bind, Except.bind]
  | ok passage' =>
    cases passage' with
    | arrived reached => simp [bind, Except.bind, pure, Except.pure]
    | redirected base further =>
      exact absurd passage (advance_ne_redirected linkFree location base steps further)

/-- A path names the location at which the search along its steps ends. Only its spelling can
keep it from being followed: it must not be empty or too long, and with a slash at its end it
names a directory only. -/
theorem locate_eq_ok_iff_follow (directory location : Location) (path : Path) :
    tree.locate user directory path = .ok location ↔
      path.spelling ≠ [] ∧ Text.utf8Size path.spelling ≤ maxPathSize ∧
        (path.spelling.getLast? = some '/' → tree.isDirectoryAt location = true) ∧
        tree.follow user (maxLinks + 1) (if path.isAbsolute then [] else directory) (route path) =
          .ok location := by
  by_cases empty : path.spelling = []
  · simp [locate, empty, bind, Except.bind]
  · by_cases long : maxPathSize < Text.utf8Size path.spelling
    · simp [locate, empty, long, bind, Except.bind, Nat.not_le.mpr long]
    · have short := Nat.not_lt.mp long
      cases passage : tree.follow user (maxLinks + 1) (if path.isAbsolute then [] else directory)
          (route path) with
      | error error => simp [locate, empty, long, passage, bind, Except.bind]
      | ok reached =>
        have value : tree.locate user directory path =
            if path.spelling.getLast? = some '/' ∧ tree.isDirectoryAt reached = false then
              .error .notDirectory
            else .ok reached := by
          simp only [locate, List.isEmpty_iff, if_neg empty, if_neg long, passage, bind,
            Except.bind]
          simp [pure, Except.pure]
          rfl
        rw [value]
        constructor
        · intro same
          split at same
          · cases same
          · rename_i fine
            cases same
            exact ⟨empty, short, fun slash => by simpa [slash] using fine, rfl⟩
        · rintro ⟨-, -, directory, same⟩
          cases same
          rw [if_neg]
          rintro ⟨slash, differs⟩
          rw [directory slash] at differs
          cases differs

/-- **In a tree without links a path names the location that its steps lead to.** -/
theorem locate_eq_ok_iff (linkFree : tree.LinkFree) (directory location : Location)
    (path : Path) :
    tree.locate user directory path = .ok location ↔
      path.spelling ≠ [] ∧ Text.utf8Size path.spelling ≤ maxPathSize ∧
        (path.spelling.getLast? = some '/' → tree.isDirectoryAt location = true) ∧
        Leads tree user (if path.isAbsolute then [] else directory) (route path) location := by
  rw [locate_eq_ok_iff_follow, follow_eq_ok_iff linkFree]

/-! ## Below directories -/

/-- A directory stands at every location above. -/
def Rooted (tree : FileTree) (location : Location) : Prop :=
  ∀ above : Location, above <+: location → above ≠ location → tree.isDirectoryAt above = true

theorem rooted_nil (tree : FileTree) : tree.Rooted [] :=
  fun _ beginning differs => absurd (List.prefix_nil.mp beginning) differs

theorem isDirectoryAt_of_searchable {location : Location}
    (searchable : Searchable tree user location) : tree.isDirectoryAt location = true := by
  rw [Searchable, requireSearchable] at searchable
  rw [isDirectoryAt]
  split at searchable
  · rfl
  · cases searchable

theorem Rooted.dropLast {location : Location} (rooted : tree.Rooted location) :
    tree.Rooted location.dropLast := by
  intro above beginning differs
  apply rooted above (beginning.trans (List.dropLast_prefix location))
  rintro rfl
  exact differs (beginning.eq_of_length (Nat.le_antisymm beginning.length_le (by simp)))

theorem Rooted.concat {location : Location} (rooted : tree.Rooted location)
    (directory : tree.isDirectoryAt location = true) (text : Text) :
    tree.Rooted (location ++ [text]) := by
  intro above beginning differs
  rcases List.prefix_concat_iff.mp beginning with same | inside
  · exact absurd same differs
  · by_cases here : above = location
    · rw [here]
      exact directory
    · exact rooted above inside here

/-- Steps from below directories lead below directories. -/
theorem Leads.rooted {start found : Location} {steps : List Component}
    (leads : Leads tree user start steps found) (rooted : tree.Rooted start) :
    tree.Rooted found := by
  induction leads with
  | arrived location => exact rooted
  | root _ _ ih => exact ih (rooted_nil tree)
  | here _ _ ih => exact ih rooted
  | above _ _ ih => exact ih rooted.dropLast
  | name searchable _ _ _ ih =>
    exact ih (rooted.concat (isDirectoryAt_of_searchable searchable) _)

/-- The directory above one that is below directories is one. -/
theorem isDirectoryAt_dropLast {location : Location} (rooted : tree.Rooted location)
    (directory : tree.isDirectoryAt location = true) :
    tree.isDirectoryAt location.dropLast = true := by
  by_cases top : location.dropLast = location
  · rw [top]
    exact directory
  · exact rooted _ (List.dropLast_prefix location) top

/-- What steps lead to is a directory, unless the last of them is a name. -/
theorem Leads.lastStep {start found : Location} {earlier : List Component} {step : Component}
    (leads : Leads tree user start (earlier ++ [step]) found) (rooted : tree.Rooted start)
    (inside : step ≠ .root) (file : tree.isDirectoryAt found = false) :
    ∃ (before : Location) (text : Text), step = .name text ∧ found = before ++ [text] := by
  obtain ⟨before, start, last⟩ := leads.split
  have below := start.rooted rooted
  cases last with
  | root => exact absurd rfl inside
  | here searchable rest =>
    cases rest
    rw [isDirectoryAt_of_searchable searchable] at file
    cases file
  | above searchable rest =>
    cases rest
    rw [isDirectoryAt_dropLast below (isDirectoryAt_of_searchable searchable)] at file
    cases file
  | name _ _ _ rest =>
    cases rest
    exact ⟨before, _, rfl, rfl⟩

/-! ## The name of a file -/

theorem stepAlong_eq_name {field text : Text} (step : stepAlong field = .name text) :
    field ≠ ['.'] ∧ field ≠ ['.', '.'] ∧ text = field := by
  rw [stepAlong, Path.stepOf] at step
  split at step
  · cases step
  · split at step
    · cases step
    · cases step
      exact ⟨‹_›, ‹_›, rfl⟩

theorem stepAlong_ne_root (field : Text) : stepAlong field ≠ .root := by
  rw [stepAlong, Path.stepOf]
  split
  · exact Component.noConfusion
  · split <;> exact Component.noConfusion

/-- A path whose last steps lead to a file ends in the name of the file. -/
theorem Leads.fileName {start found : Location} {earlier : List Component} {path : Path}
    (leads : Leads tree user start (earlier ++ route path) found) (rooted : tree.Rooted start)
    (nonempty : path.spelling ≠ []) (noSlash : path.spelling.getLast? ≠ some '/')
    (file : tree.isDirectoryAt found = false) :
    ∃ (before : Location) (name : Text), found = before ++ [name] ∧
      path.fileName? = some name := by
  obtain ⟨fields, field, cut, something⟩ := Path.exists_lastField nonempty noSlash
  obtain ⟨steps, route⟩ := route_of_lastField cut something
  rw [route, ← List.append_assoc] at leads
  obtain ⟨before, text, step, same⟩ := leads.lastStep rooted (stepAlong_ne_root field) file
  obtain ⟨notHere, notAbove, rfl⟩ := stepAlong_eq_name step
  exact ⟨before, text, same, Path.fileName_of_lastField cut something notHere notAbove⟩

/-- **The name of a file is the end of every path to it.** This holds of a path that is read
from a directory, in a tree without links. -/
theorem fileName_of_locate (linkFree : tree.LinkFree) {base path : Path} {directory : Location}
    {location : Location} (absolute : base.isAbsolute = true)
    (leads : tree.locate user directory (base.join path) = .ok location)
    (file : tree.isDirectoryAt location = false) :
    ∃ (before : Location) (name : Text), location = before ++ [name] ∧
      path.fileName? = some name := by
  obtain ⟨nonempty, -, slash, route⟩ := (locate_eq_ok_iff linkFree _ _ _).mp leads
  have noSlash : (base.join path).spelling.getLast? ≠ some '/' := by
    intro last
    rw [slash last] at file
    cases file
  rw [Path.isAbsolute_join path absolute, if_pos rfl] at route
  cases relative : path.isAbsolute with
  | true =>
    rw [Path.join_of_isAbsolute base relative] at route nonempty noSlash
    rw [← List.nil_append (FileTree.route path)] at route
    exact route.fileName (rooted_nil tree) nonempty noSlash file
  | false =>
    have start := Path.spelling_ne_nil_of_isAbsolute absolute
    rw [route_join start relative] at route
    obtain ⟨before, joined, -⟩ := Path.exists_join_spelling start relative
    rw [joined, List.getLast?_append] at noSlash
    refine route.fileName (rooted_nil tree) ?_ ?_ file
    · intro none
      rw [none] at noSlash
      exact noSlash rfl
    · intro last
      rw [List.getLast?_cons, last] at noSlash
      exact noSlash rfl

end FileTree

end Hygiene
