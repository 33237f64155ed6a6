import Hygiene.Proofs.Path.Below
import Hygiene.Proofs.Tree.Leads

/-!
# Where a spelling leads

In a tree without links, the place to which an absolute path leads can be told from its
spelling (`destination_of_locate`). The tree only decides whether the path leads anywhere.
Names behind a path are names behind its destination, and the path of a location that is made
of names has this location as its destination.

A path whose last step is a name (`Path.EndsIn`) leads to something of that name.
-/

set_option autoImplicit false

namespace Hygiene

namespace FileTree

open Hygiene.Path (Component)

/-! ## Destinations -/

/-- The location that a step leads to. -/
def move (location : Location) : Component → Location
  | .root => []
  | .here => location
  | .above => location.dropLast
  | .name text => location ++ [text]

/-- The location to which an absolute path leads, if it leads anywhere. -/
def destination (path : Path) : Location :=
  (Path.steps path.fields).foldl move []

variable {tree : FileTree} {user : User}

theorem Leads.found_eq {start found : Location} {steps : List Component}
    (leads : Leads tree user start steps found) : found = steps.foldl move start := by
  induction leads with
  | arrived location => rfl
  | root _ _ ih => exact ih
  | here _ _ ih => exact ih
  | above _ _ ih => exact ih
  | name _ _ _ _ ih => exact ih

theorem foldl_move_filter (steps : List Component) (start : Location) :
    (steps.filter fun step => step != .here).foldl move start = steps.foldl move start := by
  induction steps generalizing start with
  | nil => rfl
  | cons step others ih =>
    by_cases stays : step = .here
    · rw [stays, List.filter_cons_of_neg (by decide), ih]
      rfl
    · rw [List.filter_cons_of_pos (by simpa using stays), List.foldl_cons, ih, List.foldl_cons]

/-- **An absolute path leads to its destination or nowhere.** -/
theorem destination_of_locate (linkFree : tree.LinkFree) {directory location : Location}
    {path : Path} (absolute : path.isAbsolute = true)
    (located : tree.locate user directory path = .ok location) : location = destination path := by
  obtain ⟨-, -, -, leads⟩ := (locate_eq_ok_iff linkFree _ _ _).mp located
  rw [if_pos absolute] at leads
  rw [destination, Path.steps_eq_filter_route, foldl_move_filter]
  exact leads.found_eq

/-! ## Names -/

/-- A text that can be the name of an entry. -/
structure IsName (text : Text) : Prop where
  nonempty : text ≠ []
  notHere : text ≠ ['.']
  notAbove : text ≠ ['.', '.']
  noSlash : '/' ∉ text

instance (text : Text) : Decidable (IsName text) :=
  decidable_of_iff (text ≠ [] ∧ text ≠ ['.'] ∧ text ≠ ['.', '.'] ∧ '/' ∉ text)
    ⟨fun ⟨nonempty, notHere, notAbove, noSlash⟩ => ⟨nonempty, notHere, notAbove, noSlash⟩,
      fun named => ⟨named.nonempty, named.notHere, named.notAbove, named.noSlash⟩⟩

theorem IsName.steps_eq {text : Text} (named : IsName text) : Path.steps [text] = [.name text] := by
  simp [Path.steps, Path.isVoid, Path.stepOf, named.nonempty, named.notHere, named.notAbove]

theorem IsName.fields_eq {text : Text} (named : IsName text) : (Path.mk text).fields = [text] := by
  apply Text.fields_of_plain
  intro c member
  rw [decide_eq_false_iff_not]
  rintro rfl
  exact named.noSlash member

theorem IsName.isAbsolute_eq {text : Text} (named : IsName text) :
    (Path.mk text).isAbsolute = false := by
  cases text with
  | nil => exact absurd rfl named.nonempty
  | cons c rest =>
    have plain : c ≠ '/' := by
      rintro rfl
      exact named.noSlash List.mem_cons_self
    simpa [Path.isAbsolute] using plain

/-- A name behind an absolute path is a name behind its destination. -/
theorem destination_join {base : Path} {name : Text} (absolute : base.isAbsolute = true)
    (named : IsName name) : destination (base.join ⟨name⟩) = destination base ++ [name] := by
  rw [destination, Path.steps_join (Path.spelling_ne_nil_of_isAbsolute absolute)
    named.isAbsolute_eq, named.fields_eq, named.steps_eq, List.foldl_append]
  rfl

theorem destination_foldl_join {base : Path} {names : List Text}
    (absolute : base.isAbsolute = true) (named : ∀ name ∈ names, IsName name) :
    destination (names.foldl (fun path name => path.join ⟨name⟩) base) =
      destination base ++ names := by
  induction names generalizing base with
  | nil => exact (List.append_nil _).symm
  | cons name others ih =>
    rw [List.foldl_cons, ih (Path.isAbsolute_join _ absolute) (List.forall_mem_cons.mp named).2,
      destination_join absolute (named name List.mem_cons_self), List.append_assoc,
      List.singleton_append]

theorem isAbsolute_foldl_join {base : Path} (names : List Text)
    (absolute : base.isAbsolute = true) :
    (names.foldl (fun path name => path.join ⟨name⟩) base).isAbsolute = true := by
  induction names generalizing base with
  | nil => exact absolute
  | cons name others ih => exact ih (Path.isAbsolute_join _ absolute)

/-- The path of a location leads to this location or nowhere. -/
theorem destination_path {location : Location} (named : ∀ name ∈ location, IsName name) :
    destination location.path = location := by
  have fields : location.path.fields = [] :: (Path.ofFields location).fields :=
    Text.fields_cons_of_pos _ _ (by simp)
  have behind : Path.steps location.path.fields = Path.steps (Path.ofFields location).fields := by
    rw [fields]
    rfl
  rw [destination, behind]
  cases location with
  | nil => rfl
  | cons first others =>
    rw [Path.fields_ofFields (List.cons_ne_nil first others) fun name member =>
      (named name member).noSlash]
    generalize first :: others = names at named
    have along : ∀ start : Location, (Path.steps names).foldl move start = start ++ names := by
      induction names with
      | nil => exact fun start => (List.append_nil start).symm
      | cons name later ih =>
        intro start
        rw [← List.singleton_append, Path.steps_append, (named name List.mem_cons_self).steps_eq,
          List.singleton_append, List.foldl_cons, ih (List.forall_mem_cons.mp named).2, move,
          List.append_assoc]
    exact along []

end FileTree

/-! ## Paths with a last name -/

open FileTree (route)

/-- A path whose last step is the one to a name. -/
def Path.EndsIn (path : Path) (name : Text) : Prop :=
  ∃ earlier, route path = earlier ++ [.name name]

namespace Path.EndsIn

variable {path : Path} {name : Text} (ends : path.EndsIn name)
include ends

theorem join (base : Path) (relative : path.isAbsolute = false) :
    (base.join path).EndsIn name := by
  obtain ⟨earlier, steps⟩ := ends
  by_cases start : base.spelling = []
  · have alone : base.join path = path := by
      rw [Path.join, if_neg (by simp [relative]), start]
      rfl
    rw [alone]
    exact ⟨earlier, steps⟩
  · exact ⟨route base ++ earlier, by rw [FileTree.route_join start relative, steps,
      List.append_assoc]⟩

theorem spelling_ne_nil : path.spelling ≠ [] := by
  intro none
  obtain ⟨earlier, steps⟩ := ends
  rw [route, Path.fields, none, Text.fields_nil] at steps
  simp at steps

/-- What the path leads to from a directory has the name. -/
theorem location_eq {tree : FileTree} {user : User} (linkFree : tree.LinkFree)
    {directory location : Location} (located : tree.locate user directory path = .ok location) :
    ∃ before : Location, location = before ++ [name] := by
  obtain ⟨earlier, steps⟩ := ends
  obtain ⟨-, -, -, leads⟩ := (FileTree.locate_eq_ok_iff linkFree _ _ _).mp located
  rw [steps] at leads
  obtain ⟨before, -, last⟩ := leads.split
  cases last with
  | name _ _ _ rest =>
    cases rest
    exact ⟨before, rfl⟩

/-- The destination of the path has the name. -/
theorem destination_eq : ∃ before : Location, FileTree.destination path = before ++ [name] := by
  obtain ⟨earlier, steps⟩ := ends
  rw [FileTree.destination, Path.steps_eq_filter_route, FileTree.foldl_move_filter, steps,
    List.foldl_append]
  exact ⟨_, rfl⟩

end Path.EndsIn

theorem FileTree.IsName.route_eq {name : Text} (named : FileTree.IsName name) :
    route ⟨name⟩ = [.name name] := by
  rw [route, named.fields_eq]
  simp [FileTree.stepAlong, Path.stepOf, named.nonempty, named.notHere, named.notAbove]

/-- A name by itself is a path that ends in it. -/
theorem FileTree.IsName.endsIn {name : Text} (named : FileTree.IsName name) :
    (Path.mk name).EndsIn name :=
  ⟨[], named.route_eq⟩

end Hygiene
