import Hygiene.Proofs.Tree.Listing
import Hygiene.Proofs.Tree.Shortened

/-!
# Straight down from a location

No link stands on the way to a location where a search has ended, whatever links the search went
through (`direct_of_locate`). From there names lead straight down as long as no link stands among
them. So a path that ends in such names leads to one location or nowhere (`locate_names_iff`), and
the path of a location without links on the way leads there or nowhere (`eq_of_locate_path`).
-/

set_option autoImplicit false

namespace Hygiene.FileTree

open Hygiene.Path (Component spell Trimmed)

variable {tree : FileTree} {user : User}

/-! ## Locations without links on the way -/

/-- Something that is no link stands at a location and at each location above it, but perhaps for
the top. -/
def Direct (tree : FileTree) (location : Location) : Prop :=
  ∀ above : Location, above ≠ [] → above <+: location →
    ∃ entry, tree.lookup above = some entry ∧ entry.isLink = false

namespace Direct

theorem nil : tree.Direct [] :=
  fun _ filled beginning => absurd (List.prefix_nil.mp beginning) filled

theorem of_isPrefix {above location : Location} (direct : tree.Direct location)
    (beginning : above <+: location) : tree.Direct above :=
  fun higher filled first => direct higher filled (first.trans beginning)

theorem concat {location : Location} {name : Text} {entry : Entry}
    (direct : tree.Direct location) (stands : tree.lookup (location ++ [name]) = some entry)
    (solid : entry.isLink = false) : tree.Direct (location ++ [name]) := by
  intro above filled beginning
  rcases List.prefix_concat_iff.mp beginning with rfl | inside
  · exact ⟨entry, stands, solid⟩
  · exact direct above filled inside

/-- In a proper tree a location without links on the way is made of names. -/
theorem named (proper : tree.Proper) {location : Location} (direct : tree.Direct location) :
    ∀ name ∈ location, IsName name := by
  intro name member
  obtain ⟨entry, stands, -⟩ := direct location (List.ne_nil_of_mem member) List.prefix_rfl
  obtain ⟨placed, inside, -⟩ := Option.map_eq_some_iff.mp stands
  have here : placed.1 = location := by simpa using List.find?_some inside
  exact proper.named placed (List.mem_of_find?_eq_some inside) name (here ▸ member)

end Direct

/-- No link stands on the way to where a search has come. -/
def Passage.Direct (tree : FileTree) : Passage → Prop
  | .arrived location => tree.Direct location
  | .redirected location _ => tree.Direct location

theorem direct_of_advance {location : Location} {steps : List Component} {passage : Passage}
    (direct : tree.Direct location) (came : tree.advance user location steps = .ok passage) :
    passage.Direct tree := by
  induction steps generalizing location with
  | nil =>
    cases came
    exact direct
  | cons step later ih =>
    cases searchable : tree.requireSearchable user location with
    | error error => cases step <;> simp [advance, searchable, bind, Except.bind] at came
    | ok free =>
      cases step with
      | root =>
        simp only [advance, searchable, bind, Except.bind] at came
        exact ih .nil came
      | here =>
        simp only [advance, searchable, bind, Except.bind] at came
        exact ih direct came
      | above =>
        simp only [advance, searchable, bind, Except.bind] at came
        exact ih (direct.of_isPrefix (List.dropLast_prefix location)) came
      | name text =>
        simp only [advance_name_eq, searchable, Except.bind] at came
        split at came
        · cases came
        · cases stands : tree.lookup (location ++ [text]) with
          | none => simp [stands] at came
          | some entry =>
            rw [stands] at came
            cases entry with
            | link target =>
              cases came
              show tree.Direct (if target.isAbsolute then [] else location)
              split
              · exact .nil
              · exact direct
            | file mode content => exact ih (direct.concat stands rfl) came
            | directory mode => exact ih (direct.concat stands rfl) came

theorem direct_of_follow {bound : Nat} {location found : Location} {steps : List Component}
    (direct : tree.Direct location)
    (reached : tree.follow user bound location steps = .ok found) : tree.Direct found := by
  induction bound generalizing location steps with
  | zero => cases reached
  | succ bound ih =>
    rw [follow_succ] at reached
    cases came : tree.advance user location steps with
    | error error =>
      rw [came] at reached
      cases reached
    | ok passage =>
      have there := direct_of_advance direct came
      rw [came] at reached
      cases passage with
      | arrived middle =>
        cases reached
        exact there
      | redirected base further => exact ih there reached

/-- **No link stands on the way to the location that an absolute path names.** -/
theorem direct_of_locate {path : Path} {directory location : Location}
    (absolute : path.isAbsolute = true)
    (located : tree.locate user directory path = .ok location) : tree.Direct location := by
  obtain ⟨-, -, -, reached⟩ := (locate_eq_ok_iff_follow _ _ _).mp located
  rw [if_pos absolute] at reached
  exact direct_of_follow .nil reached

/-! ## Names behind a location -/

theorem Leads.names_eq {start found : Location} {names : List Text}
    (leads : Leads tree user start (names.map .name) found) : found = start ++ names := by
  have plain : ∀ step ∈ names.map Component.name, step ≠ .root ∧ step ≠ .above := by
    intro step member
    obtain ⟨name, -, rfl⟩ := List.mem_map.mp member
    exact ⟨nofun, nofun⟩
  rw [leads.location_eq plain, List.filterMap_map]
  exact congrArg (start ++ ·) List.filterMap_some

theorem advance_name_of_solid {location : Location} {text : Text} {entry : Entry}
    (stands : tree.lookup (location ++ [text]) = some entry) (solid : entry.isLink = false)
    (later : List Component) :
    tree.advance user location (.name text :: later) =
      (tree.requireSearchable user location).bind fun _ =>
        if maxNameSize < Text.utf8Size text then .error .nameTooLong
        else tree.advance user (location ++ [text]) later := by
  rw [advance_name_eq, stands]
  cases entry with
  | link target => cases solid
  | file mode content => rfl
  | directory mode => rfl

/-- Along names without a link among them a search comes as far as they lead. -/
theorem advance_names_iff {start : Location} {names : List Text} {passage : Passage}
    (direct : tree.Direct (start ++ names)) :
    tree.advance user start (names.map .name) = .ok passage ↔
      ∃ found, passage = .arrived found ∧ Leads tree user start (names.map .name) found := by
  induction names generalizing start with
  | nil =>
    constructor
    · intro came
      cases came
      exact ⟨start, rfl, .arrived start⟩
    · rintro ⟨found, rfl, leads⟩
      cases leads
      rfl
  | cons name others ih =>
    rw [← List.singleton_append, ← List.append_assoc] at direct
    obtain ⟨entry, stands, solid⟩ := direct (start ++ [name]) (by simp) (List.prefix_append _ _)
    rw [List.map_cons, advance_name_of_solid stands solid]
    cases searchable : tree.requireSearchable user start with
    | error error =>
      constructor
      · intro came
        cases came
      · rintro ⟨found, -, leads⟩
        cases leads
        simp_all
    | ok free =>
      simp only [Except.bind]
      constructor
      · intro came
        split at came
        · cases came
        · rename_i short
          obtain ⟨found, rfl, rest⟩ := (ih direct).mp came
          exact ⟨found, rfl, .name searchable (Nat.not_lt.mp short) (by simp [stands]) rest⟩
      · rintro ⟨found, rfl, leads⟩
        cases leads with
        | name _ short _ rest =>
          rw [if_neg (Nat.not_lt.mpr short)]
          exact (ih direct).mpr ⟨found, rfl, rest⟩

/-- A search that has ended goes on along names. -/
theorem follow_names_iff {bound : Nat} {location start found : Location} {steps : List Component}
    {names : List Text} (reached : tree.follow user bound location steps = .ok start)
    (direct : tree.Direct (start ++ names)) :
    tree.follow user bound location (steps ++ names.map .name) = .ok found ↔
      Leads tree user start (names.map .name) found := by
  induction bound generalizing location steps with
  | zero => cases reached
  | succ bound ih =>
    rw [follow_succ] at reached
    rw [follow_succ, advance_append]
    cases came : tree.advance user location steps with
    | error error =>
      rw [came] at reached
      cases reached
    | ok passage =>
      rw [came] at reached
      cases passage with
      | redirected base further => exact ih reached
      | arrived middle =>
        cases reached
        simp only [Except.bind]
        have straight : ∀ passage, tree.advance user start (names.map .name) = .ok passage ↔
            ∃ found, passage = .arrived found ∧ Leads tree user start (names.map .name) found :=
          fun _ => advance_names_iff direct
        cases onward : tree.advance user start (names.map .name) with
        | error error =>
          refine ⟨nofun, fun leads => ?_⟩
          rw [(straight _).mpr ⟨found, rfl, leads⟩] at onward
          cases onward
        | ok passage =>
          obtain ⟨last, rfl, leads⟩ := (straight _).mp onward
          refine ⟨fun same => ?_, fun again => ?_⟩
          · cases same
            exact leads
          · rw [leads.unique again]

/-- **A path whose last steps are names leads straight down along them from where the others
lead.** -/
theorem locate_names_iff {path : Path} {directory start found : Location}
    {steps : List Component} {names : List Text} (absolute : path.isAbsolute = true)
    (noSlash : path.spelling.getLast? ≠ some '/') (along : route path = steps ++ names.map .name)
    (reached : tree.follow user (maxLinks + 1) [] steps = .ok start)
    (direct : tree.Direct (start ++ names)) :
    tree.locate user directory path = .ok found ↔
      Text.utf8Size path.spelling ≤ maxPathSize ∧
        Leads tree user start (names.map .name) found := by
  rw [locate_eq_ok_iff_follow, if_pos absolute, along, follow_names_iff reached direct]
  constructor
  · rintro ⟨-, short, -, leads⟩
    exact ⟨short, leads⟩
  · rintro ⟨short, leads⟩
    exact ⟨Path.spelling_ne_nil_of_isAbsolute absolute, short, fun slash => absurd slash noSlash,
      leads⟩

theorem stepsAlong_of_names {names : List Text} (named : ∀ name ∈ names, IsName name) :
    stepsAlong names = names.map .name := by
  induction names with
  | nil => rfl
  | cons name others ih =>
    obtain ⟨first, later⟩ := List.forall_mem_cons.mp named
    have alone : stepsAlong [name] = [.name name] := by
      have whole := first.route_eq
      rwa [route_eq_stepsAlong, first.fields_eq] at whole
    rw [← List.singleton_append, stepsAlong_append, alone, ih later]
    rfl

theorem route_path {location : Location} (named : ∀ name ∈ location, IsName name) :
    route location.path = location.map .name := by
  have trimmed : Trimmed true location := by
    refine ⟨fun name member => (named name member).noSlash, fun name last => ?_, nofun⟩
    have there := named name (List.mem_of_getLast? last)
    simp [Path.isVoid, there.nonempty, there.notHere]
  rw [← stepsAlong_of_names named]
  exact route_spell trimmed

/-- The path of a location without links on the way leads to this location or nowhere. -/
theorem eq_of_locate_path {directory location found : Location} (direct : tree.Direct location)
    (named : ∀ name ∈ location, IsName name)
    (located : tree.locate user directory location.path = .ok found) : found = location := by
  obtain ⟨-, -, -, reached⟩ := (locate_eq_ok_iff_follow _ _ _).mp located
  have top : tree.follow user (maxLinks + 1) [] [] = .ok [] := rfl
  have outright : location.path.isAbsolute = true := rfl
  rw [if_pos outright, route_path named, ← List.nil_append (location.map Component.name),
    follow_names_iff top direct] at reached
  exact reached.names_eq

end Hygiene.FileTree
