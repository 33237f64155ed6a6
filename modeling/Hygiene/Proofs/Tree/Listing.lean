import Mathlib.Data.List.Nodup
import Hygiene.Proofs.Tree.Destination
import Hygiene.Proofs.Tree.Outline

/-!
# The listing of a tree

The listing of a tree is its entries in their order, each without what it holds. A file that
gets new content in its place keeps the listing (`listing_put`). How deep a tree is and which
entries a directory has is read off the listing (`depth_congr`, `children_congr`).

In a proper tree every name is one that a path can spell. There an entry that a directory lists
stands where its name says (`Proper.lookup_of_mem_children`).
-/

set_option autoImplicit false

namespace Hygiene

namespace FileTree

/-! ## Listings -/

/-- The entries of a tree in their order, each without what it holds. -/
def listing (tree : FileTree) : List (Location × Entry) :=
  tree.entries.map (Prod.map id Entry.outline)

theorem map_outline_putAmong {location : Location} {mode : Nat} {old : ByteArray}
    (content : ByteArray) {entries : List (Location × Entry)}
    (stands : (entries.find? fun placed => placed.1 = location).map Prod.snd =
      some (.file mode old)) :
    (putAmong location (.file mode content) entries).map (Prod.map id Entry.outline) =
      entries.map (Prod.map id Entry.outline) := by
  induction entries with
  | nil => cases stands
  | cons placed others ih =>
    obtain ⟨place, entry⟩ := placed
    rw [putAmong]
    by_cases here : place = location
    · rw [List.find?_cons_of_pos (by simpa using here)] at stands
      cases stands
      rw [if_pos here, ← here]
      rfl
    · rw [List.find?_cons_of_neg (by simpa using here)] at stands
      rw [if_neg here, List.map_cons, List.map_cons, ih stands]

/-- New content in the place of old content leaves the listing as it is. -/
theorem listing_put {tree : FileTree} {location : Location} {mode : Nat} {old : ByteArray}
    (stands : tree.lookup location = some (.file mode old)) (content : ByteArray) :
    (tree.put location (.file mode content)).listing = tree.listing :=
  map_outline_putAmong content stands

section Congr

variable {left right : FileTree} (same : right.listing = left.listing)
include same

/-- Trees with the same listing are equally deep. -/
theorem depth_congr : right.depth = left.depth := by
  have read (tree : FileTree) :
      tree.depth = (tree.listing.map fun placed => placed.1.length).foldl max 0 := by
    rw [depth, listing, List.map_map]
    rfl
  rw [read, read, same]

/-- A directory has the same entries in trees with the same listing, but for what its files
hold. -/
theorem children_congr (directory : Location) :
    (right.children directory).map (Prod.map id Entry.outline) =
      (left.children directory).map (Prod.map id Entry.outline) := by
  have read (tree : FileTree) : (tree.children directory).map (Prod.map id Entry.outline) =
      (tree.listing.filterMap fun placed =>
        (nameIn? directory placed.1).map fun name => (name, placed.2)).mergeSort
          fun left right => (compare left.1 right.1).isLE := by
    have sorted (placed : List (Text × Entry)) :
        (placed.mergeSort fun left right => (compare left.1 right.1).isLE).map
            (Prod.map id Entry.outline) =
          (placed.map (Prod.map id Entry.outline)).mergeSort
            fun left right => (compare left.1 right.1).isLE :=
      List.map_mergeSort fun _ _ _ _ => rfl
    rw [children, sorted, listing, List.map_filterMap, List.filterMap_map]
    congr 1
    apply List.filterMap_congr
    rintro ⟨location, entry⟩ -
    dsimp only [Function.comp, Prod.map, id]
    rw [Option.map_map]
    rfl
  rw [read, read, same]

end Congr

/-! ## Entries -/

/-- An entry stands at its location, since no location stands twice. -/
theorem lookup_of_mem {tree : FileTree} {location : Location} {entry : Entry}
    (member : (location, entry) ∈ tree.entries) : tree.lookup location = some entry := by
  rw [lookup, Option.map_eq_some_iff]
  cases found : tree.entries.find? fun placed => placed.1 = location with
  | none =>
    have absent := List.find?_eq_none.mp found _ member
    simp at absent
  | some other =>
    have here : other.1 = location := by simpa using List.find?_some found
    have same := List.inj_on_of_nodup_map tree.once (List.mem_of_find?_eq_some found) member here
    exact ⟨other, rfl, by rw [same]⟩

theorem nameIn_eq_some {directory location : Location} {name : Text}
    (found : nameIn? directory location = some name) : location = directory ++ [name] := by
  rw [nameIn?] at found
  split at found
  · rename_i inside
    obtain ⟨rest, rfl⟩ := List.isPrefixOf_iff_prefix.mp inside
    rw [List.drop_left] at found
    cases rest with
    | nil => cases found
    | cons first others =>
      cases others with
      | nil =>
        cases found
        rfl
      | cons other later => cases found
  · cases found

theorem mem_children {tree : FileTree} {directory : Location} {name : Text} {entry : Entry}
    (member : (name, entry) ∈ tree.children directory) :
    (directory ++ [name], entry) ∈ tree.entries := by
  rw [children, List.mem_mergeSort, List.mem_filterMap] at member
  obtain ⟨⟨location, other⟩, inside, found⟩ := member
  obtain ⟨text, named, same⟩ := Option.map_eq_some_iff.mp found
  cases same
  rw [← nameIn_eq_some named]
  exact inside

/-! ## Proper trees -/

/-- The locations of a tree are made of names. -/
structure Proper (tree : FileTree) : Prop where
  named : ∀ placed ∈ tree.entries, ∀ name ∈ placed.1, IsName name

instance (tree : FileTree) : Decidable tree.Proper :=
  decidable_of_iff (∀ placed ∈ tree.entries, ∀ name ∈ placed.1, IsName name)
    ⟨Proper.mk, Proper.named⟩

namespace Proper

variable {tree : FileTree} (proper : tree.Proper)
include proper

theorem names_of_isDirectoryAt {location : Location}
    (stands : tree.isDirectoryAt location = true) : ∀ name ∈ location, IsName name := by
  rw [isDirectoryAt] at stands
  split at stands
  · rename_i mode found
    obtain ⟨placed, inside, -⟩ := Option.map_eq_some_iff.mp found
    have here : placed.1 = location := by simpa using List.find?_some inside
    rw [← here]
    exact proper.named placed (List.mem_of_find?_eq_some inside)
  · cases stands

/-- An entry that a directory lists stands where its name says. -/
theorem lookup_of_mem_children {directory : Location} {name : Text} {entry : Entry}
    (member : (name, entry) ∈ tree.children directory) :
    tree.lookup (directory ++ [name]) = some entry ∧ IsName name :=
  ⟨lookup_of_mem (mem_children member),
    proper.named _ (mem_children member) name (List.mem_concat_self)⟩

end Proper

end FileTree

end Hygiene
