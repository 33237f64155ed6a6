import Hygiene.Path

/-!
# File trees

A file tree says what stands at which location: a file with its bytes, a directory, or
a link that leads elsewhere. A location is the list of names from the top down. Files and
directories have permission bits.

What can be known of a tree is what stands at each location, so the operations are
described by what they change there.
-/

set_option autoImplicit false

namespace Hygiene

/-- A place in a file tree: the names from the top down. -/
abbrev Location := List Text

/-- The absolute path of a location. -/
def Location.path (location : Location) : Path :=
  ⟨'/' :: Text.join ['/'] location⟩

/-- Contents of files are compared byte by byte. -/
instance (priority := high) decidableEqBytes : DecidableEq ByteArray :=
  ByteArray.instDecidableEq

/-- What can stand at a location. -/
inductive Entry where
  | file (mode : Nat) (content : ByteArray)
  | directory (mode : Nat)
  | link (target : Path)
  deriving DecidableEq

/-- The permission bits of a directory that is made in passing. -/
def Entry.directoryMode : Nat := 0o755

/-- The permission bits of a file that is given none. -/
def Entry.fileMode : Nat := 0o644

/-- Entries with their locations, no location twice. -/
@[ext]
structure FileTree where
  entries : List (Location × Entry)
  once : (entries.map Prod.fst).Nodup
  deriving DecidableEq

namespace FileTree

/-- The tree of the top directory alone. -/
def bare : FileTree := ⟨[([], .directory Entry.directoryMode)], by decide⟩

/-- What stands at a location. -/
def lookup (tree : FileTree) (location : Location) : Option Entry :=
  (tree.entries.find? fun placed => placed.1 = location).map Prod.snd

/-- An entry put among others, in place of the one at its location. -/
def putAmong (location : Location) (entry : Entry) :
    List (Location × Entry) → List (Location × Entry)
  | [] => [(location, entry)]
  | placed :: others =>
    if placed.1 = location then (location, entry) :: others
    else placed :: putAmong location entry others

theorem mem_fst_putAmong {location other : Location} {entry : Entry}
    {entries : List (Location × Entry)} :
    other ∈ (putAmong location entry entries).map Prod.fst ↔
      other = location ∨ other ∈ entries.map Prod.fst := by
  induction entries with
  | nil => simp [putAmong]
  | cons placed others ih =>
    by_cases here : placed.1 = location
    · simp [putAmong, here]
    · rw [putAmong, if_neg here, List.map_cons, List.mem_cons, ih, List.map_cons, List.mem_cons,
        or_left_comm]

theorem nodup_putAmong {location : Location} {entry : Entry} {entries : List (Location × Entry)}
    (once : (entries.map Prod.fst).Nodup) :
    ((putAmong location entry entries).map Prod.fst).Nodup := by
  induction entries with
  | nil => simp [putAmong]
  | cons placed others ih =>
    obtain ⟨apart, once⟩ := List.nodup_cons.mp once
    by_cases here : placed.1 = location
    · rw [putAmong, if_pos here, List.map_cons, ← here]
      exact List.nodup_cons.mpr ⟨apart, once⟩
    · rw [putAmong, if_neg here, List.map_cons]
      refine List.nodup_cons.mpr ⟨fun found => ?_, ih once⟩
      exact (mem_fst_putAmong.mp found).elim here apart

/-- The tree with an entry at a location, in place of what stood there. -/
def put (tree : FileTree) (location : Location) (entry : Entry) : FileTree :=
  ⟨putAmong location entry tree.entries, nodup_putAmong tree.once⟩

/-- The entries of a tree at the locations that are kept. -/
def restrict (tree : FileTree) (kept : Location → Bool) : FileTree where
  entries := tree.entries.filter fun placed => kept placed.1
  once := tree.once.sublist (List.filter_sublist.map Prod.fst)

/-- The tree without what stands at a location and below it. It is for setting up a tree: the
programs take away single entries only. -/
def erase (tree : FileTree) (location : Location) : FileTree :=
  tree.restrict fun other => !location.isPrefixOf other

/-- The tree without the one entry at a location. -/
def unlink (tree : FileTree) (location : Location) : FileTree :=
  tree.restrict fun other => other ≠ location

/-- The name of an entry in a directory, when the location is one of an entry in it. -/
def nameIn? (directory : Location) (location : Location) : Option Text :=
  if directory.isPrefixOf location then
    match location.drop directory.length with
    | [name] => some name
    | _ => none
  else none

/-- The entries of a directory in the order of their names. -/
def children (tree : FileTree) (directory : Location) : List (Text × Entry) :=
  (tree.entries.filterMap fun (location, entry) =>
      (nameIn? directory location).map fun name => (name, entry)).mergeSort
    fun left right => (compare left.1 right.1).isLE

/-- The tree with directories at a location and above it, as far as nothing stands there. -/
def makeDirectories (tree : FileTree) (location : Location) : FileTree :=
  ((List.range (location.length + 1)).map location.take).foldl
    (fun made above =>
      match made.lookup above with
      | some _ => made
      | none => made.put above (.directory Entry.directoryMode))
    tree

/-- The tree with an entry at a location, and with the directories above it. -/
def plant (tree : FileTree) (location : Location) (entry : Entry) : FileTree :=
  (tree.makeDirectories location.dropLast).put location entry

/-- The largest number of names in a location of the tree. -/
def depth (tree : FileTree) : Nat :=
  (tree.entries.map fun placed => placed.1.length).foldl max 0

/-! ## What stands where -/

theorem find_putAmong (location other : Location) (entry : Entry)
    (entries : List (Location × Entry)) :
    ((putAmong location entry entries).find? fun placed => placed.1 = other).map Prod.snd =
      if location = other then some entry
      else (entries.find? fun placed => placed.1 = other).map Prod.snd := by
  induction entries with
  | nil => by_cases same : location = other <;> simp [putAmong, same]
  | cons placed others ih =>
    by_cases here : placed.1 = location
    · by_cases same : location = other
      · simp [putAmong, here, same]
      · simp [putAmong, here, same]
    · by_cases found : placed.1 = other
      · subst found
        have differs : ¬ location = placed.1 := fun same => here same.symm
        simp [putAmong, here, differs]
      · simp [putAmong, here, found, ih]

/-- Putting an entry changes what stands at its location and nothing else. -/
theorem lookup_put (tree : FileTree) (location other : Location) (entry : Entry) :
    (tree.put location entry).lookup other =
      if location = other then some entry else tree.lookup other :=
  find_putAmong location other entry tree.entries

theorem lookup_put_self (tree : FileTree) (location : Location) (entry : Entry) :
    (tree.put location entry).lookup location = some entry := by
  simp [lookup_put]

theorem lookup_put_of_ne (tree : FileTree) {location other : Location} (entry : Entry)
    (differs : location ≠ other) :
    (tree.put location entry).lookup other = tree.lookup other := by
  simp [lookup_put, differs]

/-- Of two entries put at one location, the second one remains. -/
theorem put_put (tree : FileTree) (location : Location) (first second : Entry) :
    (tree.put location first).put location second = tree.put location second := by
  ext1
  change putAmong location second (putAmong location first tree.entries) =
    putAmong location second tree.entries
  induction tree.entries with
  | nil => simp [putAmong]
  | cons placed others ih =>
    by_cases here : placed.1 = location
    · simp [putAmong, here]
    · simp [putAmong, here, ih]

theorem putAmong_of_fresh {location : Location} (entry : Entry)
    {entries : List (Location × Entry)} (fresh : ∀ placed ∈ entries, placed.1 ≠ location) :
    putAmong location entry entries = entries ++ [(location, entry)] := by
  induction entries with
  | nil => rfl
  | cons placed others ih =>
    obtain ⟨differs, rest⟩ := List.forall_mem_cons.mp fresh
    rw [putAmong, if_neg differs, ih rest, List.cons_append]

theorem lookup_eq_none_iff (tree : FileTree) (location : Location) :
    tree.lookup location = none ↔ ∀ placed ∈ tree.entries, placed.1 ≠ location := by
  simp [lookup]

/-- An entry that was put where nothing stood can be taken away again. -/
theorem unlink_put {tree : FileTree} {location : Location} (entry : Entry)
    (fresh : tree.lookup location = none) : (tree.put location entry).unlink location = tree := by
  rw [lookup_eq_none_iff] at fresh
  ext1
  change (putAmong location entry tree.entries).filter (fun placed => placed.1 ≠ location) = _
  rw [putAmong_of_fresh entry fresh, List.filter_append,
    List.filter_eq_self.mpr (by simpa using fresh)]
  simp

end FileTree

end Hygiene
