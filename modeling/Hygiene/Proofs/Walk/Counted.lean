import Mathlib.Data.Finset.Card
import Hygiene.Proofs.Walk.Resolved
import Hygiene.Proofs.Walk.Told

/-!
# How many files are counted

In a tree without links the place that a path names is known from its spelling, and every
candidate of a target names a file there (`lookup_of_candidate`). The numbers of a resolution count
paths and visits rather than files (`resolve_counts`). The files that were found are counted by the
paths that are told, so by files exactly when no two of these paths name the same file. That is so
when all targets are relative and lead downwards, because the candidates of such targets are spelled
that way as well (`plain_of_candidate`), and then the place tells the components
(`components_of_place`). The files that were excluded are counted as often as they are come upon, so
by files exactly when none of them is come upon twice.

An excluded file that is given twice therefore counts as two, and so does a file that is kept both
in a relative and in an absolute spelling (`resolve_counts_twice`).
-/

set_option autoImplicit false

namespace Hygiene.Walk

open Glob (Pattern)
open FileTree (destination IsName)
open Hygiene.Path (Sorted Plain)

/-- The place on the disk that a path names. In a tree without links it is known from the
spelling of the path. -/
def place (workspace : Workspace) (path : Path) : Location :=
  destination (workspace.directoryPath.join path)

/-- The number of places that paths name, each counted once. -/
def placeCount (workspace : Workspace) (paths : List Path) : Nat :=
  (paths.map (place workspace)).toFinset.card

/-! ## Where candidates stand -/

/-- A candidate is its target, or a walk finds it. -/
inductive CandidateOf (workspace : Workspace) (options : Options) (target : Path) :
    Path → Prop where
  | file (stands : workspace.isFile (workspace.directoryPath.join target) = true) :
      CandidateOf workspace options target target
  | walked {root path : Path} (begins : root = target ∨ root = ⟨['.']⟩)
      (walked : Walked workspace root) (found : path ∈ (below workspace options root).1) :
      CandidateOf workspace options target path

variable {workspace : Workspace} {options : Options} {target path : Path}

theorem candidateOf_of_mem (candidate : path ∈ candidates workspace options target) :
    CandidateOf workspace options target path := by
  rw [candidates] at candidate
  split at candidate
  · rename_i kind
    obtain rfl := List.mem_singleton.mp candidate
    rw [targetKind] at kind
    split at kind
    · rename_i stands
      exact .file stands
    · split at kind
      · cases kind
      · split at kind <;> cases kind
  · rename_i kind
    rw [targetKind] at kind
    split at kind
    · cases kind
    · split at kind
      · rename_i directory
        exact .walked (.inl rfl) (.target directory) candidate
      · split at kind <;> cases kind
  · split at candidate
    · cases candidate
    · exact .walked (.inr rfl) .here (List.mem_filter.mp candidate).1
  · cases candidate

/-- What is found below a directory are files, spelled as the directory is. -/
theorem file_of_mem_below (proper : workspace.tree.Proper) (linkFree : workspace.tree.LinkFree)
    {root : Path} (found : path ∈ (below workspace options root).1) :
    ∃ names : List Text, (∀ name ∈ names, IsName name) ∧
      path = asSpelled workspace.directoryPath root
        (walkedPath workspace.directoryPath root names) ∧
      ∃ mode content,
        workspace.tree.lookup (place workspace root ++ names) = some (.file mode content) := by
  obtain ⟨names, inside, rfl⟩ := exists_finding_of_mem_below found
  have outright : (workspace.directoryPath.join root).isAbsolute = true :=
    Path.isAbsolute_join root rfl
  obtain ⟨start, located, -, direct, file⟩ := file_of_mem_findings proper outright inside
  rw [FileTree.destination_of_locate linkFree outright located] at direct file
  have named := direct.named proper
  exact ⟨names, fun name member => named name (List.mem_append_right _ member), rfl, file⟩

/-- A path that is spelled as the directory is where a walk found it names what was found. -/
theorem place_asSpelled {root : Path} {names : List Text} (named : ∀ name ∈ names, IsName name) :
    place workspace (asSpelled workspace.directoryPath root
      (walkedPath workspace.directoryPath root names)) = place workspace root ++ names := by
  have outright : (walkedPath workspace.directoryPath root names).isAbsolute = true :=
    isAbsolute_walkedPath rfl root
  rw [place, destination_asSpelled rfl (Path.spelling_ne_nil_of_isAbsolute outright),
    Path.join_of_isAbsolute _ outright, walkedPath,
    FileTree.destination_foldl_join (Path.isAbsolute_join root rfl) named, place]

/-- **Every candidate names a file.** -/
theorem lookup_of_candidate (proper : workspace.tree.Proper) (linkFree : workspace.tree.LinkFree)
    (candidate : path ∈ candidates workspace options target) :
    ∃ mode content, workspace.tree.lookup (place workspace path) = some (.file mode content) := by
  cases candidateOf_of_mem candidate with
  | file stands =>
    obtain ⟨location, mode, content, file⟩ := Workspace.exists_fileAt_of_isFile stands
    have outright : (workspace.directoryPath.join target).isAbsolute = true :=
      Path.isAbsolute_join target rfl
    have same := FileTree.destination_of_locate linkFree outright file.located
    rw [same] at file
    exact ⟨mode, content, file.stands⟩
  | walked begins walked found =>
    obtain ⟨names, named, rfl, file⟩ := file_of_mem_below proper linkFree found
    rw [place_asSpelled named]
    exact file

/-! ## Spellings of a place -/

/-- The normal spelling names the same place. -/
theorem place_normalize (workspace : Workspace) (path : Path) :
    place workspace path.normalize = place workspace path := by
  have start : workspace.directoryPath.spelling ≠ [] := List.cons_ne_nil _ _
  rw [place, place, destination, destination]
  cases outright : path.isAbsolute with
  | true =>
    rw [Path.join_of_isAbsolute _ outright, Path.join_of_isAbsolute _
      ((Path.isAbsolute_normalize path).trans outright), Path.steps_normalize]
  | false =>
    rw [Path.steps_join start outright, Path.steps_join start
      ((Path.isAbsolute_normalize path).trans outright), Path.steps_normalize]

/-- Along names a place is reached by going straight down. -/
theorem foldl_move_names (names : List Text) (start : Location) :
    (names.map Path.Component.name).foldl FileTree.move start = start ++ names := by
  induction names generalizing start with
  | nil => exact (List.append_nil start).symm
  | cons name others ih =>
    rw [List.map_cons, List.foldl_cons, ih, FileTree.move, List.append_assoc,
      List.singleton_append]

theorem place_of_plain (plain : path.Plain) :
    place workspace path = destination workspace.directoryPath ++
      (Path.steps path.fields).filterMap Path.Component.name? := by
  have start : workspace.directoryPath.spelling ≠ [] := List.cons_ne_nil _ _
  rw [place, destination, Path.steps_join start plain.relative, List.foldl_append]
  conv_lhs => rw [plain.steps_eq]
  exact foldl_move_names _ _

/-- **Plain paths that name the same place have the same components.** -/
theorem components_of_place {left right : Path} (here : left.Plain) (there : right.Plain)
    (same : place workspace left = place workspace right) :
    left.normalize.components = right.normalize.components := by
  rw [place_of_plain here, place_of_plain there, List.append_cancel_left_eq] at same
  rw [Path.components_normalize, Path.components_normalize, here.relative, there.relative,
    here.steps_eq, there.steps_eq, same]

theorem above_mem_steps_of_components (upwards : .above ∈ path.components) :
    .above ∈ Path.steps path.fields := by
  rw [Path.components] at upwards
  split at upwards
  · cases upwards
  · cases upwards
  · rename_i rest _ cut
    rw [cut]
    exact List.mem_of_ne_of_mem (by decide) upwards
  · rename_i rest cut
    rw [cut]
    exact List.mem_of_ne_of_mem (by decide) upwards
  · rename_i cut
    rw [cut]
    exact upwards

/-- What is found below a plain path is spelled plainly. -/
theorem plain_asSpelled {root : Path} {names : List Text} (plain : root.Plain)
    (named : ∀ name ∈ names, IsName name) :
    (asSpelled workspace.directoryPath root
      (walkedPath workspace.directoryPath root names)).Plain := by
  have absolute : workspace.directoryPath.isAbsolute = true := rfl
  have start := Path.spelling_ne_nil_of_isAbsolute absolute
  have outright : (walkedPath workspace.directoryPath root names).isAbsolute = true :=
    isAbsolute_walkedPath absolute root
  have along := steps_walkedPath absolute root named
  rw [Path.steps_join start plain.relative, List.append_assoc] at along
  obtain ⟨left, found⟩ := Path.exists_below absolute outright along
  obtain ⟨-, relative, steps⟩ :=
    Path.below_eq_some absolute (Path.spelling_ne_nil_of_isAbsolute outright) found
  rw [along, List.append_cancel_left_eq] at steps
  rw [asSpelled, if_neg (by simp [plain.relative]), found, Option.getD_some]
  refine ⟨relative, fun upwards => ?_⟩
  have above := above_mem_steps_of_components upwards
  rw [← steps] at above
  rcases List.mem_append.mp above with inRoot | inNames
  · exact plain.downwards (Path.mem_components_of_mem_steps inRoot)
  · obtain ⟨name, -, same⟩ := List.mem_map.mp inNames
    cases same

/-- The candidates of a plain target are plain. -/
theorem plain_of_candidate (proper : workspace.tree.Proper) (linkFree : workspace.tree.LinkFree)
    (plain : target.Plain) (candidate : path ∈ candidates workspace options target) :
    path.Plain := by
  cases candidateOf_of_mem candidate with
  | file => exact plain
  | @walked root _ begins walked found =>
    obtain ⟨names, named, rfl, -⟩ := file_of_mem_below proper linkFree found
    have beginning : root.Plain := by
      rcases begins with rfl | rfl
      · exact plain
      · exact ⟨rfl, by decide⟩
    exact plain_asSpelled beginning named

/-- Paths with the same components name the same place. -/
theorem place_of_components {left right : Path}
    (same : left.normalize.components = right.normalize.components) :
    place workspace left = place workspace right := by
  have start : workspace.directoryPath.spelling ≠ [] := List.cons_ne_nil _ _
  have rootless (path : Path) : .root ∉ Path.steps path.fields := by
    intro root
    obtain ⟨field, -, step⟩ := List.mem_map.mp root
    rw [Path.stepOf] at step
    split at step <;> cases step
  rw [Path.components_normalize, Path.components_normalize] at same
  rw [place, place, destination, destination]
  cases first : left.isAbsolute <;> cases second : right.isAbsolute <;>
    simp only [first, second, Bool.false_eq_true, if_true, if_false, List.nil_append,
      List.singleton_append] at same
  · rw [Path.steps_join start first, Path.steps_join start second, same]
  · exact absurd (same ▸ List.mem_cons_self) (rootless left)
  · exact absurd (same ▸ List.mem_cons_self) (rootless right)
  · rw [Path.join_of_isAbsolute _ first, Path.join_of_isAbsolute _ second,
      (List.cons.inj same).2]

/-! ## Counting -/

/-- The visits to files that are excluded. -/
def droppedVisits (workspace : Workspace) (options : Options) (patterns : List Pattern)
    (targets : List Path) : List Path :=
  (visits workspace options targets).filter (isExcluded patterns workspace.directoryPath)

/-- The visits to files that are not excluded. -/
def keptVisits (workspace : Workspace) (options : Options) (patterns : List Pattern)
    (targets : List Path) : List Path :=
  (visits workspace options targets).filter fun path =>
    !isExcluded patterns workspace.directoryPath path

/-- No two of the paths name the same file. -/
def NameOnce (workspace : Workspace) (paths : List Path) : Prop :=
  (paths.map (place workspace)).Nodup

instance (workspace : Workspace) (paths : List Path) : Decidable (NameOnce workspace paths) :=
  inferInstanceAs (Decidable (List.Nodup _))

/-- What the numbers of a resolution count. -/
structure Counts (workspace : Workspace) (options : Options) (patterns : List Pattern)
    (targets : List Path) (resolution : Resolution) : Prop where
  /-- What is come upon are files. -/
  files : ∀ path ∈ visits workspace options targets, ∃ mode content,
    workspace.tree.lookup (place workspace path) = some (.file mode content)
  /-- The files that are told name the files that are not excluded. -/
  kept : placeCount workspace resolution.files =
    placeCount workspace (keptVisits workspace options patterns targets)
  /-- The number of files that were found is the number of paths that are told. -/
  found : resolution.tally.filesFound = resolution.files.length
  /-- It is the number of files exactly when no two of these paths name the same file. -/
  found_iff : resolution.tally.filesFound =
    placeCount workspace (keptVisits workspace options patterns targets) ↔
      NameOnce workspace resolution.files
  /-- The number of files that were excluded is the number of visits to such files. -/
  excluded : resolution.tally.filesExcluded =
    (droppedVisits workspace options patterns targets).length
  /-- It is the number of files exactly when no such file was visited twice. -/
  excluded_iff : resolution.tally.filesExcluded =
    placeCount workspace (droppedVisits workspace options patterns targets) ↔
      NameOnce workspace (droppedVisits workspace options patterns targets)
  /-- No two paths name the same file when all targets are relative and lead downwards. -/
  plain : (∀ target ∈ targets, target.Plain) → NameOnce workspace resolution.files
  /-- Together the numbers are that of the files come upon when none was visited twice. -/
  together : NameOnce workspace (visits workspace options targets) →
    resolution.tally.filesFound + resolution.tally.filesExcluded =
      placeCount workspace (visits workspace options targets)

theorem placeCount_eq_iff (workspace : Workspace) (paths : List Path) :
    paths.length = placeCount workspace paths ↔ NameOnce workspace paths := by
  have counted := Multiset.toFinset_card_eq_card_iff_nodup
    (m := ((paths.map (place workspace) : List Location) : Multiset Location))
  rw [Multiset.coe_card, List.length_map, Multiset.coe_nodup] at counted
  exact eq_comm.trans counted

section Counting

variable {patterns : List Pattern} {targets : List Path}

theorem mem_keptVisits :
    path ∈ keptVisits workspace options patterns targets ↔
      path ∈ visits workspace options targets ∧
        isExcluded patterns workspace.directoryPath path = false := by
  rw [keptVisits, List.mem_filter, Bool.not_eq_true']

/-- The files that are kept name the files that are not excluded. -/
theorem placeCount_keptFiles :
    placeCount workspace
        (keptFiles patterns workspace.directoryPath (visits workspace options targets)) =
      placeCount workspace (keptVisits workspace options patterns targets) := by
  rw [placeCount, placeCount]
  congr 1
  ext location
  simp only [List.mem_toFinset, List.mem_map]
  constructor
  · rintro ⟨file, member, rfl⟩
    obtain ⟨path, visited, included, rfl⟩ := mem_keptFiles _ _ member
    exact ⟨path, mem_keptVisits.mpr ⟨visited, included⟩, (place_normalize workspace path).symm⟩
  · rintro ⟨path, member, rfl⟩
    obtain ⟨visited, included⟩ := mem_keptVisits.mp member
    have named := (components_mem_keptFiles patterns workspace.directoryPath
      (visits workspace options targets) path.normalize.components).mpr
        ⟨path, visited, included, rfl⟩
    obtain ⟨file, kept, same⟩ := List.mem_map.mp named
    refine ⟨file, kept, ?_⟩
    obtain ⟨other, -, -, rfl⟩ := mem_keptFiles _ _ kept
    rw [place_normalize, place_of_components same]

/-- No two of the files that are kept name the same file when this is so up to spelling. -/
theorem nameOnce_keptFiles
    (alike : ∀ left ∈ visits workspace options targets,
      ∀ right ∈ visits workspace options targets,
        place workspace left = place workspace right →
          left.normalize.components = right.normalize.components) :
    NameOnce workspace
      (keptFiles patterns workspace.directoryPath (visits workspace options targets)) := by
  rw [NameOnce, List.Nodup, List.pairwise_map]
  refine (keptFiles_sorted patterns workspace.directoryPath _).imp_of_mem ?_
  intro left right first second before same
  obtain ⟨path, visited, -, rfl⟩ := mem_keptFiles _ _ first
  obtain ⟨other, listed, -, rfl⟩ := mem_keptFiles _ _ second
  rw [place_normalize, place_normalize] at same
  rw [(Path.order_eq_iff _ _).mpr (alike path visited other listed same)] at before
  cases before

/-- **What the numbers of a resolution count** in a tree without links. -/
theorem resolve_counts (proper : workspace.tree.Proper) (linkFree : workspace.tree.LinkFree)
    {resolution : Resolution}
    (resolved : (resolve workspace options patterns targets).value = .ok resolution) :
    Counts workspace options patterns targets resolution := by
  have files := files_of_resolve resolved
  obtain ⟨-, last, covers, rfl⟩ := covers_of_resolve resolved
  have found : last.resolution.tally.filesFound = last.resolution.files.length := rfl
  have excluded : last.resolution.tally.filesExcluded =
      (droppedVisits workspace options patterns targets).length :=
    covers.excluded.trans List.countP_eq_length_filter
  have kept : placeCount workspace last.resolution.files =
      placeCount workspace (keptVisits workspace options patterns targets) := by
    rw [files, placeCount_keptFiles]
  refine ⟨?_, kept, found, ?_, excluded, ?_, ?_, ?_⟩
  · intro path visited
    obtain ⟨target, -, candidate⟩ := List.mem_flatMap.mp visited
    exact lookup_of_candidate proper linkFree candidate
  · rw [found, ← kept]
    exact placeCount_eq_iff _ _
  · rw [excluded]
    exact placeCount_eq_iff _ _
  · intro plain
    rw [files]
    apply nameOnce_keptFiles
    have each : ∀ path ∈ visits workspace options targets, path.Plain := by
      intro path visited
      obtain ⟨target, listed, candidate⟩ := List.mem_flatMap.mp visited
      exact plain_of_candidate proper linkFree (plain target listed) candidate
    exact fun left first right second => components_of_place (each left first) (each right second)
  · intro once
    have alike : NameOnce workspace last.resolution.files := by
      rw [files]
      refine nameOnce_keptFiles fun left first right second same => ?_
      rw [List.inj_on_of_nodup_map once first second same]
    have keptOnce : NameOnce workspace (keptVisits workspace options patterns targets) :=
      once.sublist (List.filter_sublist.map _)
    have parts := List.length_eq_length_filter_add (l := visits workspace options targets)
      (isExcluded patterns workspace.directoryPath)
    rw [found, excluded, (placeCount_eq_iff _ _).mpr alike, kept,
      ← (placeCount_eq_iff _ _).mpr keptOnce, ← (placeCount_eq_iff _ _).mpr once, parts]
    exact Nat.add_comm _ _

/-- A plain file, a directory with it, and a file that is excluded, each target once. -/
theorem resolve_counts_plain :
    let tree : FileTree :=
      ⟨[([], .directory 0o755), ([['d']], .directory 0o755),
        ([['d'], ['a', '.', 'p', 'y']], .file 0o644 ByteArray.empty),
        ([['b', '.', 'p', 'y']], .file 0o644 ByteArray.empty)], by decide⟩
    let workspace : Workspace := ⟨tree, .owner, []⟩
    let targets : List Path := [⟨['d']⟩, ⟨['d', '/', 'a', '.', 'p', 'y']⟩, ⟨['b', '.', 'p', 'y']⟩]
    let patterns : List Pattern := [[.char 'b', .star]]
    (tree.Proper ∧ tree.LinkFree) ∧ ∃ resolution,
      (resolve workspace .standard patterns targets).value = .ok resolution ∧
        resolution.tally.filesFound = placeCount workspace
          (keptVisits workspace .standard patterns targets) ∧
        resolution.tally.filesExcluded = placeCount workspace
          (droppedVisits workspace .standard patterns targets) := by
  intro tree workspace targets patterns
  have proper : tree.Proper := by decide
  have linkFree : tree.LinkFree := FileTree.linkFree_of_entries (by decide)
  have readable : ∀ target ∈ targets, Readable workspace target := by
    intro target member kind
    have other : ∀ target ∈ targets, targetKind workspace target ≠ .pattern := by decide +kernel
    exact absurd kind (other target member)
  obtain ⟨resolution, resolved⟩ := exists_resolve .standard patterns readable
  have counts : Counts workspace .standard patterns targets resolution :=
    resolve_counts proper linkFree resolved
  have plain : ∀ target ∈ targets, target.Plain := by decide
  exact ⟨⟨proper, linkFree⟩, resolution, resolved, counts.found_iff.mpr (counts.plain plain),
    counts.excluded_iff.mpr (by decide +kernel)⟩

/-- An excluded file that is given twice is counted twice, and so is a file that is kept in a
relative and in an absolute spelling. -/
theorem resolve_counts_twice :
    let name : Text := ['a', '.', 'p', 'y']
    let tree : FileTree :=
      ⟨[([], .directory 0o755), ([name], .file 0o644 ByteArray.empty)], by simp⟩
    let workspace : Workspace := ⟨tree, .owner, []⟩
    tree.LinkFree ∧
    (∃ patterns resolution, readPatterns [name] = .ok patterns ∧
      (resolve workspace .standard patterns [⟨name⟩, ⟨name⟩]).value = .ok resolution ∧
      resolution.tally.filesExcluded = 2 ∧
      placeCount workspace (droppedVisits workspace .standard patterns [⟨name⟩, ⟨name⟩]) = 1) ∧
    ∃ resolution,
      (resolve workspace .standard [] [⟨name⟩, ⟨'/' :: name⟩]).value = .ok resolution ∧
      resolution.tally.filesFound = 2 ∧ ¬ NameOnce workspace resolution.files ∧
      placeCount workspace (keptVisits workspace .standard [] [⟨name⟩, ⟨'/' :: name⟩]) = 1 := by
  intro name tree workspace
  have readable : ∀ target ∈ [Path.mk name, ⟨'/' :: name⟩], Readable workspace target := by
    intro target member kind
    have other : ∀ target ∈ [Path.mk name, ⟨'/' :: name⟩],
        targetKind workspace target ≠ .pattern := by decide +kernel
    exact absurd kind (other target member)
  refine ⟨FileTree.linkFree_of_entries (by decide), ?_, ?_⟩
  · let patterns : List Pattern := [name.map .char]
    have again : ∀ target ∈ [Path.mk name, ⟨name⟩], Readable workspace target :=
      fun target member => readable target (by simp_all)
    obtain ⟨resolution, resolved⟩ := exists_resolve .standard patterns again
    obtain ⟨-, last, covers, rfl⟩ := covers_of_resolve resolved
    have twice : excludedVisits patterns workspace.directoryPath
        (visits workspace .standard [⟨name⟩, ⟨name⟩]) = 2 := by decide +kernel
    exact ⟨patterns, last.resolution, rfl, resolved, covers.excluded.trans twice,
      by decide +kernel⟩
  · obtain ⟨resolution, resolved⟩ := exists_resolve .standard [] readable
    have files : resolution.files = [⟨'/' :: name⟩, ⟨name⟩] :=
      (files_of_resolve resolved).trans (by decide +kernel)
    obtain ⟨-, last, -, rfl⟩ := covers_of_resolve resolved
    have found : last.resolution.tally.filesFound = 2 := congrArg List.length files
    exact ⟨last.resolution, resolved, found, by rw [files]; decide +kernel, by decide +kernel⟩

end Counting

end Hygiene.Walk
