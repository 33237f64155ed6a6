import Hygiene.Proofs.Tree.Direct
import Hygiene.Proofs.Walk.Obstacles

/-!
# What a walk tells of a file

A walk makes the path of a file from the target and the names on its way down (`walkedPath`). What
is told of the file is this path, spelled as the target is, in its normal spelling (`toldPath`).
However the target is spelled, that is the normal spelling of the names read from the target
(`toldPath_eq`). So read from the base again, it has the components of the path that was walked
(`components_toldPath`).

A file that a walk comes upon stands behind names without a link among them, below the location
where the walk begins (`file_of_mem_findings`). Whatever links the target leads through, the path
that was walked and the path that is told lead to this file or nowhere (`locate_walkedPath_iff`,
`locate_toldPath_iff`).
-/

set_option autoImplicit false

namespace Hygiene.Walk

open FileTree (IsName Leads Shortened route)

/-- The path that a walk below a target makes of the names on its way down. -/
def walkedPath (base root : Path) (names : List Text) : Path :=
  names.foldl (fun path name => path.join ⟨name⟩) (base.join root)

/-- The path under which a walk below a target tells of what it came upon. -/
def toldPath (base root : Path) (names : List Text) : Path :=
  (asSpelled base root (walkedPath base root names)).normalize

/-! ## How a file is spelled -/

section Spelling

variable {base : Path} (absolute : base.isAbsolute = true) (root : Path) {names : List Text}
  (named : ∀ name ∈ names, IsName name)

theorem walkedPath_eq (base root : Path) (names : List Text) :
    walkedPath base root names =
      base.join (names.foldl (fun path name => path.join ⟨name⟩) root) :=
  Path.foldl_join base root names

include named in
theorem isAbsolute_foldl_names :
    (names.foldl (fun path name => path.join ⟨name⟩) root).isAbsolute = root.isAbsolute :=
  Path.isAbsolute_foldl_join (fun name member => (named name member).isAbsolute_eq) root

include absolute named

/-- **What is told of a file is the normal spelling of the names read from the target.** -/
theorem toldPath_eq :
    toldPath base root names =
      (names.foldl (fun path name => path.join ⟨name⟩) root).normalize := by
  have kind := isAbsolute_foldl_names root named
  rw [toldPath, walkedPath_eq, asSpelled]
  cases outright : root.isAbsolute with
  | true => rw [if_pos rfl, Path.join_of_isAbsolute base (kind.trans outright)]
  | false =>
    rw [if_neg (by decide), Path.below_join absolute (kind.trans outright), Option.getD_some,
      Path.normalize_normalize]

/-- **Read from the base, the path that is told has the components of the one that was walked.** -/
theorem components_toldPath :
    (base.join (toldPath base root names)).components =
      (walkedPath base root names).components := by
  rw [toldPath_eq absolute root named, walkedPath_eq, Path.components_join_normalize absolute]

/-- The path that is told is relative exactly when the target is. -/
theorem isAbsolute_toldPath : (toldPath base root names).isAbsolute = root.isAbsolute := by
  rw [toldPath_eq absolute root named, Path.isAbsolute_normalize,
    isAbsolute_foldl_names root named]

theorem utf8Size_toldPath_le :
    Text.utf8Size (base.join (toldPath base root names)).spelling ≤
      Text.utf8Size (walkedPath base root names).spelling := by
  rw [toldPath_eq absolute root named, walkedPath_eq]
  exact Path.utf8Size_join_normalize_le base _

omit named in
theorem isAbsolute_walkedPath : (walkedPath base root names).isAbsolute = true := by
  rw [walkedPath_eq]
  exact Path.isAbsolute_join _ absolute

theorem route_walkedPath :
    route (walkedPath base root names) = route (base.join root) ++ names.map .name := by
  have beginning := Path.isAbsolute_join root absolute
  rw [walkedPath]
  generalize base.join root = path at beginning
  induction names generalizing path with
  | nil => exact (List.append_nil _).symm
  | cons name others ih =>
    obtain ⟨first, later⟩ := List.forall_mem_cons.mp named
    rw [List.foldl_cons, ih later _ (Path.isAbsolute_join _ beginning),
      FileTree.route_join (Path.spelling_ne_nil_of_isAbsolute beginning) first.isAbsolute_eq,
      first.route_eq, List.append_assoc]
    rfl

theorem steps_walkedPath :
    Path.steps (walkedPath base root names).fields =
      Path.steps (base.join root).fields ++ names.map .name := by
  have moves : ∀ step ∈ names.map Path.Component.name, (step != .here) = true := by simp
  rw [Path.steps_eq_filter_route, route_walkedPath absolute root named, List.filter_append,
    List.filter_eq_self.mpr moves, ← Path.steps_eq_filter_route]

/-- The steps of the path that is told are those of the names behind a shorter way to the
target. -/
theorem exists_route_toldPath :
    ∃ front, Shortened (route (base.join root)) front ∧
      route (base.join (toldPath base root names)) = front ++ names.map .name := by
  have shorter := FileTree.shortened_join_normalize absolute
    (names.foldl (fun path name => path.join ⟨name⟩) root)
  rw [← walkedPath_eq, route_walkedPath absolute root named, ← toldPath_eq absolute root named]
    at shorter
  obtain ⟨front, behind, whole, first, last⟩ := shorter.split
  rw [last.eq_of_names] at whole
  exact ⟨front, first, whole⟩

variable (filled : names ≠ [])
include filled

omit absolute in
theorem getLast_walkedPath_ne_slash :
    (walkedPath base root names).spelling.getLast? ≠ some '/' := by
  obtain ⟨above, name, rfl⟩ := List.eq_nil_or_concat' names |>.resolve_left filled
  have last := named name (List.mem_append_right _ List.mem_cons_self)
  rw [walkedPath, List.foldl_append, List.foldl_cons, List.foldl_nil,
    Path.getLast_join _ last.nonempty]
  exact fun slash => last.noSlash (List.mem_of_getLast? slash)

theorem getLast_toldPath_ne_slash :
    (base.join (toldPath base root names)).spelling.getLast? ≠ some '/' := by
  rw [toldPath_eq absolute root named]
  apply Path.getLast_join_normalize_ne_slash
  obtain ⟨above, name, rfl⟩ := List.eq_nil_or_concat' names |>.resolve_left filled
  have last := named name (List.mem_append_right _ List.mem_cons_self)
  obtain ⟨earlier, along⟩ := last.endsIn.join
    (above.foldl (fun path name => path.join ⟨name⟩) root) last.isAbsolute_eq
  rw [List.foldl_append, List.foldl_cons, List.foldl_nil, Path.steps_eq_filter_route, along,
    List.filter_append]
  simp

end Spelling

/-! ## Where a file stands -/

variable {workspace : Workspace} {options : Options}

/-- What a walk finds in a directory without links on the way are files without links on the
way. -/
theorem direct_of_mem_visit (proper : workspace.tree.Proper) {beginning : Path}
    {root : Location} {bound : Nat} {outer : List Ignore.Level} {names found : List Text}
    (direct : workspace.tree.Direct (root ++ names))
    (member : .file found ∈ visit workspace options beginning root bound outer names) :
    found ≠ [] ∧ workspace.tree.Direct (root ++ found) ∧
      ∃ mode content, workspace.tree.lookup (root ++ found) = some (.file mode content) := by
  induction bound generalizing outer names with
  | zero => cases member
  | succ bound ih =>
    rw [visit] at member
    dsimp only at member
    split at member
    · split at member
      · cases List.mem_singleton.mp member
      · rename_i entries read
        obtain ⟨location, located, rfl⟩ := children_eq_ok read
        have same := FileTree.eq_of_locate_path direct (direct.named proper) located
        obtain ⟨⟨name, entry⟩, kept, inside⟩ := List.mem_flatMap.mp member
        have listed := (List.mem_filter.mp kept).1
        rw [same] at listed
        obtain ⟨placed, -⟩ := proper.lookup_of_mem_children listed
        cases entry with
        | file mode content =>
          cases List.mem_singleton.mp inside
          have there := direct.concat placed rfl
          rw [List.append_assoc] at placed there
          exact ⟨by simp, there, mode, content, placed⟩
        | directory mode =>
          have there := direct.concat placed rfl
          rw [List.append_assoc] at there
          exact ih there inside
        | link target => cases inside
    · cases member

/-- **What a walk finds are files that stand behind names without a link among them, below the
location where the walk begins.** -/
theorem file_of_mem_findings (proper : workspace.tree.Proper) {beginning : Path}
    (absolute : beginning.isAbsolute = true) {names : List Text}
    (found : .file names ∈ findings workspace options beginning) :
    ∃ start, workspace.locate beginning = .ok start ∧ names ≠ [] ∧
      workspace.tree.Direct (start ++ names) ∧
      ∃ mode content, workspace.tree.lookup (start ++ names) = some (.file mode content) := by
  rw [findings] at found
  split at found
  · cases List.mem_singleton.mp found
  · rename_i start located
    dsimp only at found
    rcases List.mem_append.mp found with lines | visited
    · obtain ⟨problem, -, same⟩ := List.mem_map.mp lines
      cases same
    · have direct := FileTree.direct_of_locate absolute located
      rw [← List.append_nil start] at direct
      exact ⟨start, located, direct_of_mem_visit proper direct visited⟩

/-- What is told of the files below a directory is what the walk found there, spelled as the
directory is. -/
theorem exists_finding_of_mem_below {root path : Path}
    (found : path ∈ (below workspace options root).1) :
    ∃ names, .file names ∈ findings workspace options (workspace.directoryPath.join root) ∧
      path = asSpelled workspace.directoryPath root
        (walkedPath workspace.directoryPath root names) := by
  obtain ⟨names, listed, rfl⟩ := List.mem_map.mp found
  obtain ⟨finding, inside, same⟩ := List.mem_filterMap.mp listed
  cases finding with
  | obstacle met => cases same
  | file other =>
    cases same
    exact ⟨names, inside, rfl⟩

/-! ## Where the paths of a file lead -/

section Leads

variable {base root : Path} {names : List Text} {start found : Location}
  (absolute : base.isAbsolute = true) (named : ∀ name ∈ names, IsName name) (filled : names ≠ [])
  (located : workspace.locate (base.join root) = .ok start)
  (direct : workspace.tree.Direct (start ++ names))
include absolute named filled located direct

/-- The path that was walked leads straight down along the names, or nowhere. -/
theorem locate_walkedPath_iff :
    workspace.locate (walkedPath base root names) = .ok found ↔
      Text.utf8Size (walkedPath base root names).spelling ≤ FileTree.maxPathSize ∧
        Leads workspace.tree workspace.user start (names.map .name) found := by
  obtain ⟨-, -, -, reached⟩ := (FileTree.locate_eq_ok_iff_follow _ _ _).mp located
  rw [if_pos (Path.isAbsolute_join root absolute)] at reached
  exact FileTree.locate_names_iff (isAbsolute_walkedPath absolute root)
    (getLast_walkedPath_ne_slash root named filled)
    (route_walkedPath absolute root named) reached direct

/-- **The path that is told leads straight down along the names, or nowhere.** -/
theorem locate_toldPath_iff :
    workspace.locate (base.join (toldPath base root names)) = .ok found ↔
      Text.utf8Size (base.join (toldPath base root names)).spelling ≤ FileTree.maxPathSize ∧
        Leads workspace.tree workspace.user start (names.map .name) found := by
  obtain ⟨-, -, -, reached⟩ := (FileTree.locate_eq_ok_iff_follow _ _ _).mp located
  rw [if_pos (Path.isAbsolute_join root absolute)] at reached
  obtain ⟨front, shorter, along⟩ := exists_route_toldPath absolute root named
  exact FileTree.locate_names_iff (Path.isAbsolute_join _ absolute)
    (getLast_toldPath_ne_slash absolute root named filled) along (shorter.follow reached) direct

end Leads

end Hygiene.Walk
