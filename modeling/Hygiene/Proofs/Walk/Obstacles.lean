import Hygiene.Proofs.Walk.Kept
import Hygiene.Proofs.Walk.Stable

/-!
# What searches complain of

A search complains of targets that are missing and of the obstacles that its walks meet
(`resolve_explained`). An obstacle concerns a directory that cannot be read, or rule files above
the beginning of the walk. A directory is spelled by the names that lead to it, so its path leads
back to it (`visit_obstacle`), also when the path is spelled as the target is
(`destination_asSpelled`).

So in a proper tree a search does not complain of a file, unless it is a rule file
(`obstacle_path_ne`).
-/

set_option autoImplicit false

namespace Hygiene

open FileTree (IsName destination destination_of_locate fileName_of_locate)

/-! ## Problems of rule files -/

namespace Ignore

namespace Listing

theorem file_of_mem_prepend {file : Path} {number : Nat} {line : Text} {later : Listing}
    {problem : Problem} (member : problem ∈ (prepend file number line later).problems) :
    problem.file = file ∨ problem ∈ later.problems := by
  rw [prepend] at member
  split at member
  · exact .inr member
  · exact .inr member
  · rcases List.mem_cons.mp member with rfl | behind
    · exact .inl rfl
    · exact .inr behind

theorem file_of_mem_ofLines {file : Path} {number : Nat} {lines : List (List UInt8)}
    {problem : Problem} (member : problem ∈ (ofLines file number lines).problems) :
    problem.file = file := by
  induction lines generalizing number with
  | nil => cases member
  | cons line others ih =>
    rw [ofLines] at member
    split at member
    · rw [List.mem_singleton.mp member]
    · rcases file_of_mem_prepend member with same | later
      · exact same
      · exact ih later

theorem mem_problems_of_told {listing : Listing} {problem : Problem}
    (member : problem ∈ listing.told) : problem ∈ listing.problems := by
  rw [told.eq_def] at member
  split at member
  · cases member
  · exact member

/-- A problem that is told of a file is one of this file. -/
theorem file_of_told_load {workspace : Workspace} {file : Path} {problem : Problem}
    (member : problem ∈ (load workspace file).told) : problem.file = file := by
  have listed := mem_problems_of_told member
  rw [load] at listed
  split at listed
  · exact file_of_mem_ofLines listed
  · cases listed

end Listing

/-- A problem of a rule file. -/
def Problem.OfRuleFile (problem : Problem) : Prop :=
  ∃ name ∈ ruleNames, problem.file.EndsIn name

namespace Level

variable {workspace : Workspace}

theorem ofRuleFile_loadIn {directory : Location} {name : Text} (listed : name ∈ ruleNames)
    {problem : Problem} (member : problem ∈ (loadIn workspace directory name).told) :
    problem.OfRuleFile := by
  rw [loadIn] at member
  split at member
  · rw [Problem.OfRuleFile, Listing.file_of_told_load member]
    exact ⟨name, listed, endsIn_ruleName listed directory.path⟩
  · cases member

theorem ofRuleFile_loadOwn {directory : Location} {problem : Problem}
    (member : problem ∈ (loadOwn workspace directory).told) : problem.OfRuleFile := by
  rw [loadOwn] at member
  split at member
  · rw [Problem.OfRuleFile, Listing.file_of_told_load member]
    exact ⟨_, by decide, endsIn_exclude _⟩
  · cases member

/-- All problems of the levels above a directory are problems of rule files. -/
theorem ofRuleFile_above {readsShared : Bool} {directory : Location} {problem : Problem}
    (member : problem ∈ (above workspace readsShared directory).2) : problem.OfRuleFile := by
  rw [above] at member
  obtain ⟨loaded, found, inside⟩ := List.mem_flatMap.mp member
  obtain ⟨place, -, rfl⟩ := List.mem_map.mp found
  rw [load, List.mem_append, List.mem_append] at inside
  rcases inside with (general | shared) | own
  · exact ofRuleFile_loadIn (by decide) general
  · split at shared
    · exact ofRuleFile_loadIn (by decide) shared
    · cases shared
  · split at own
    · exact ofRuleFile_loadOwn own
    · cases own

end Level

end Ignore

namespace Walk

/-! ## Obstacles on the way -/

section Visit

variable {workspace : Workspace}

theorem children_eq_ok {path : Path} {entries : List (Text × Entry)}
    (read : workspace.children path = .ok entries) :
    ∃ location, workspace.locate path = .ok location ∧
      entries = workspace.tree.children location := by
  rw [Workspace.children] at read
  cases located : workspace.locate path with
  | error error =>
    rw [located] at read
    cases read
  | ok location =>
    refine ⟨location, rfl, ?_⟩
    rw [located] at read
    simp only [bind, Except.bind, pure, Except.pure] at read
    split at read
    · cases read
    · split at read
      · cases read
        rfl
      · cases read

theorem isDirectoryAt_of_directory {tree : FileTree} {location : Location} {mode : Nat}
    (stands : tree.lookup location = some (.directory mode)) :
    tree.isDirectoryAt location = true := by
  rw [FileTree.isDirectoryAt, stands]

variable (proper : workspace.tree.Proper) (linkFree : workspace.tree.LinkFree)
include proper linkFree

/-- A walk that begins at a directory meets obstacles only at directories below it, and spells
them by the names that lead there. -/
theorem visit_obstacle {options : Options} {beginning : Path} {root : Location} {bound : Nat}
    {outer : List Ignore.Level} {names : List Text} {met : Obstacle}
    (stands : workspace.tree.isDirectoryAt (root ++ names) = true)
    (member : .obstacle met ∈ visit workspace options beginning root bound outer names) :
    ∃ inner error,
      met = .unreadable (inner.foldl (fun path name => path.join ⟨name⟩) beginning) error ∧
        workspace.tree.isDirectoryAt (root ++ inner) = true := by
  induction bound generalizing outer names with
  | zero => cases member
  | succ bound ih =>
    rw [visit] at member
    dsimp only at member
    split at member
    · split at member
      · rename_i error unread
        cases List.mem_singleton.mp member
        exact ⟨names, error, rfl, stands⟩
      · rename_i entries read
        obtain ⟨location, located, rfl⟩ := children_eq_ok read
        have same : location = root ++ names :=
          (destination_of_locate linkFree rfl located).trans
            (FileTree.destination_path (proper.names_of_isDirectoryAt stands))
        obtain ⟨⟨name, entry⟩, kept, found⟩ := List.mem_flatMap.mp member
        have listed := (List.mem_filter.mp kept).1
        rw [same] at listed
        obtain ⟨placed, -⟩ := proper.lookup_of_mem_children listed
        cases entry with
        | file mode content => cases List.mem_singleton.mp found
        | directory mode =>
          rw [List.append_assoc] at placed
          exact ih (isDirectoryAt_of_directory placed) found
        | link target => cases found
    · cases member

end Visit

/-! ## Spelling as the target is spelled -/

/-- A path that is spelled as the target is leads where the path leads. -/
theorem destination_asSpelled {base root path : Path} (absolute : base.isAbsolute = true)
    (nonempty : path.spelling ≠ []) :
    destination (base.join (asSpelled base root path)) = destination (base.join path) := by
  rw [asSpelled]
  split
  · rfl
  · cases found : Path.below? base path with
    | none => rfl
    | some left =>
      obtain ⟨outright, relative, steps⟩ := Path.below_eq_some absolute nonempty found
      rw [Option.getD_some, destination, destination, Path.join_of_isAbsolute base outright,
        Path.steps_join (Path.spelling_ne_nil_of_isAbsolute absolute) relative, steps]

/-! ## The complaints of a search -/

/-- A directory below which a search looks for files: a target, or the working directory. -/
inductive Walked (workspace : Workspace) : Path → Prop where
  | target {root : Path}
      (directory : workspace.isDirectory (workspace.directoryPath.join root) = true) :
      Walked workspace root
  | here : Walked workspace ⟨['.']⟩

/-- All that is missing for a search, and all that failed, is explained by the workspace. -/
structure Explained (workspace : Workspace) (options : Options) (missing : List Path)
    (failures : List Failure) : Prop where
  missing : ∀ target ∈ missing, targetKind workspace target = .missing
  failures : ∀ failure ∈ failures, ∃ root, Walked workspace root ∧
    ∃ obstacle ∈ (below workspace options root).2,
      failure.path = obstacle.path workspace.directoryPath root

namespace Search

variable {workspace : Workspace} {options : Options} {search : Search}
  (explained : Explained workspace options search.missing search.failures)

theorem keepAll_value (patterns : List Glob.Pattern) (base : Path) (search : Search)
    (paths : List Path) :
    (search.keepAll patterns base paths).value.missing = search.missing ∧
      (search.keepAll patterns base paths).value.failures = search.failures := by
  rw [keepAll]
  induction paths generalizing search with
  | nil => exact ⟨rfl, rfl⟩
  | cons path others ih =>
    obtain ⟨-, missing, failures⟩ := keep_value patterns base search path
    rw [List.foldlM_cons, Log.Told.bind_value, ← missing, ← failures]
    exact ih _

include explained

theorem walk_explained {root : Path} (walked : Walked workspace root) :
    Explained workspace options (search.walk workspace options root).value.1.missing
      (search.walk workspace options root).value.1.failures := by
  refine ⟨explained.missing, fun failure member => ?_⟩
  rcases List.mem_append.mp member with early | found
  · exact explained.failures failure early
  · obtain ⟨obstacle, met, rfl⟩ := List.mem_map.mp found
    exact ⟨root, walked, obstacle, met, rfl⟩

theorem walkHere_explained :
    Explained workspace options (search.walkHere workspace options).value.1.missing
      (search.walkHere workspace options).value.1.failures := by
  rw [walkHere]
  split
  · exact explained
  · exact walk_explained explained .here

theorem keepAll_explained (patterns : List Glob.Pattern) (base : Path) (paths : List Path) :
    Explained workspace options (search.keepAll patterns base paths).value.missing
      (search.keepAll patterns base paths).value.failures := by
  obtain ⟨missing, failures⟩ := keepAll_value patterns base search paths
  rw [missing, failures]
  exact explained

/-- A target adds only complaints that are explained. -/
theorem addTarget_explained {patterns : List Glob.Pattern} {target : Path} {next : Search}
    (found : (search.addTarget workspace options patterns target).value = .ok next) :
    Explained workspace options next.missing next.failures := by
  rw [addTarget] at found
  cases kind : targetKind workspace target with
  | file =>
    rw [kind] at found
    cases found
    obtain ⟨-, missing, failures⟩ :=
      keep_value patterns workspace.directoryPath search target
    rw [missing, failures]
    exact explained
  | directory =>
    rw [kind] at found
    cases found
    have directory : workspace.isDirectory (workspace.directoryPath.join target) = true := by
      rw [targetKind] at kind
      split at kind
      · cases kind
      · split at kind
        · assumption
        · split at kind <;> cases kind
    exact keepAll_explained (walk_explained explained (.target directory)) patterns _ _
  | pattern =>
    simp only [kind] at found
    split at found
    · cases found
    · cases found
      exact keepAll_explained (walkHere_explained explained) patterns _ _
  | missing =>
    rw [kind] at found
    cases found
    refine ⟨fun other member => ?_, explained.failures⟩
    rcases List.mem_append.mp member with early | last
    · exact explained.missing other early
    · rw [List.mem_singleton.mp last]
      exact kind

theorem addTargets_explained {patterns : List Glob.Pattern} {targets : List Path} {last : Search}
    (found : (search.addTargets workspace options patterns targets).value = .ok last) :
    Explained workspace options last.missing last.failures := by
  induction targets generalizing search with
  | nil =>
    cases found
    exact explained
  | cons target others ih =>
    rw [addTargets, Log.Told.bind_value] at found
    cases step : (search.addTarget workspace options patterns target).value with
    | error error =>
      rw [step] at found
      cases found
    | ok next =>
      rw [step] at found
      exact ih (addTarget_explained explained step) found

end Search

/-- **What a search complains of is explained by the workspace.** -/
theorem resolve_explained {workspace : Workspace} {options : Options}
    {patterns : List Glob.Pattern} {targets : List Path} {resolution : Resolution}
    (found : (resolve workspace options patterns targets).value = .ok resolution) :
    Explained workspace options resolution.missing resolution.failures := by
  rw [resolve, Log.Told.bind_value, Log.Told.pure_value] at found
  cases searched : (Search.addTargets workspace options patterns .start targets).value with
  | error error =>
    rw [searched] at found
    cases found
  | ok last =>
    rw [searched] at found
    cases found
    have nothing : Explained workspace options Search.start.missing Search.start.failures :=
      ⟨List.forall_mem_nil _, List.forall_mem_nil _⟩
    exact Search.addTargets_explained nothing searched

/-- The ways in which a walk can meet an obstacle. -/
inductive Meets (workspace : Workspace) (options : Options) (root : Path) : Obstacle → Prop where
  /-- The directory where the walk begins is not found. -/
  | unfound {error : SystemError}
      (failed : workspace.locate (workspace.directoryPath.join root) = .error error) :
      Meets workspace options root (.unreadable (workspace.directoryPath.join root) error)
  /-- There are wrong lines in the rule files above the directory. -/
  | lines {first : Ignore.Problem} {others : List Ignore.Problem}
      (rules : ∀ problem ∈ first :: others, problem.OfRuleFile) :
      Meets workspace options root (.badLines first others)
  /-- The obstacle is on the way below the directory. -/
  | visited {place : Location} {met : Obstacle}
      (located : workspace.locate (workspace.directoryPath.join root) = .ok place)
      (inside : .obstacle met ∈ visit workspace options (workspace.directoryPath.join root) place
        (workspace.tree.depth + 1) (Ignore.Level.above workspace options.readsShared place).1 []) :
      Meets workspace options root met

theorem meets_of_mem_below {workspace : Workspace} {options : Options} {root : Path}
    {obstacle : Obstacle} (met : obstacle ∈ (below workspace options root).2) :
    Meets workspace options root obstacle := by
  obtain ⟨finding, found, same⟩ := List.mem_filterMap.mp met
  cases finding with
  | file names => cases same
  | obstacle other =>
    cases same
    rw [findings] at found
    cases located : workspace.locate (workspace.directoryPath.join root) with
    | error error =>
      rw [located] at found
      cases List.mem_singleton.mp found
      exact .unfound located
    | ok place =>
      have rules : ∀ problem ∈ (Ignore.Level.above workspace options.readsShared place).2,
          problem.OfRuleFile := fun problem => Ignore.Level.ofRuleFile_above
      rw [located] at found
      dsimp only at found
      rcases List.mem_append.mp found with lines | inside
      · obtain ⟨other, listed, same⟩ := List.mem_map.mp lines
        cases same
        generalize (Ignore.Level.above workspace options.readsShared place).2 = problems at *
        cases problems with
        | nil => cases listed
        | cons first others =>
          cases List.mem_singleton.mp listed
          exact .lines rules
      · exact .visited located inside

/-! ## Where walks begin -/

section Beginning

variable {workspace : Workspace} {root : Path} (walked : Walked workspace root)
include walked

/-- A walk begins at a directory, if it begins at all. -/
theorem Walked.isDirectoryAt (linkFree : workspace.tree.LinkFree) {place : Location}
    (located : workspace.locate (workspace.directoryPath.join root) = .ok place) :
    workspace.tree.isDirectoryAt place = true := by
  cases walked with
  | target directory =>
    rw [Workspace.isDirectory] at directory
    split at directory
    · rename_i mode examined
      obtain ⟨other, same, stands⟩ := (Workspace.examine_eq_ok_iff workspace _ _).mp examined
      rw [located, Except.ok.injEq] at same
      rw [same]
      exact isDirectoryAt_of_directory stands
    · cases directory
  | here =>
    obtain ⟨-, -, -, leads⟩ := (FileTree.locate_eq_ok_iff linkFree _ _ _).mp located
    have absolute : workspace.directoryPath.isAbsolute = true := rfl
    rw [if_pos (Path.isAbsolute_join _ absolute),
      FileTree.route_join (Path.spelling_ne_nil_of_isAbsolute absolute) rfl] at leads
    cases stands : workspace.tree.isDirectoryAt place with
    | true => rfl
    | false =>
      obtain ⟨before, text, step, -⟩ :=
        leads.lastStep (FileTree.rooted_nil _) (FileTree.stepAlong_ne_root _) stands
      cases step

/-- Only the working directory itself can fail to be found where a walk begins. -/
theorem Walked.root_eq {error : SystemError}
    (failed : workspace.locate (workspace.directoryPath.join root) = .error error) :
    root = ⟨['.']⟩ := by
  cases walked with
  | target directory =>
    rw [Workspace.isDirectory, Workspace.examine, failed] at directory
    cases directory
  | here => rfl

end Beginning

/-! ## Files that no search complains of -/

section Files

variable {workspace : Workspace} (linkFree : workspace.tree.LinkFree) {path : Path}
  {location : Location} {mode : Nat} {bytes : ByteArray}
  (file : workspace.FileAt (workspace.directoryPath.join path) location mode bytes)
include linkFree file

/-- A path that is walked does not lead to a file. -/
theorem Walked.ne {root : Path} (walked : Walked workspace root) : root ≠ path := by
  rintro rfl
  have stands := walked.isDirectoryAt linkFree file.located
  rw [file.isDirectoryAt_eq] at stands
  cases stands

/-- The destination of the path of a file is where the file stands. -/
theorem location_eq_destination {root spelled : Path} (nonempty : spelled.spelling ≠ [])
    (same : asSpelled workspace.directoryPath root spelled = path) :
    location = destination (workspace.directoryPath.join spelled) := by
  rw [← destination_asSpelled rfl nonempty, same]
  exact destination_of_locate linkFree (Path.isAbsolute_join _ rfl) file.located

/-- When the working directory is not found, the complaint is not about a file. -/
theorem asSpelled_here_ne {error : SystemError}
    (failed : workspace.locate (workspace.directoryPath.join ⟨['.']⟩) = .error error) :
    asSpelled workspace.directoryPath ⟨['.']⟩ (workspace.directoryPath.join ⟨['.']⟩) ≠ path := by
  have absolute : workspace.directoryPath.isAbsolute = true := rfl
  have start := Path.spelling_ne_nil_of_isAbsolute absolute
  have beginning := Path.isAbsolute_join ⟨['.']⟩ absolute
  rw [asSpelled, if_neg (by decide)]
  rintro rfl
  cases found : Path.below? workspace.directoryPath (workspace.directoryPath.join ⟨['.']⟩) with
  | none =>
    have located := file.located
    rw [found, Option.getD_none, Path.join_of_isAbsolute _ beginning, failed] at located
    cases located
  | some left =>
    obtain ⟨-, name, -, named⟩ :=
      fileName_of_locate linkFree absolute file.located file.isDirectoryAt_eq
    rw [found, Option.getD_some] at named
    obtain ⟨field, member, solid⟩ := Path.exists_solid_of_fileName named
    obtain ⟨-, -, steps⟩ :=
      Path.below_eq_some absolute (Path.spelling_ne_nil_of_isAbsolute beginning) found
    rw [Path.steps_join start rfl, List.append_cancel_left_eq] at steps
    have step : Path.stepOf field ∈ Path.steps left.fields :=
      List.mem_map_of_mem (List.mem_filter.mpr ⟨member, by simp [solid]⟩)
    rw [← steps] at step
    cases step

variable (proper : workspace.tree.Proper)
  (plain : ∀ name, path.fileName? = some name → name ∉ Ignore.ruleNames)

include plain in
theorem asSpelled_ruleFile_ne {root : Path} {problem : Ignore.Problem}
    (rule : problem.OfRuleFile) : asSpelled workspace.directoryPath root problem.file ≠ path := by
  intro same
  obtain ⟨name, listed, ends⟩ := rule
  have placed := location_eq_destination linkFree file ends.spelling_ne_nil same
  obtain ⟨before, called, here, named⟩ :=
    fileName_of_locate linkFree rfl file.located file.isDirectoryAt_eq
  have joined : (workspace.directoryPath.join problem.file).EndsIn name := by
    cases absolute : problem.file.isAbsolute with
    | true =>
      rw [Path.join_of_isAbsolute _ absolute]
      exact ends
    | false => exact ends.join _ absolute
  obtain ⟨above, there⟩ := joined.destination_eq
  rw [there, here] at placed
  obtain rfl := List.singleton_inj.mp (List.append_inj_right' placed rfl)
  exact plain called named listed

include proper plain in
/-- **No obstacle of a walk concerns a file.** The rule files are the exception. -/
theorem obstacle_path_ne {options : Options} {root : Path} (walked : Walked workspace root)
    {obstacle : Obstacle} (met : obstacle ∈ (below workspace options root).2) :
    obstacle.path workspace.directoryPath root ≠ path := by
  have absolute : workspace.directoryPath.isAbsolute = true := rfl
  cases meets_of_mem_below met with
  | unfound failed =>
    obtain rfl := walked.root_eq failed
    exact asSpelled_here_ne linkFree file failed
  | @lines first others rules =>
    cases others with
    | nil => exact asSpelled_ruleFile_ne linkFree file plain (rules first List.mem_cons_self)
    | cons second later => exact walked.ne linkFree file
  | @visited place met located inside =>
    have stands := walked.isDirectoryAt linkFree located
    rw [← List.append_nil place] at stands
    obtain ⟨inner, error, rfl, directory⟩ := visit_obstacle proper linkFree stands inside
    intro same
    have beginning := Path.isAbsolute_join root absolute
    have outright := FileTree.isAbsolute_foldl_join inner beginning
    have placed := location_eq_destination linkFree file
      (Path.spelling_ne_nil_of_isAbsolute outright) same
    rw [Path.join_of_isAbsolute _ outright,
      FileTree.destination_foldl_join beginning (fun name member =>
        proper.names_of_isDirectoryAt directory name (List.mem_append_right _ member)),
      ← destination_of_locate linkFree beginning located] at placed
    have other := file.isDirectoryAt_eq
    rw [placed, directory] at other
    cases other

end Files

end Walk

end Hygiene
