import Hygiene.Proofs.Check.Alone
import Hygiene.Proofs.Tree.Shortened
import Hygiene.Proofs.Walk.Kept

/-!
# A run acts file by file

When the targets are plain paths of files, a run comes to what the checks of the single files
come to, each made alone in the workspace before the run. It changes the files that it records
as fixed and nothing else, and it does not depend on the order of the targets, nor on how
often one of them is given (`run_fileByFile`).

Two facts carry this. In a tree without links the files that are kept lead to different places
(`keptFiles_apart`), and a run over files in different places is the checks of these files
alone (`checkFiles_alone`).
-/

set_option autoImplicit false

namespace Hygiene.Check

open Walk (keptFiles)

variable {plan : Plan} {currentYear : Nat}

/-! ## What the check of a single file says of the disk -/

/-- A file that was checked changes exactly when its record says that it was fixed, and then
it has the fixed text and its old permission bits. -/
def Tells (workspace after : Workspace) (plan : Plan) (currentYear : Nat) (record : Record) :
    Prop :=
  ∃ location mode content,
    workspace.FileAt (fullPath workspace record.path) location mode content.encode ∧
      (after.tree.lookup location ≠ workspace.tree.lookup location ↔ record.fixed = true) ∧
      (record.fixed = true → ∃ text,
        Header.fix? record.kind plan.notice plan.scanLines currentYear content = some text ∧
          after.tree.lookup location = some (.file mode text.encode))

theorem Checked.tells {workspace after : Workspace} {path : Path} {record : Record}
    (checked : Checked workspace plan currentYear path after (.ok (some record))) :
    record.path = path ∧ Tells workspace after plan currentYear record := by
  cases checked with
  | @judged location mode content kind file counts kept =>
    refine ⟨rfl, location, mode, content, file, ?_, nofun⟩
    exact ⟨fun differs => absurd rfl differs, nofun⟩
  | @fixed location mode content text kind repair =>
    have written := FileTree.lookup_put_self workspace.tree location (.file mode text.encode)
    refine ⟨rfl, location, mode, content, repair.file, ⟨fun _ => rfl, fun _ same => ?_⟩,
      fun _ => ⟨text, repair.made, written⟩⟩
    rw [rewritten, written, repair.file.stands, Option.some.injEq, Entry.file.injEq] at same
    obtain rfl := Text.encode_injective same.2
    exact repair.ne_correct repair.correct

/-! ## What a run says of the disk -/

/-- A run over files is the checks of these files alone: the report lists what they come to, in
the order of the files. A file changes exactly when its record says that it was fixed, and
nothing else changes. -/
structure FileByFile (workspace : Workspace) (plan : Plan) (currentYear : Nat)
    (files : List Path) (after : Workspace) (report : Report) : Prop where
  records : report.records =
    files.filterMap fun path => (checkFile workspace plan currentYear path).record?
  failures : report.failures =
    files.filterMap fun path => (checkFile workspace plan currentYear path).failure? path
  told : ∀ record ∈ report.records, Tells workspace after plan currentYear record
  elsewhere : ∀ location : Location,
    after.tree.lookup location ≠ workspace.tree.lookup location →
      ∃ record ∈ report.records, record.fixed = true ∧
        workspace.locate (fullPath workspace record.path) = .ok location

theorem checkFiles_fileByFile {workspace : Workspace} {files : List Path}
    (apart : Apart workspace files) {report : Report}
    (records : report.records = (checkFiles plan currentYear workspace files).records)
    (failures : report.failures = (checkFiles plan currentYear workspace files).failures) :
    FileByFile workspace plan currentYear files
      (checkFiles plan currentYear workspace files).workspace report := by
  obtain ⟨alone, failed, found⟩ :=
    checkFiles_alone apart ⟨.refl workspace, fun _ _ _ _ => rfl⟩
  rw [alone] at records
  rw [failed] at failures
  refine ⟨records, failures, fun record member => ?_, fun location differs => ?_⟩
  · rw [records] at member
    obtain ⟨path, listed, made⟩ := List.mem_filterMap.mp member
    have checked := checkFile_checked workspace plan currentYear path
    rw [(record_eq_some_iff _ record).mp made] at checked
    obtain ⟨rfl, location, mode, content, file, changed, fixed⟩ := checked.tells
    have final := found record.path listed location file.located
    rw [← final] at changed fixed
    exact ⟨location, mode, content, file, changed, fixed⟩
  · have reached : ∃ path ∈ files,
        workspace.locate (fullPath workspace path) = .ok location := by
      by_contra none
      refine differs (checkFiles_lookup_of_ne fun path listed located => none ?_)
      exact ⟨path, listed, located⟩
    obtain ⟨path, listed, located⟩ := reached
    rw [found path listed location located] at differs
    obtain ⟨record, made, rfl, fixed, -⟩ :=
      (checkFile_checked workspace plan currentYear path).of_changed differs
    refine ⟨record, ?_, fixed, located⟩
    rw [records]
    exact List.mem_filterMap.mpr ⟨_, listed, (record_eq_some_iff _ record).mpr made⟩

/-- A run that does not fix leaves everything as it is. -/
theorem checkFiles_of_not_fix (asked : plan.fix = false) (workspace : Workspace)
    (files : List Path) : (checkFiles plan currentYear workspace files).workspace = workspace := by
  induction files with
  | nil => rfl
  | cons path others ih =>
    have same := (checkFile_checked workspace plan currentYear path).of_not_fix asked
    rw [checkFiles, prepend_workspace, same, ih]

/-! ## Targets that are plain paths of files -/

/-- A target is a plain path and leads to a file. -/
structure PlainTarget (workspace : Workspace) (target : Path) : Prop where
  plain : target.Plain
  file : workspace.isFile (fullPath workspace target) = true

theorem isAbsolute_directoryPath (workspace : Workspace) :
    workspace.directoryPath.isAbsolute = true :=
  rfl

section Targets

variable {workspace : Workspace}

/-- The normal spelling of a plain target leads to the file of the target. -/
theorem PlainTarget.fileAt {target : Path} (plain : PlainTarget workspace target) :
    ∃ location mode bytes,
      workspace.FileAt (fullPath workspace target) location mode bytes ∧
        workspace.FileAt (fullPath workspace target.normalize) location mode bytes := by
  obtain ⟨location, mode, bytes, file⟩ := Workspace.exists_fileAt_of_isFile plain.file
  exact ⟨location, mode, bytes, file,
    FileTree.locate_join_normalize (isAbsolute_directoryPath workspace) file.located,
    file.stands⟩

variable (linkFree : workspace.tree.LinkFree)
include linkFree

/-- Plain targets are one path up to spelling exactly when they lead to one file. -/
theorem PlainTarget.components_eq_iff {left right : Path} (here : PlainTarget workspace left)
    (there : PlainTarget workspace right) :
    left.normalize.components = right.normalize.components ↔
      workspace.locate (fullPath workspace left.normalize) =
        workspace.locate (fullPath workspace right.normalize) := by
  obtain ⟨first, mode, bytes, file, normal⟩ := here.fileAt
  obtain ⟨second, bits, content, other, spelled⟩ := there.fileAt
  rw [normal.located, spelled.located, Except.ok.injEq]
  exact FileTree.components_eq_iff linkFree (isAbsolute_directoryPath workspace) here.plain
    there.plain file.located file.isDirectoryAt_eq other.located other.isDirectoryAt_eq

variable {targets : List Path} (plain : ∀ target ∈ targets, PlainTarget workspace target)
include plain

/-- The files that are kept lead to different places. -/
theorem keptFiles_apart (patterns : List Glob.Pattern) :
    Apart workspace (keptFiles patterns workspace.directoryPath targets) := by
  constructor
  · intro path member
    obtain ⟨target, listed, -, rfl⟩ := Walk.mem_keptFiles patterns _ member
    obtain ⟨location, mode, bytes, -, file⟩ := (plain target listed).fileAt
    exact ⟨location, mode, bytes, file⟩
  · apply (Walk.keptFiles_sorted patterns _ targets).imp_of_mem
    intro left right first second order
    obtain ⟨target, listed, -, rfl⟩ := Walk.mem_keptFiles patterns _ first
    obtain ⟨other, known, -, rfl⟩ := Walk.mem_keptFiles patterns _ second
    intro same
    rw [← (plain target listed).components_eq_iff linkFree (plain other known),
      ← Path.order_eq_iff, order] at same
    cases same

/-- Files that are kept for the same targets in another order lead to the same places. -/
theorem keptFiles_placed (patterns : List Glob.Pattern) {others : List Path}
    (same : ∀ target, target ∈ others ↔ target ∈ targets) :
    ∀ path ∈ keptFiles patterns workspace.directoryPath targets,
      ∀ other ∈ keptFiles patterns workspace.directoryPath others,
        path.components = other.components →
          ∃ location mode bytes, workspace.FileAt (fullPath workspace path) location mode bytes ∧
            workspace.FileAt (fullPath workspace other) location mode bytes := by
  intro path member other found alike
  obtain ⟨target, listed, -, rfl⟩ := Walk.mem_keptFiles patterns _ member
  obtain ⟨again, known, -, rfl⟩ := Walk.mem_keptFiles patterns _ found
  have first := plain target listed
  have second := plain again ((same again).mp known)
  obtain ⟨location, mode, bytes, -, file⟩ := first.fileAt
  have located := (first.components_eq_iff linkFree second).mp alike
  exact ⟨location, mode, bytes, file, located ▸ file.located, file.stands⟩

end Targets

/-! ## The whole run -/

/-- The targets of a plan matter for which files are checked, and not for the checks. -/
theorem checkFiles_withTargets (others : List Path) (workspace : Workspace) (files : List Path) :
    checkFiles { plan with targets := others } currentYear workspace files =
      checkFiles plan currentYear workspace files := by
  induction files generalizing workspace with
  | nil => rfl
  | cons path later ih =>
    rw [checkFiles, checkFiles, ih]
    rfl

/-- A run over targets that are files is a run over the files that are kept. -/
theorem run_of_plainTargets {plan : Plan} (currentYear : Nat) {workspace : Workspace}
    (plain : ∀ target ∈ plan.targets, PlainTarget workspace target)
    {patterns : List Glob.Pattern} (readable : Walk.readPatterns plan.exclude = .ok patterns) :
    ∃ report, (run workspace plan currentYear).report = .ok report ∧
      (run workspace plan currentYear).workspace =
        (checkFiles plan currentYear workspace
          (keptFiles patterns workspace.directoryPath plan.targets)).workspace ∧
      report.records = (checkFiles plan currentYear workspace
          (keptFiles patterns workspace.directoryPath plan.targets)).records ∧
      report.failures = (checkFiles plan currentYear workspace
          (keptFiles patterns workspace.directoryPath plan.targets)).failures := by
  obtain ⟨resolution, found, files, missing, failures⟩ :=
    Walk.resolve_of_isFile patterns .standard fun target listed => (plain target listed).file
  rw [run, readable]
  dsimp only
  rw [found, ← files]
  refine ⟨_, rfl, rfl, rfl, ?_⟩
  rw [missing, failures]
  rfl

/-- **A run acts file by file and touches nothing else.** When the patterns of the plan cannot
be read, the run ends with their error and changes nothing. Otherwise it has a report on the
targets that are not excluded, sorted and without repetition, and it is the checks of these
files alone. A plan that does not fix changes nothing. Another plan with the same targets, in
any order and any number, has records that say the same and leaves the same workspace. The
records are even spelled the same when no path has two normal spellings among the targets. -/
theorem run_fileByFile {workspace : Workspace} (linkFree : workspace.tree.LinkFree)
    (plain : ∀ target ∈ plan.targets, PlainTarget workspace target) :
    (∀ error, Walk.readPatterns plan.exclude = .error error →
      (run workspace plan currentYear).report = .error error ∧
        (run workspace plan currentYear).workspace = workspace) ∧
    ∀ patterns, Walk.readPatterns plan.exclude = .ok patterns →
      ∃ report files, (run workspace plan currentYear).report = .ok report ∧
        Path.Sorted files ∧
        (∀ file ∈ files, ∃ target ∈ plan.targets,
          Walk.isExcluded patterns workspace.directoryPath target = false ∧
            file = target.normalize) ∧
        (∀ target ∈ plan.targets,
          Walk.isExcluded patterns workspace.directoryPath target = false →
            ∃ file ∈ files, file.components = target.normalize.components) ∧
        FileByFile workspace plan currentYear files (run workspace plan currentYear).workspace
          report ∧
        (plan.fix = false → (run workspace plan currentYear).workspace = workspace) ∧
        ∀ others, (∀ target, target ∈ others ↔ target ∈ plan.targets) →
          ∃ again, (run workspace { plan with targets := others } currentYear).report = .ok again ∧
            again.records.map Record.facts = report.records.map Record.facts ∧
            (run workspace { plan with targets := others } currentYear).workspace =
              (run workspace plan currentYear).workspace ∧
            (Walk.SpelledOnce plan.targets → again.records = report.records) := by
  constructor
  · intro error broken
    rw [run, broken]
    exact ⟨rfl, rfl⟩
  · intro patterns readable
    obtain ⟨report, reported, after, records, failures⟩ :=
      run_of_plainTargets currentYear plain readable
    refine ⟨report, keptFiles patterns workspace.directoryPath plan.targets, reported,
      Walk.keptFiles_sorted patterns _ _, fun file => Walk.mem_keptFiles patterns _,
      fun target listed kept => ?_, ?_, fun asked => ?_, fun others same => ?_⟩
    · obtain ⟨file, member, alike⟩ := List.mem_map.mp
        ((Walk.components_mem_keptFiles patterns workspace.directoryPath plan.targets _).mpr
          ⟨target, listed, kept, rfl⟩)
      exact ⟨file, member, alike⟩
    · rw [after]
      exact checkFiles_fileByFile (keptFiles_apart linkFree plain patterns) records failures
    · rw [after]
      exact checkFiles_of_not_fix asked workspace _
    · have listed : ∀ target ∈ ({ plan with targets := others } : Plan).targets,
          PlainTarget workspace target :=
        fun target member => plain target ((same target).mp member)
      obtain ⟨again, repeated, left, found, -⟩ := run_of_plainTargets currentYear listed readable
      have alike := Walk.keptFiles_congr patterns workspace.directoryPath fun target =>
        (same target).symm
      have placed := keptFiles_placed linkFree plain patterns same
      rw [checkFiles_withTargets] at left found
      refine ⟨again, repeated, ?_, ?_, fun once => ?_⟩
      · rw [found, records]
        exact (checkFiles_respell alike placed).2
      · rw [left, after]
        exact (checkFiles_respell alike placed).1
      · rw [found, records, Walk.keptFiles_eq patterns workspace.directoryPath once same]

/-- The theorem at two files, one of them given twice with different spellings, and a third
file that is excluded. -/
theorem run_fileByFile_givenTwice :
    let tree : FileTree :=
      ⟨[([], .directory 0o755), ([['d']], .directory 0o755),
        ([['d'], ['a', '.', 'p', 'y']], .file 0o640 (Text.encode ['x'])),
        ([['b', '.', 'r', 's']], .file 0o644 (Text.encode [])),
        ([['c', '.', 'm', 'd']], .file 0o644 (Text.encode ['#']))], by decide⟩
    let workspace : Workspace := ⟨tree, .owner, []⟩
    let first : Path := ⟨['d', '/', '/', 'a', '.', 'p', 'y']⟩
    let again : Path := ⟨['.', '/', 'd', '/', 'a', '.', 'p', 'y']⟩
    let second : Path := ⟨['b', '.', 'r', 's']⟩
    let third : Path := ⟨['c', '.', 'm', 'd']⟩
    let plan : Plan :=
      ⟨⟨['M', 'I', 'T'], ['A'], .any⟩, true, [first, third, second, again], [['*', '.', 'm', 'd']],
        0, false⟩
    (tree.LinkFree ∧ ∀ target ∈ plan.targets, PlainTarget workspace target) ∧
      ∃ report files, (run workspace plan 2026).report = .ok report ∧ Path.Sorted files ∧
        FileByFile workspace plan 2026 files (run workspace plan 2026).workspace report ∧
        ∃ other, (run workspace { plan with targets := [again, second, third, first] }
            2026).report = .ok other ∧
          other.records.map Record.facts = report.records.map Record.facts := by
  intro tree workspace first again second third plan
  have linkFree : tree.LinkFree := FileTree.linkFree_of_entries (by decide)
  have plain : ∀ target ∈ plan.targets, PlainTarget workspace target := by
    have each : ∀ target ∈ plan.targets, target.Plain ∧
        workspace.isFile (fullPath workspace target) = true := by decide +kernel
    exact fun target member => ⟨(each target member).1, (each target member).2⟩
  obtain ⟨patterns, readable⟩ : ∃ patterns, Walk.readPatterns plan.exclude = .ok patterns :=
    ⟨_, rfl⟩
  obtain ⟨report, files, reported, sorted, -, -, alone, -, others⟩ :=
    (run_fileByFile linkFree plain).2 patterns readable
  have reordered : [again, second, third, first].Perm plan.targets := by decide
  obtain ⟨other, repeated, facts, -⟩ := others _ fun target => reordered.mem_iff
  exact ⟨⟨linkFree, plain⟩, report, files, reported, sorted, alone, other, repeated, facts⟩

end Hygiene.Check
