import Hygiene.Proofs.Check.Evolution

/-!
# What the exit code says of the disk

A run keeps the status that a file had before its fix, and the exit code is computed from
these records and from the failures. It nevertheless speaks of the files as they are after
the run (`exitCode_success_iff`). In a tree without links the code is that of success exactly
when every target was found, nothing went wrong, and every file that has to carry the notice
does carry it.

The proof follows the run file by file. Between the workspace in which a file is checked and
the workspace after the run, and between the workspace before the run and the one in which
the file is checked, there are only fixes (`Evolved`), so a record that is compliant and a
file that is correct in the end are the same thing (`Checked.isCompliant_iff`).
-/

set_option autoImplicit false

namespace Hygiene.Check

variable {plan : Plan} {currentYear : Nat}

/-! ## Which files have to be correct -/

/-- The kind of the file that a path leads to, by its name or else by the interpreter that the
text on disk asks for. -/
def kindIn? (workspace : Workspace) (path : Path) : Option FileKind :=
  (FileKind.ofPath? path).or
    ((workspace.text? (fullPath workspace path)).bind fun content =>
      (Shebang.split content).1.bind Shebang.kind?)

/-- A file of a kind has to carry the notice. Empty files do not when the plan skips them. -/
structure Concerned (workspace : Workspace) (plan : Plan) (path : Path) (kind : FileKind) :
    Prop where
  known : kindIn? workspace path = some kind
  filled : ¬ (plan.skipEmpty = true ∧ workspace.text? (fullPath workspace path) = some [])

/-- If the file that a path leads to had to carry the notice before, then it is on disk
afterwards with a correct header. -/
def Settled (plan : Plan) (before after : Workspace) (path : Path) : Prop :=
  ∀ kind, Concerned before plan path kind →
    ∃ content, after.text? (fullPath before path) = some content ∧
      statusOf plan kind content = .correct

theorem concerned_iff_counts {workspace : Workspace} {path : Path} {location : Location}
    {mode : Nat} {content : Text}
    (file : workspace.FileAt (fullPath workspace path) location mode content.encode)
    (kind : FileKind) :
    Concerned workspace plan path kind ↔ Counts plan path content kind := by
  have text := file.text
  constructor
  · rintro ⟨known, filled⟩
    rw [kindIn?, text, Option.bind_some] at known
    rw [text, Option.some.injEq] at filled
    exact ⟨known, filled⟩
  · rintro ⟨known, filled⟩
    refine ⟨?_, ?_⟩
    · rw [kindIn?, text, Option.bind_some]
      exact known
    · rw [text, Option.some.injEq]
      exact filled

/-- Whether a file has to carry the notice can be told as well from a later workspace. -/
theorem Evolved.concerned_iff {before after : Workspace}
    (evolved : Evolved plan currentYear before after) {path : Path} {location : Location}
    {mode : Nat} {text : Text}
    (file : after.FileAt (fullPath after path) location mode text.encode) (kind : FileKind) :
    Concerned before plan path kind ↔ Counts plan path text kind := by
  rw [evolved.fullPath_eq] at file
  obtain ⟨content, origin, same⟩ := evolved.origin file path
  exact (concerned_iff_counts origin kind).trans (same kind).symm

/-- A file that does not look like a script in a later workspace has nothing but its name to
say of what kind it is. -/
theorem Evolved.not_concerned {before after : Workspace}
    (evolved : Evolved plan currentYear before after) {path : Path} {location : Location}
    {mode : Nat} {bytes : ByteArray}
    (file : after.FileAt (fullPath after path) location mode bytes)
    (unnamed : FileKind.ofPath? path = none) (plain : Content.beginsScript bytes = false)
    (kind : FileKind) : ¬ Concerned before plan path kind := by
  intro concerned
  have known := concerned.known
  rw [kindIn?, unnamed, Option.none_or] at known
  obtain ⟨content, read, -⟩ := Option.bind_eq_some_iff.mp known
  obtain ⟨place, bits, origin⟩ := (Workspace.text_eq_some_iff before _ content).mp read
  obtain ⟨text, there, same⟩ := evolved.descendant origin path
  have counts := (same kind).mpr ((concerned_iff_counts origin kind).mp concerned)
  have asked := counts.known
  rw [kindOf?, unnamed, Option.none_or] at asked
  obtain ⟨rest, rfl⟩ := Shebang.beginning_of_kind asked
  rw [evolved.fullPath_eq] at file
  obtain ⟨-, -, rfl⟩ := file.unique there
  rw [Content.beginsScript_encode] at plain
  cases plain

/-! ## One file -/

/-- A file that has to carry the notice is settled when the text that it has in the end is
correct. -/
theorem settled_iff {before middle after : Workspace}
    (earlier : Evolved plan currentYear before middle) {path : Path} {kind : FileKind}
    {location : Location} {mode : Nat} {content text : Text}
    (file : middle.FileAt (fullPath middle path) location mode content.encode)
    (counts : Counts plan path content kind)
    (final : after.FileAt (fullPath before path) location mode text.encode) :
    Settled plan before after path ↔ statusOf plan kind text = .correct := by
  have concerned := earlier.concerned_iff file
  constructor
  · intro settled
    obtain ⟨found, read, correct⟩ := settled kind ((concerned kind).mpr counts)
    rw [final.text, Option.some.injEq] at read
    rw [read]
    exact correct
  · intro correct found others
    have same := ((concerned found).mp others).known
    rw [counts.known, Option.some.injEq] at same
    subst same
    exact ⟨text, final.text, correct⟩

/-- A record is compliant exactly when the file is settled in the end. This covers the files
that have no record, because those do not have to carry the notice. -/
theorem Checked.isCompliant_iff {before middle next after : Workspace} {path : Path}
    {record : Option Record} (linkFree : middle.tree.LinkFree)
    (earlier : Evolved plan currentYear before middle)
    (checked : Checked middle plan currentYear path next (.ok record))
    (later : Evolved plan currentYear next after) :
    (∀ made ∈ record, made.isCompliant = true) ↔ Settled plan before after path := by
  have evolved := checked.evolved
  cases checked with
  | unread file unnamed plain =>
    constructor
    · intro _ kind concerned
      exact absurd concerned (earlier.not_concerned file unnamed plain kind)
    · intro _ made member
      cases member
  | skipped file uncounted =>
    constructor
    · intro _ kind concerned
      exact absurd ((earlier.concerned_iff file kind).mp concerned) (uncounted kind)
    · intro _ made member
      cases member
  | judged file counts kept =>
    have final := later.keeps linkFree file counts kept
    rw [earlier.fullPath_eq] at final
    rw [settled_iff earlier file counts final]
    simp [Record.isCompliant]
  | @fixed location mode content text kind repair =>
    have there : (rewritten middle location mode text).FileAt (fullPath middle path) location
        mode text.encode :=
      ⟨(evolved.locate_eq _).trans repair.file.located, FileTree.lookup_put_self _ _ _⟩
    have counts := (repair.counts_iff path kind).mpr repair.counts
    have final := later.keeps (evolved.linkFree linkFree) there counts fun _ => repair.correct
    rw [evolved.fullPath_eq, earlier.fullPath_eq] at final
    rw [settled_iff earlier repair.file repair.counts final]
    constructor
    · exact fun _ => repair.correct
    · intro _ made member
      cases member
      rfl

/-! ## All files -/

/-- None of the files of a run fails, each being checked in the workspace that the files
before it left. -/
def NoneFails (plan : Plan) (currentYear : Nat) (workspace : Workspace) (files : List Path) :
    Prop :=
  ∀ earlier path later, files = earlier ++ path :: later →
    ∃ record, (checkFile (checkFiles plan currentYear workspace earlier).workspace plan
      currentYear path).record = .ok record

theorem noneFails_cons (workspace : Workspace) (path : Path) (others : List Path) :
    NoneFails plan currentYear workspace (path :: others) ↔
      (∃ record, (checkFile workspace plan currentYear path).record = .ok record) ∧
        NoneFails plan currentYear (checkFile workspace plan currentYear path).workspace
          others := by
  constructor
  · intro fine
    refine ⟨fine [] path others rfl, fun earlier other later same => ?_⟩
    have inner := fine (path :: earlier) other later (by rw [same, List.cons_append])
    rw [checkFiles, prepend_workspace] at inner
    exact inner
  · rintro ⟨first, rest⟩ earlier other later same
    cases earlier with
    | nil =>
      rw [List.nil_append, List.cons.injEq] at same
      obtain ⟨rfl, -⟩ := same
      exact first
    | cons head earlier =>
      rw [List.cons_append, List.cons.injEq] at same
      obtain ⟨rfl, behind⟩ := same
      rw [checkFiles, prepend_workspace]
      exact rest earlier other later behind

theorem failure_eq_none_iff (path : Path) (outcome : Outcome) :
    outcome.failure? path = none ↔ ∃ record, outcome.record = .ok record := by
  rw [Outcome.failure?]
  cases outcome.record with
  | ok record => exact ⟨fun _ => ⟨record, rfl⟩, fun _ => rfl⟩
  | error error =>
    constructor
    · intro none
      cases none
    · rintro ⟨record, same⟩
      cases same

/-- A run lists a failure for every file that fails. -/
theorem checkFiles_failures_eq_nil_iff (workspace : Workspace) (files : List Path) :
    (checkFiles plan currentYear workspace files).failures = [] ↔
      NoneFails plan currentYear workspace files := by
  induction files generalizing workspace with
  | nil =>
    constructor
    · intro _ earlier path later same
      cases earlier <;> cases same
    · exact fun _ => rfl
  | cons path others ih =>
    rw [noneFails_cons, ← ih, checkFiles, prepend_failures, List.append_eq_nil_iff,
      ← failure_eq_none_iff path, Option.toList_eq_nil_iff]

/-- When no file fails, the records of a run are compliant exactly when all files are
settled. The induction is on the files that are left, so the workspace before the run and the
one in which it goes on are told apart. -/
theorem checkFiles_isCompliant_iff {before middle : Workspace}
    (linkFree : middle.tree.LinkFree) (earlier : Evolved plan currentYear before middle)
    (files : List Path) (fine : NoneFails plan currentYear middle files) :
    (∀ made ∈ (checkFiles plan currentYear middle files).records, made.isCompliant = true) ↔
      ∀ path ∈ files,
        Settled plan before (checkFiles plan currentYear middle files).workspace path := by
  induction files generalizing middle with
  | nil => exact ⟨fun _ path member => (nomatch member), fun _ made member => (nomatch member)⟩
  | cons path others ih =>
    obtain ⟨⟨record, came⟩, rest⟩ := (noneFails_cons _ _ _).mp fine
    have checked := checkFile_checked middle plan currentYear path
    have step := checked.evolved
    have beyond := step.linkFree linkFree
    have first := Checked.isCompliant_iff linkFree earlier (came ▸ checked)
      (checkFiles_evolved others beyond)
    have behind := ih beyond
      (earlier.trans (earlier.outline.symm.linkFree linkFree) step) rest
    rw [checkFiles, prepend_workspace, prepend_records, List.forall_mem_append,
      List.forall_mem_cons, behind, ← first, Outcome.record?, came]
    simp only [Option.mem_toList, Option.mem_def]

/-! ## The whole run -/

/-- What the targets of a plan stand for. -/
def resolutionOf (workspace : Workspace) (plan : Plan) : Except Error Walk.Resolution :=
  match Walk.readPatterns plan.exclude with
  | .error error => .error error
  | .ok patterns => (Walk.resolve workspace .standard patterns plan.targets).value

/-- A run whose targets stand for something is the run over the files they stand for. -/
theorem run_eq_runResolved (currentYear : Nat) {workspace : Workspace}
    {resolution : Walk.Resolution}
    (found : resolutionOf workspace plan = .ok resolution) :
    (run workspace plan currentYear).workspace =
        (runResolved workspace plan currentYear resolution).workspace ∧
      (run workspace plan currentYear).report =
        (runResolved workspace plan currentYear resolution).report := by
  rw [resolutionOf] at found
  rw [run]
  cases read : Walk.readPatterns plan.exclude with
  | error error =>
    rw [read] at found
    cases found
  | ok patterns =>
    rw [read] at found
    dsimp only at found ⊢
    rw [found]
    exact ⟨rfl, rfl⟩

/-- A run with a report is a run over the files that its targets stand for. -/
theorem run_of_report {workspace : Workspace} {report : Report}
    (reported : (run workspace plan currentYear).report = .ok report) :
    ∃ resolution, resolutionOf workspace plan = .ok resolution ∧
      (run workspace plan currentYear).workspace =
        (checkFiles plan currentYear workspace resolution.files).workspace ∧
      report.records = (checkFiles plan currentYear workspace resolution.files).records ∧
      report.failures = resolution.missing.map missingFailure ++ resolution.failures ++
        (checkFiles plan currentYear workspace resolution.files).failures := by
  rw [run] at reported ⊢
  rw [resolutionOf]
  cases read : Walk.readPatterns plan.exclude with
  | error error =>
    rw [read] at reported
    cases reported
  | ok patterns =>
    rw [read] at reported
    dsimp only at reported ⊢
    cases found : (Walk.resolve workspace .standard patterns plan.targets).value with
    | error error =>
      rw [found] at reported
      cases reported
    | ok resolution =>
      rw [found] at reported
      cases reported
      exact ⟨resolution, rfl, rfl, rfl, rfl⟩

/-- **The exit code is sound and complete.** In a tree without links, a run ends with success
exactly when no target is missing, the search for files met no obstacle, no file failed, and
every file that had to carry the notice is on disk with a correct header after the run. In
every other case the code says that the check failed. -/
theorem exitCode_success_iff {workspace : Workspace} (linkFree : workspace.tree.LinkFree)
    {report : Report} (reported : (run workspace plan currentYear).report = .ok report) :
    ∃ resolution, resolutionOf workspace plan = .ok resolution ∧
      (report.exitCode = .success ↔
        resolution.missing = [] ∧ resolution.failures = [] ∧
          NoneFails plan currentYear workspace resolution.files ∧
          ∀ path ∈ resolution.files,
            Settled plan workspace (run workspace plan currentYear).workspace path) ∧
      (report.exitCode ≠ .success → report.exitCode = .checkFailed) := by
  obtain ⟨resolution, found, after, records, failures⟩ := run_of_report reported
  refine ⟨resolution, found, ?_, fun differs => ?_⟩
  · have passed : report.exitCode = .success ↔ report.passed = true := by
      rw [Report.exitCode]
      cases report.passed <;> simp
    rw [passed, Report.passed_iff, failures, records, after, List.append_eq_nil_iff,
      List.append_eq_nil_iff, List.map_eq_nil_iff, checkFiles_failures_eq_nil_iff]
    constructor
    · rintro ⟨⟨⟨missing, walked⟩, fine⟩, compliant⟩
      exact ⟨missing, walked, fine,
        (checkFiles_isCompliant_iff linkFree (.refl workspace) _ fine).mp compliant⟩
    · rintro ⟨missing, walked, fine, settled⟩
      exact ⟨⟨⟨missing, walked⟩, fine⟩,
        (checkFiles_isCompliant_iff linkFree (.refl workspace) _ fine).mpr settled⟩
  · rw [Report.exitCode] at differs ⊢
    split at differs
    · exact absurd rfl differs
    · rw [if_neg ‹_›]

/-- The theorem at a tree with a script that is fixed, though its name says nothing of its
kind, and with a file that is no script. The run ends with success. -/
theorem exitCode_success_iff_fixedScript :
    let tree : FileTree :=
      ⟨[([], .directory 0o755), ([['r', 'u', 'n']], .file 0o755 (Text.encode ['#', '!', 's', 'h'])),
        ([['t', 'x', 't']], .file 0o644 (Text.encode ['a']))], by decide⟩
    let workspace : Workspace := ⟨tree, .owner, []⟩
    let plan : Plan :=
      ⟨⟨['M', 'I', 'T'], ['A'], .any⟩, true, [⟨['t', 'x', 't']⟩, ⟨['r', 'u', 'n']⟩], [], 0, true⟩
    let report : Report := ⟨[⟨⟨['r', 'u', 'n']⟩, .shell, .absent, true⟩], [], ⟨2, 0, 0, 0⟩⟩
    (tree.LinkFree ∧ (run workspace plan 2026).report = .ok report) ∧
      report.exitCode = .success ∧
      ∃ resolution, resolutionOf workspace plan = .ok resolution ∧
        resolution.missing = [] ∧ resolution.failures = [] ∧
          NoneFails plan 2026 workspace resolution.files ∧
          ∀ path ∈ resolution.files,
            Settled plan workspace (run workspace plan 2026).workspace path := by
  intro tree workspace plan report
  have linkFree : tree.LinkFree := FileTree.linkFree_of_entries (by decide)
  have reported : (run workspace plan 2026).report = .ok report := by decide +kernel
  have succeeded : report.exitCode = .success := by decide
  obtain ⟨resolution, found, success, -⟩ := exitCode_success_iff linkFree reported
  exact ⟨⟨linkFree, reported⟩, succeeded, resolution, found, success.mp succeeded⟩

end Hygiene.Check
