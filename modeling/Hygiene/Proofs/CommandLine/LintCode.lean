import Hygiene.Launch
import Hygiene.Proofs.CommandLine.ExitCodes
import Hygiene.Proofs.Python.RuleByRule

/-!
# The lint of Python files

Once the setup is fine, the lint of Python files judges every file by itself. What a file adds to
the output and to the errors depends on the rules and on that file only (`Linted`), so the
findings of a list of files are those of its files in order, and a file that cannot be judged
takes nothing from the others.

Three things compete for the code: the findings, the errors, and the linter of the settings. The
linter comes first, whether it ends with a code, is ended by a signal, or is not started at all
(`LinterEnds`). Only when it has nothing to say does it count whether there is a finding or an
error (`runPython_spec`).
-/

set_option autoImplicit false

namespace Hygiene

/-! ## One file -/

namespace Python

variable {workspace : Workspace} {rules : List Rule} {path : Path}

/-- What the lint of one file comes to. -/
inductive Linted (workspace : Workspace) (rules : List Rule) (path : Path) : LintReport → Prop where
  /-- The file is judged. -/
  | judged {content : Text} {tree : Tree} {findings : List Finding}
      (text : (Content.readText workspace path).value = .ok content)
      (parsed : parse content = .ok tree) (found : judgeTree rules tree = .ok findings) :
      Linted workspace rules path ⟨findings.map fun finding => (path, finding), []⟩
  /-- The file cannot be read as a text. -/
  | unread {error : Error} (failed : (Content.readText workspace path).value = .error error) :
      Linted workspace rules path ⟨[], [error]⟩
  /-- The text in the file is no source. -/
  | unparsed {content : Text} {line : Nat}
      (text : (Content.readText workspace path).value = .ok content)
      (failed : parse content = .error line) :
      Linted workspace rules path ⟨[], [.lint path line "invalid syntax"]⟩
  /-- The source cannot be judged. -/
  | refused {content : Text} {tree : Tree} {refusal : Refusal}
      (text : (Content.readText workspace path).value = .ok content)
      (parsed : parse content = .ok tree) (failed : judgeTree rules tree = .error refusal) :
      Linted workspace rules path ⟨[], [.lint path refusal.line refusal.reason]⟩

/-- The lint of a file comes to one report. -/
theorem linted_iff (report : LintReport) :
    Linted workspace rules path report ↔ report = (lintFile workspace rules path).value := by
  rw [lintFile, Log.Told.bind_value, lintContent, Log.Told.bind_value, Log.Told.pure_value]
  constructor
  · rintro (⟨text, parsed, judged⟩ | ⟨failed⟩ | ⟨text, failed⟩ | ⟨text, parsed, failed⟩)
    · rw [text, Except.bind, lint, parsed]
      dsimp only
      rw [judged]
      rfl
    · rw [failed]
      rfl
    · rw [text, Except.bind, lint, failed]
      rfl
    · rw [text, Except.bind, lint, parsed]
      dsimp only
      rw [failed]
      rfl
  · rintro rfl
    cases text : (Content.readText workspace path).value with
    | error error => exact .unread text
    | ok content =>
      rw [Except.bind, lint]
      cases parsed : parse content with
      | error line => exact .unparsed text parsed
      | ok tree =>
        dsimp only
        cases judged : judgeTree rules tree with
        | error refusal => exact .refused text parsed judged
        | ok findings => exact .judged text parsed judged

/-- The findings in a tree are findings of the rules that are on. -/
theorem rule_mem_of_judgeTree {tree : Tree} {findings : List Finding} {finding : Finding}
    (judged : judgeTree rules tree = .ok findings) (made : finding ∈ findings) :
    finding.rule ∈ rules := by
  obtain ⟨disabled, -, -, rfl⟩ := (judgeTree_eq_ok_iff rules tree findings).mp judged
  rw [List.mem_mergeSort] at made
  obtain ⟨cursor, -, made⟩ := List.mem_flatMap.mp made
  obtain ⟨rule, listed, reported⟩ := List.mem_filterMap.mp made
  rw [(finding_fields reported).2.2]
  exact List.mem_of_mem_filter listed

/-- What is found in a file is found by a rule that is on, in this file. -/
theorem Linted.rule_mem {report : LintReport} (linted : Linted workspace rules path report) :
    ∀ found ∈ report.findings, found.1 = path ∧ found.2.rule ∈ rules := by
  cases linted with
  | judged _ _ judged =>
    intro found member
    obtain ⟨finding, made, rfl⟩ := List.mem_map.mp member
    exact ⟨rfl, rule_mem_of_judgeTree judged made⟩
  | unread | unparsed | refused => nofun

/-! ## All files -/

/-- There is something to complain of in files: a rule that is on finds something in one of
them, or one of them has an error. -/
def Complains (workspace : Workspace) (rules : List Rule) (files : List Path) : Prop :=
  ∃ file ∈ files, ∃ report, Linted workspace rules file report ∧
    ((∃ found ∈ report.findings, found.2.rule ∈ rules) ∨ report.errors ≠ [])

theorem complains_iff {files : List Path} :
    Complains workspace rules files ↔ ¬ (lintFiles workspace rules files).value.Clean := by
  rw [clean_lintFiles]
  constructor
  · rintro ⟨file, listed, report, linted, complaint⟩ clean
    obtain ⟨nothing, fine⟩ := clean file listed
    rw [(linted_iff report).mp linted] at complaint
    rcases complaint with ⟨found, member, -⟩ | wrong
    · rw [nothing] at member
      exact List.not_mem_nil member
    · exact wrong fine
  · intro complaint
    by_contra none
    refine complaint fun file listed => ?_
    have linted : Linted workspace rules file _ := (linted_iff _).mpr rfl
    constructor
    · refine List.eq_nil_iff_forall_not_mem.mpr fun found member => none ?_
      exact ⟨file, listed, _, linted, .inl ⟨found, member, (linted.rule_mem found member).2⟩⟩
    · by_contra wrong
      exact none ⟨file, listed, _, linted, .inr wrong⟩

/-- The code of the lint is that of a failed check when there is something to complain of. -/
theorem exitCode_lintFiles (workspace : Workspace) (rules : List Rule) (files : List Path) :
    (Complains workspace rules files →
        (lintFiles workspace rules files).value.exitCode = .checkFailed) ∧
      (¬ Complains workspace rules files →
        (lintFiles workspace rules files).value.exitCode = .success) := by
  rw [complains_iff, not_not, LintReport.clean_iff_isEmpty, LintReport.exitCode]
  exact ⟨fun complains => if_neg complains, fun passes => if_pos passes⟩

/-! ## The linter -/

/-- How the linter that the settings name ends on files, as a result that is added to that of
the rules. -/
inductive LinterEnds (launch : Launch.Launcher) (settings : Config.LinterSettings)
    (files : List Path) : LinterResult → Prop where
  /-- No linter is named, or there are no files for it. -/
  | unasked (idle : settings.command = [] ∨ files = []) :
      LinterEnds launch settings files ⟨0, [], []⟩
  /-- The linter ends with a code. -/
  | exited {program output errors : Text} {leading : List Text} {code : Nat}
      (command : settings.command = program :: leading) (given : files ≠ [])
      (ran : launch ⟨program, leading ++ settings.arguments ++ files.map Path.spelling⟩ =
        .ok ⟨.exited code, output, errors⟩) :
      LinterEnds launch settings files ⟨code, output, errors⟩
  /-- A signal ends the linter. -/
  | killed {program output errors : Text} {leading : List Text}
      (command : settings.command = program :: leading) (given : files ≠ [])
      (ran : launch ⟨program, leading ++ settings.arguments ++ files.map Path.spelling⟩ =
        .ok ⟨.killed, output, errors⟩) :
      LinterEnds launch settings files ⟨3, output, errors⟩
  /-- The linter cannot be started, which is told as an error. -/
  | unstarted {program : Text} {leading : List Text} {error : SystemError}
      (command : settings.command = program :: leading) (given : files ≠ [])
      (failed : launch ⟨program, leading ++ settings.arguments ++ files.map Path.spelling⟩ =
        .error error) :
      LinterEnds launch settings files ⟨2, [], (CommandLine.written [CommandLine.errorLine .python
        (.linter (String.ofList program) (.system error))]).toList⟩

end Python

namespace CommandLine

/-- The result of a program with that of the linter added. -/
def Result.withLinter (result : Result) (linted : Python.LinterResult) : Result where
  workspace := result.workspace
  output := result.output ++ String.ofList linted.output
  errors := result.errors ++ String.ofList linted.errors
  code := if linted.code = 0 then result.code else linted.code

/-- The result of the lint before the linter is run. -/
def resultOf (workspace : Workspace) (warnings : List String) (report : Python.LintReport) :
    Result where
  workspace := workspace
  output := written (report.findings.map fun (path, finding) => finding.display path)
  errors := written (warnings ++ report.errors.map (errorLine .python))
  code := report.exitCode.toNat

theorem finishWithLinter_spec (environment : Environment) (result : Result)
    (settings : Config.LinterSettings) (files : List Path) :
    ∃ linted, Python.LinterEnds environment.launch settings files linted ∧
      finishWithLinter environment result (Python.linterFor? settings files) =
        result.withLinter linted := by
  have idle : finishWithLinter environment result none = result.withLinter ⟨0, [], []⟩ := by
    simp [finishWithLinter, Result.withLinter]
  cases command : settings.command with
  | nil =>
    rw [linterFor_of_noCommand command]
    exact ⟨_, .unasked (.inl command), idle⟩
  | cons program leading =>
    cases files with
    | nil =>
      rw [Python.linterFor?.eq_def, command]
      exact ⟨_, .unasked (.inr rfl), idle⟩
    | cons file files =>
      rw [Python.linterFor?.eq_def, command, finishWithLinter, Python.runLinter,
        Log.Told.bind_value]
      cases ran : environment.launch
          ⟨program, leading ++ settings.arguments ++ (file :: files).map Path.spelling⟩ with
      | error error =>
        refine ⟨_, .unstarted command (List.cons_ne_nil _ _) ran, ?_⟩
        rw [Result.withLinter, String.ofList_toList, String.ofList_nil, String.append_empty]
        rfl
      | ok execution =>
        obtain ⟨ending, output, errors⟩ := execution
        cases ending with
        | exited code => exact ⟨_, .exited command (List.cons_ne_nil _ _) ran, rfl⟩
        | killed => exact ⟨_, .killed command (List.cons_ne_nil _ _) ran, rfl⟩

/-! ## The whole program -/

/-- The lines that warn of the settings. -/
def settingsWarnings [Toml.Words] (workspace : Workspace) (asked : Option Path) : List String :=
  match Config.choose workspace asked with
  | .ok file => (Config.load workspace file).warnings
  | .error _ => []

theorem withSettings_of_loaded [Toml.Words] {workspace : Workspace} {asked : Option Path}
    {settings : Config.Settings} (loaded : Config.loaded workspace asked = .ok settings)
    (program : Program) (next : Config.Settings → List String → Result) :
    withSettings program workspace asked next =
      next settings (settingsWarnings workspace asked) := by
  rw [Config.loaded] at loaded
  obtain ⟨file, chosen, read⟩ := bind_eq_ok loaded
  rw [withSettings, settingsWarnings, chosen]
  dsimp only
  rw [read]

variable {workspace : Workspace} {environment : Environment} {found : Matches}
  {settings : Config.Settings} {words : List Text}

/-- With settings and with rules, the files are linted, and the linter has the last word. -/
theorem runPython_eq [Toml.Words] (arguments : PythonArguments) {rules : List Python.Rule}
    (loaded : Config.loaded workspace arguments.settingsFile = .ok settings)
    (selected : Python.Rule.select arguments.included arguments.ignored = .ok rules) :
    runPython workspace environment arguments =
      finishWithLinter environment
        (resultOf workspace (settingsWarnings workspace arguments.settingsFile)
          (Python.lintFiles workspace rules arguments.files).value)
        (Python.linterFor? settings.linter arguments.files) := by
  rw [runPython, withSettings_of_loaded loaded, selected]
  rfl

/-- **What the lint of Python files writes and with which code it ends.** Let the command line
be accepted, let there be settings, and let every rule exist that is to be included. Then each
file comes to a report of its own, and in the order of the files their findings go to the output
and their errors to where errors are written. The linter adds what it writes. When its code is not
zero it is the code of the program, where a linter that a signal ends has the code three and one
that is not started has the code two. Otherwise the code is one when a rule that is on finds
something in one of the files or one of them has an error, and zero when there is nothing. -/
theorem runPython_spec [Toml.Words]
    (accepted : Program.python.read environment.settingsFile words = .ok found)
    (loaded : Config.loaded workspace found.settingsFile? = .ok settings)
    (known : ∀ name ∈ Python.Rule.names (found.values "include"),
      Python.Rule.ofName? name ≠ none) :
    let files := found.operands.map Path.mk
    ∃ (rules : List Python.Rule) (report : Path → Python.LintReport)
        (linted : Python.LinterResult) (result : Result),
      Python.Rule.select (found.values "include") (found.values "ignore") = .ok rules ∧
      (∀ file, Python.Linted workspace rules file (report file)) ∧
      Python.LinterEnds environment.launch settings.linter files linted ∧
      run workspace environment .python words = .ok result ∧
      result.workspace = workspace ∧
      result.output =
        written ((files.flatMap fun file => (report file).findings).map fun (path, finding) =>
          finding.display path) ++ String.ofList linted.output ∧
      result.errors =
        written (settingsWarnings workspace found.settingsFile? ++
          (files.flatMap fun file => (report file).errors).map (errorLine .python)) ++
        String.ofList linted.errors ∧
      (linted.code ≠ 0 → result.code = linted.code) ∧
      (linted.code = 0 →
        (Python.Complains workspace rules files → result.code = 1) ∧
        (¬ Python.Complains workspace rules files → result.code = 0)) := by
  intro files
  rcases select_cases (found.values "include") (found.values "ignore") with
    ⟨rules, selected, -⟩ | ⟨error, -, -, name, listed, unknown⟩
  · -- Without the linter, the result is that of the report on the files.
    have plain := Python.lintFiles_value workspace rules files
    obtain ⟨linted, ends, finished⟩ := finishWithLinter_spec environment
      (resultOf workspace (settingsWarnings workspace found.settingsFile?)
        (Python.lintFiles workspace rules files).value) settings.linter files
    have made : run workspace environment .python words = .ok (Result.withLinter
        (resultOf workspace (settingsWarnings workspace found.settingsFile?)
          (Python.lintFiles workspace rules files).value) linted) := by
      rw [← finished, run, accepted]
      exact congrArg Except.ok (runPython_eq (.ofMatches found) loaded selected)
    obtain ⟨fails, passes⟩ := Python.exitCode_lintFiles workspace rules files
    rw [plain] at fails passes made
    refine ⟨rules, fun file => (Python.lintFile workspace rules file).value, linted, _, selected,
      fun file => (Python.linted_iff _).mpr rfl, ends, made, rfl, rfl, rfl,
      fun first => if_neg first, fun quiet => ⟨fun complains => ?_, fun none => ?_⟩⟩
    · exact (if_pos quiet).trans (congrArg ExitCode.toNat (fails complains))
    · exact (if_pos quiet).trans (congrArg ExitCode.toNat (passes none))
  · exact absurd unknown (known name listed)

/-- The theorem at a file that is not there and a script as a linter that a signal ends: the code
is that of the linter. -/
theorem runPython_spec_killed :
    let settings := "version = 1\n[python]\ncommand = [\"sh\", \"-c\", \"kill $$\"]\n".toList
    let tree : FileTree :=
      ⟨[([], .directory 0o755), (["sigoptlint.toml".toList], .file 0o644 (Text.encode settings))],
        by simp⟩
    let workspace : Workspace := ⟨tree, .owner, []⟩
    let environment : Environment :=
      ⟨none, ⟨false, false, false, false⟩, 2026, Launch.start workspace⟩
    ∃ result, run workspace environment .python ["a.py".toList] = .ok result ∧
      result.workspace = workspace ∧ result.code = 3 := by
  intro settings tree workspace environment
  have accepted : Program.python.read environment.settingsFile ["a.py".toList] =
      .ok ⟨[], ["a.py".toList]⟩ := by decide +kernel
  have loaded : Config.loaded workspace none =
      .ok ⟨1, .empty, ⟨["sh".toList, "-c".toList, "kill $$".toList], []⟩⟩ := by decide +kernel
  have killed : environment.launch
      ⟨"sh".toList, ["-c".toList, "kill $$".toList, "a.py".toList]⟩ = .ok ⟨.killed, [], []⟩ := by
    decide +kernel
  obtain ⟨_, _, linted, result, -, -, ends, made, unchanged, -, -, first, -⟩ :=
    runPython_spec accepted loaded (by decide +kernel)
  refine ⟨result, made, unchanged, ?_⟩
  cases ends with
  | unasked idle => simp at idle
  | exited command _ ran =>
    cases command
    cases killed.symm.trans ran
  | killed => exact first (Nat.succ_ne_zero 2)
  | unstarted command _ failed =>
    cases command
    cases killed.symm.trans failed

end CommandLine

end Hygiene
