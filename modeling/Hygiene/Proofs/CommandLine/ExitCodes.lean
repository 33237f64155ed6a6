import Hygiene.Launch
import Hygiene.Proofs.CommandLine.Setup

/-!
# What the code of a program says

A program that refuses nothing of its command line ends with the code two when its setup is at
fault, writes nothing to its output then, and changes nothing. There is one exception, a
settings file that is there and cannot be read as a text, which ends the program with the code
one as if a check had found something (`run_exitCode`). Without a fault of the setup, and
without a linter that is run on top, the code is one exactly when the check was made and found
something to complain of, and zero otherwise.
-/

set_option autoImplicit false

namespace Hygiene

/-! ## Values that are told -/

theorem Log.Told.mapM_loop_value {α β : Type} (told : α → Told β) (items : List α)
    (found : List β) :
    (List.mapM.loop told items found).value =
      found.reverse ++ items.map fun item => (told item).value := by
  induction items generalizing found with
  | nil => simp [List.mapM.loop]
  | cons item items ih =>
    rw [List.mapM.loop, Log.Told.bind_value, ih]
    simp

theorem Log.Told.mapM_value {α β : Type} (told : α → Told β) (items : List α) :
    (items.mapM told).value = items.map fun item => (told item).value :=
  mapM_loop_value told items []

/-! ## Reports on several files -/

namespace Python

/-- What is found in files, one file after the other. -/
theorem foldr_append_reports (reports : List LintReport) :
    reports.foldr LintReport.append .empty =
      ⟨reports.flatMap LintReport.findings, reports.flatMap LintReport.errors⟩ := by
  induction reports with
  | nil => rfl
  | cons report others ih =>
    rw [List.foldr_cons, ih, LintReport.append, List.flatMap_cons, List.flatMap_cons]

theorem lintFiles_value (workspace : Workspace) (rules : List Rule) (files : List Path) :
    (lintFiles workspace rules files).value =
      ⟨files.flatMap fun file => (lintFile workspace rules file).value.findings,
        files.flatMap fun file => (lintFile workspace rules file).value.errors⟩ := by
  rw [lintFiles, Log.Told.bind_value, Log.Told.pure_value, Log.Told.mapM_value,
    foldr_append_reports, List.flatMap_map, List.flatMap_map]

/-- A report that complains of nothing. -/
def LintReport.Clean (report : LintReport) : Prop :=
  report.findings = [] ∧ report.errors = []

theorem LintReport.clean_iff_isEmpty (report : LintReport) :
    report.Clean ↔ (report.findings.isEmpty && report.errors.isEmpty) = true := by
  rw [Clean, Bool.and_eq_true, List.isEmpty_iff, List.isEmpty_iff]

/-- The report on files complains of nothing when no report on one of them does. -/
theorem clean_lintFiles (workspace : Workspace) (rules : List Rule) (files : List Path) :
    (lintFiles workspace rules files).value.Clean ↔
      ∀ file ∈ files, (lintFile workspace rules file).value.Clean := by
  rw [lintFiles_value, LintReport.Clean, List.flatMap_eq_nil_iff, List.flatMap_eq_nil_iff,
    ← forall₂_and]
  rfl

end Python

namespace CommandLine

/-! ## Faults of the setup -/

/-- What can be at fault before a program looks at its targets. -/
inductive SetupFault [Toml.Words] (workspace : Workspace) (found : Matches) : Program → Prop where
  /-- The settings file is not found, cannot be read, or does not hold settings. -/
  | settings {program : Program} (fault : Config.LoadFault workspace found.settingsFile?) :
      SetupFault workspace found program
  /-- The license is missing or blank. -/
  | license {settings : Config.Settings}
      (loaded : Config.loaded workspace found.settingsFile? = .ok settings)
      (wanting : Wanting ((found.value? "license").or settings.header.license)) :
      SetupFault workspace found .header
  /-- The owner is missing or blank. -/
  | owner {settings : Config.Settings}
      (loaded : Config.loaded workspace found.settingsFile? = .ok settings)
      (wanting : Wanting ((found.value? "owner").or settings.header.owner)) :
      SetupFault workspace found .header
  /-- A pattern by which paths are excluded cannot be read. -/
  | exclusion {settings : Config.Settings} {text : Text}
      (loaded : Config.loaded workspace found.settingsFile? = .ok settings)
      (listed : text ∈ settings.header.exclude ++ found.values "exclude")
      (wrong : Walk.BadPattern text) : SetupFault workspace found .header
  /-- A target is a pattern that cannot be read. -/
  | target {target : Text} (listed : target ∈ found.operands)
      (wrong : Walk.BadTarget workspace ⟨target⟩) : SetupFault workspace found .header
  /-- No rule has a name that is included. -/
  | rule {name : Text} (listed : name ∈ Python.Rule.names (found.values "include"))
      (unknown : Python.Rule.ofName? name = none) : SetupFault workspace found .python

/-! ## What a check complains of -/

/-- A script cannot be read, or it lacks a directive. -/
def ScriptFails (workspace : Workspace) (path : Path) : Prop :=
  ∀ content, (Content.readText workspace path).value = .ok content →
    Shell.missingDirectives content ≠ []

/-- A source cannot be read or judged, or a rule finds something in it. -/
def SourceFails (workspace : Workspace) (rules : List Python.Rule) (path : Path) : Prop :=
  ∀ content, (Content.readText workspace path).value = .ok content →
    Python.lint rules content ≠ .ok []

/-- The check of a program was made, and it found something to complain of. -/
def Finds (workspace : Workspace) (environment : Environment) (found : Matches)
    (settings : Config.Settings) : Program → Prop
  | .header => ∃ plan report,
      (HeaderArguments.ofMatches found).plan settings.header = .ok plan ∧
      (Check.run workspace plan environment.currentYear).report = .ok report ∧
      (report.failures ≠ [] ∨ ∃ record ∈ report.records, record.isCompliant = false)
  | .shell => ∃ file ∈ found.operands, ScriptFails workspace ⟨file⟩
  | .python => ∃ rules,
      Python.Rule.select (found.values "include") (found.values "ignore") = .ok rules ∧
      ∃ file ∈ found.operands, SourceFails workspace rules ⟨file⟩

/-! ## The end of a program -/

/-- A result without output and without a change, with a given code. -/
structure Stops (workspace : Workspace) (code : ExitCode) (result : Result) : Prop where
  silent : result.output = ""
  unchanged : result.workspace = workspace
  code : result.code = code.toNat

theorem ended_stops (program : Program) (workspace : Workspace) (lines : List String)
    (error : Error) :
    Stops workspace error.exitCode (ended program workspace lines error) :=
  ⟨rfl, rfl, rfl⟩

/-- A program goes on with the settings that are loaded, or an error ends it. -/
theorem withSettings_cases [Toml.Words] (program : Program) (workspace : Workspace)
    (asked : Option Path) (next : Config.Settings → List String → Result) :
    (∃ settings warnings, Config.loaded workspace asked = .ok settings ∧
        withSettings program workspace asked next = next settings warnings) ∨
      ∃ error, Config.loaded workspace asked = .error error ∧
        Stops workspace error.exitCode (withSettings program workspace asked next) := by
  rw [withSettings, Config.loaded]
  cases Config.choose workspace asked with
  | error error => exact .inr ⟨error, rfl, ended_stops program workspace [] error⟩
  | ok file =>
    simp only [Except.bind]
    cases (Config.load workspace file).settings with
    | error error => exact .inr ⟨error, rfl, ended_stops program workspace _ error⟩
    | ok settings => exact .inl ⟨settings, _, rfl, rfl⟩

/-- How a program ends that refuses nothing of its command line. -/
inductive Ends [Toml.Words] (workspace : Workspace) (environment : Environment)
    (found : Matches) (program : Program) (result : Result) : Prop where
  /-- There are no settings. -/
  | unloaded {error : Error}
      (failed : Config.loaded workspace found.settingsFile? = .error error)
      (stops : Stops workspace error.exitCode result)
  /-- The settings are loaded, and something else is at fault. -/
  | faulty {settings : Config.Settings}
      (loaded : Config.loaded workspace found.settingsFile? = .ok settings)
      (fault : SetupFault workspace found program) (stops : Stops workspace .configError result)
  /-- The check is made. -/
  | checked {settings : Config.Settings}
      (loaded : Config.loaded workspace found.settingsFile? = .ok settings)
      (fine : ¬ SetupFault workspace found program)
      (complains : settings.linter.command = [] →
        Finds workspace environment found settings program → result.code = 1)
      (passes : settings.linter.command = [] →
        ¬ Finds workspace environment found settings program → result.code = 0)

variable (workspace : Workspace) (environment : Environment) (found : Matches)

/-! ## The check of headers -/

theorem exitCode_of_fails {report : Report}
    (fails : report.failures ≠ [] ∨ ∃ record ∈ report.records, record.isCompliant = false) :
    report.exitCode.toNat = 1 := by
  rw [Report.exitCode, if_neg]
  · rfl
  · rw [Report.passed_iff]
    rintro ⟨none, compliant⟩
    rcases fails with some | ⟨record, member, differs⟩
    · exact some none
    · rw [compliant record member] at differs
      cases differs

theorem exitCode_of_passes {report : Report}
    (passes : ¬ (report.failures ≠ [] ∨ ∃ record ∈ report.records, record.isCompliant = false)) :
    report.exitCode.toNat = 0 := by
  rw [Report.exitCode, if_pos]
  · rfl
  · rw [Report.passed_iff]
    simpa using passes

/-- The code of a check with a report is that of the report, unless this cannot be written. -/
theorem reported_code {π : Type} [Spelled π] (lines : List String) (format : Format)
    (colored : Bool) (report : Report π) :
    (format = .text ∨ report.IsText →
        (reported workspace lines format colored report).code = report.exitCode.toNat) ∧
      (format = .json → ¬ report.IsText →
        (reported workspace lines format colored report).code = 3 ∧
          (reported workspace lines format colored report).output = "") := by
  rw [reported]
  cases format with
  | text => exact ⟨fun _ => rfl, nofun⟩
  | json =>
    rw [showReport]
    refine ⟨fun written => ?_, fun _ broken => ?_⟩
    · rw [Report.writeJson_of_isText (written.resolve_left nofun)]
    · obtain ⟨message, failed⟩ := Report.writeJson_of_not_isText broken
      rw [failed]
      exact ⟨rfl, rfl⟩

/-- A plan whose patterns can be read is made of a setup without faults. -/
theorem not_setupFault_header [Toml.Words] {settings : Config.Settings} {plan : Check.Plan}
    (loaded : Config.loaded workspace found.settingsFile? = .ok settings)
    (planned : Planned (.ofMatches found) settings.header plan)
    (fine : ¬ Check.BadPatterns workspace plan) : ¬ SetupFault workspace found .header := by
  have same {other : Config.Settings}
      (again : Config.loaded workspace found.settingsFile? = .ok other) : other = settings := by
    rw [loaded, Except.ok.injEq] at again
    exact again.symm
  intro fault
  cases fault with
  | settings fault => exact Config.not_loadFault loaded fault
  | license again wanting =>
    rw [same again] at wanting
    exact planned.not_wanting (.inl wanting)
  | owner again wanting =>
    rw [same again] at wanting
    exact planned.not_wanting (.inr wanting)
  | exclusion again listed wrong =>
    rw [same again] at listed
    exact fine (.inl ⟨_, planned.exclude ▸ listed, wrong⟩)
  | target listed wrong =>
    exact fine (.inr ⟨_, planned.targets ▸ List.mem_map_of_mem listed, wrong⟩)

/-- A pattern of a plan that cannot be read is a fault of the setup. -/
theorem setupFault_of_badPatterns [Toml.Words] {settings : Config.Settings} {plan : Check.Plan}
    (loaded : Config.loaded workspace found.settingsFile? = .ok settings)
    (planned : Planned (.ofMatches found) settings.header plan)
    (bad : Check.BadPatterns workspace plan) : SetupFault workspace found .header := by
  rcases bad with ⟨text, listed, wrong⟩ | ⟨target, listed, wrong⟩
  · rw [planned.exclude] at listed
    exact .exclusion loaded listed wrong
  · rw [planned.targets] at listed
    obtain ⟨operand, given, rfl⟩ := List.mem_map.mp listed
    exact .target given wrong

theorem runHeader_ends [Toml.Words] :
    Ends workspace environment found .header
      (runHeader workspace environment (.ofMatches found)) := by
  rw [runHeader]
  rcases withSettings_cases .header workspace found.settingsFile? _ with
    ⟨settings, warnings, loaded, same⟩ | ⟨error, failed, stops⟩
  · rw [show (HeaderArguments.ofMatches found).settingsFile = found.settingsFile? from rfl, same]
    cases made : (HeaderArguments.ofMatches found).plan settings.header with
    | error error =>
      obtain ⟨code, wanting⟩ := plan_eq_error made
      have stops := ended_stops .header workspace warnings error
      rw [code] at stops
      refine .faulty loaded ?_ stops
      rcases wanting with license | owner
      · exact .license loaded license
      · exact .owner loaded owner
    | ok plan =>
      have planned := plan_eq_ok made
      rcases Check.report_cases workspace plan environment.currentYear with
        ⟨report, told, fine⟩ | ⟨error, failed, code, unchanged, bad⟩
      · dsimp only
        rw [told]
        -- Every path of this report is a text, so the report is written.
        have code {lines : List String} {format : Format} {colored : Bool} {after : Workspace} :
            (reported after lines format colored report).code = report.exitCode.toNat :=
          (reported_code after lines format colored report).1 (.inr report.isText)
        refine .checked loaded (not_setupFault_header workspace found loaded planned fine) ?_ ?_
        · rintro - ⟨other, shown, again, reports, fails⟩
          rw [made, Except.ok.injEq] at again
          subst again
          rw [told, Except.ok.injEq] at reports
          subst reports
          exact code.trans (exitCode_of_fails fails)
        · intro _ none
          refine code.trans (exitCode_of_passes fun fails => none ?_)
          exact ⟨plan, report, made, told, fails⟩
      · dsimp only
        rw [failed]
        refine .faulty loaded (setupFault_of_badPatterns workspace found loaded planned bad) ?_
        exact ⟨rfl, unchanged, congrArg ExitCode.toNat code⟩
  · exact .unloaded failed stops

/-! ## The lint of shell scripts -/

/-- The complaints about a script are none just when it does not fail. -/
theorem lintFile_eq_nil_iff (path : Path) :
    (Shell.lintFile workspace path).value = [] ↔ ¬ ScriptFails workspace path := by
  rw [Shell.lintFile, Log.Told.bind_value, ScriptFails]
  cases (Content.readText workspace path).value with
  | error error => simp
  | ok content => simp

/-- The complaints about the files are none just when there is nothing to find. -/
theorem lintFiles_eq_nil_iff (settings : Config.Settings) :
    (Shell.lintFiles workspace (ShellArguments.ofMatches found).files).value = [] ↔
      ¬ Finds workspace environment found settings .shell := by
  rw [Shell.lintFiles, Log.Told.bind_value, Log.Told.pure_value, Log.Told.mapM_value,
    List.flatten_eq_nil_iff]
  simp [ShellArguments.ofMatches, Finds, lintFile_eq_nil_iff]

theorem runShell_ends [Toml.Words] :
    Ends workspace environment found .shell (runShell workspace (.ofMatches found)) := by
  rw [runShell]
  rcases withSettings_cases .shell workspace found.settingsFile? _ with
    ⟨settings, warnings, loaded, same⟩ | ⟨error, failed, stops⟩
  · rw [show (ShellArguments.ofMatches found).settingsFile = found.settingsFile? from rfl, same]
    have fine : ¬ SetupFault workspace found .shell := by
      intro fault
      cases fault with
      | settings fault => exact Config.not_loadFault loaded fault
    have none := lintFiles_eq_nil_iff workspace environment found settings
    refine .checked loaded fine (fun _ finds => ?_) (fun _ passes => ?_)
    · dsimp only
      rw [Shell.exitCode, if_neg]
      · rfl
      · rw [List.isEmpty_iff, none]
        exact fun passes => passes finds
    · dsimp only
      rw [Shell.exitCode, if_pos]
      · rfl
      · rw [List.isEmpty_iff, none]
        exact passes
  · exact .unloaded failed stops

/-! ## The lint of Python files -/

/-- Rules are selected unless a name to include is unknown. -/
theorem select_cases (included ignored : List Text) :
    (∃ rules, Python.Rule.select included ignored = .ok rules ∧
        ∀ name ∈ Python.Rule.names included, Python.Rule.ofName? name ≠ none) ∨
      ∃ error, Python.Rule.select included ignored = .error error ∧
        error.exitCode = .configError ∧
        ∃ name ∈ Python.Rule.names included, Python.Rule.ofName? name = none := by
  rw [Python.Rule.select]
  cases searched : (Python.Rule.names included).find? fun name =>
      (Python.Rule.ofName? name).isNone with
  | none => exact .inl ⟨_, rfl, by simpa using List.find?_eq_none.mp searched⟩
  | some name =>
    exact .inr ⟨_, rfl, rfl, name, List.mem_of_find?_eq_some searched, by
      simpa using List.find?_some searched⟩

/-- The report on a source complains of nothing just when the source does not fail. -/
theorem clean_lintFile_iff (rules : List Python.Rule) (path : Path) :
    (Python.lintFile workspace rules path).value.Clean ↔
      ¬ SourceFails workspace rules path := by
  rw [Python.lintFile, Log.Told.bind_value, Python.lintContent, SourceFails]
  simp only [Log.Told.bind_value, Log.Told.pure_value]
  cases (Content.readText workspace path).value with
  | error error => simp [Except.bind, Python.LintReport.Clean]
  | ok content =>
    simp only [Except.bind]
    cases judged : Python.lint rules content with
    | error refusal =>
      change Python.LintReport.Clean ⟨[], [refusal.error path]⟩ ↔ _
      simp [Python.LintReport.Clean, judged]
    | ok findings =>
      change Python.LintReport.Clean ⟨findings.map fun finding => (path, finding), []⟩ ↔ _
      simp [Python.LintReport.Clean, judged]

/-- The report on the files complains of nothing just when there is nothing to find. -/
theorem clean_lintFiles_iff {rules : List Python.Rule}
    (selected : Python.Rule.select (found.values "include") (found.values "ignore") = .ok rules)
    (settings : Config.Settings) :
    (Python.lintFiles workspace rules (PythonArguments.ofMatches found).files).value.Clean ↔
      ¬ Finds workspace environment found settings .python := by
  rw [Python.clean_lintFiles]
  simp [PythonArguments.ofMatches, Finds, clean_lintFile_iff, selected]

theorem linterFor_of_noCommand {settings : Config.LinterSettings} (unset : settings.command = [])
    (files : List Path) : Python.linterFor? settings files = none := by
  rw [Python.linterFor?.eq_def, unset]

theorem runPython_ends [Toml.Words] :
    Ends workspace environment found .python
      (runPython workspace environment (.ofMatches found)) := by
  rw [runPython]
  rcases withSettings_cases .python workspace found.settingsFile? _ with
    ⟨settings, warnings, loaded, same⟩ | ⟨error, failed, stops⟩
  · rw [show (PythonArguments.ofMatches found).settingsFile = found.settingsFile? from rfl, same]
    rcases select_cases (found.values "include") (found.values "ignore") with
      ⟨rules, selected, known⟩ | ⟨error, failed, code, name, listed, unknown⟩
    · have fine : ¬ SetupFault workspace found .python := by
        intro fault
        cases fault with
        | settings fault => exact Config.not_loadFault loaded fault
        | rule listed unknown => exact known _ listed unknown
      have clean := clean_lintFiles_iff workspace environment found selected settings
      rw [Python.LintReport.clean_iff_isEmpty] at clean
      rw [show Python.Rule.select (PythonArguments.ofMatches found).included
        (PythonArguments.ofMatches found).ignored = .ok rules from selected]
      dsimp only
      refine .checked loaded fine (fun unset finds => ?_) (fun unset passes => ?_)
      · rw [linterFor_of_noCommand unset, finishWithLinter]
        dsimp only
        rw [Python.LintReport.exitCode, if_neg]
        · rfl
        · exact fun empty => clean.mp empty finds
      · rw [linterFor_of_noCommand unset, finishWithLinter]
        dsimp only
        rw [Python.LintReport.exitCode, if_pos]
        · rfl
        · exact clean.mpr passes
    · rw [show Python.Rule.select (PythonArguments.ofMatches found).included
        (PythonArguments.ofMatches found).ignored = .error error from failed]
      have stops := ended_stops .python workspace warnings error
      rw [code] at stops
      exact .faulty loaded (.rule listed unknown) stops
  · exact .unloaded failed stops

/-! ## All programs -/

theorem run_ends [Toml.Words] {program : Program} {words : List Text}
    (accepted : program.read environment.settingsFile words = .ok found) :
    ∃ result, run workspace environment program words = .ok result ∧
      Ends workspace environment found program result := by
  rw [run, accepted]
  cases program with
  | header => exact ⟨_, rfl, runHeader_ends workspace environment found⟩
  | shell => exact ⟨_, rfl, runShell_ends workspace environment found⟩
  | python => exact ⟨_, rfl, runPython_ends workspace environment found⟩

variable {workspace environment found}

/-- **What the code of a program says.** A program that refuses nothing of its command line
comes to a result. When its setup is at fault it writes nothing to its output, changes nothing,
and ends with the code two, or with the code one when there is a settings file that cannot be
read as a text. When nothing is at fault there are settings, and unless they name a linter to
run on top, the code is one if the check found something to complain of, and zero if not. All
paths here are texts, so there is no report that cannot be written. -/
theorem run_exitCode [Toml.Words] {program : Program} {words : List Text}
    (accepted : program.read environment.settingsFile words = .ok found) :
    ∃ result, run workspace environment program words = .ok result ∧
      (SetupFault workspace found program →
        result.output = "" ∧ result.workspace = workspace ∧
        (Config.Unreadable workspace found.settingsFile? → result.code = 1) ∧
        (¬ Config.Unreadable workspace found.settingsFile? → result.code = 2)) ∧
      (¬ SetupFault workspace found program →
        ∃ settings, Config.loaded workspace found.settingsFile? = .ok settings ∧
          (settings.linter.command = [] →
            (Finds workspace environment found settings program → result.code = 1) ∧
            (¬ Finds workspace environment found settings program → result.code = 0))) := by
  obtain ⟨result, made, ends⟩ := run_ends workspace environment found accepted
  refine ⟨result, made, fun fault => ?_, fun fine => ?_⟩
  · cases ends with
    | unloaded failed stops =>
      obtain ⟨-, unread, read⟩ := Config.loaded_eq_error failed
      refine ⟨stops.silent, stops.unchanged, fun found => ?_, fun found => ?_⟩
      · rw [stops.code, unread found]
        rfl
      · rw [stops.code, read found]
        rfl
    | faulty loaded _ stops =>
      exact ⟨stops.silent, stops.unchanged,
        fun unread => absurd (.unreadable unread) (Config.not_loadFault loaded),
        fun _ => stops.code⟩
    | checked _ fine => exact absurd fault fine
  · cases ends with
    | unloaded failed => exact absurd (.settings (Config.loaded_eq_error failed).1) fine
    | faulty _ fault => exact absurd fault fine
    | checked loaded _ complains passes =>
      exact ⟨_, loaded, fun unset => ⟨complains unset, passes unset⟩⟩

/-- The theorem at an included name that no rule has, without a settings file. -/
theorem run_exitCode_unknownRule :
    let tree : FileTree := ⟨[([], .directory 0o755)], by decide⟩
    let workspace : Workspace := ⟨tree, .owner, []⟩
    let environment : Environment :=
      ⟨none, ⟨false, false, false, false⟩, 2026, fun _ => .error .notFound⟩
    let words := ["--include=Spelling".toList, "a.py".toList]
    let found : Matches := ⟨[("include".toList, ["Spelling".toList])], ["a.py".toList]⟩
    Program.python.read none words = .ok found ∧ SetupFault workspace found .python ∧
      ∃ result, run workspace environment .python words = .ok result ∧
        result.output = "" ∧ result.workspace = workspace ∧ result.code = 2 := by
  intro tree workspace environment words found
  have accepted : Program.python.read environment.settingsFile words = .ok found := by
    decide +kernel
  have fault : SetupFault workspace found .python := by
    have unknown : "Spelling".toList ∈ Python.Rule.names (found.values "include") ∧
        Python.Rule.ofName? "Spelling".toList = none := by decide +kernel
    exact .rule unknown.1 unknown.2
  have chosen : Config.choose workspace found.settingsFile? = .ok none := by decide +kernel
  have read : ¬ Config.Unreadable workspace found.settingsFile? := by
    rintro ⟨path, error, other, -⟩
    rw [chosen] at other
    cases other
  obtain ⟨result, made, stops, -⟩ :
      ∃ result, run workspace environment .python words = .ok result ∧ _ ∧ _ :=
    run_exitCode accepted
  obtain ⟨silent, unchanged, -, code⟩ := stops fault
  exact ⟨accepted, fault, result, made, silent, unchanged, code read⟩

/-- A settings file whose bytes are no text is a fault of the setup, and the program ends with
the code of a check that found something. -/
theorem undecodableSettings_exitCode :
    let tree : FileTree :=
      ⟨[([], .directory 0o755),
        (["sigoptlint.toml".toList], .file 0o644 (ByteArray.mk #[255])),
        (["a.sh".toList], .file 0o644 (Text.encode []))], by decide⟩
    let workspace : Workspace := ⟨tree, .owner, []⟩
    let environment : Environment :=
      ⟨none, ⟨false, false, false, false⟩, 2026, fun _ => .error .notFound⟩
    let found : Matches := ⟨[], ["a.sh".toList]⟩
    Program.shell.read none ["a.sh".toList] = .ok found ∧
      SetupFault workspace found .shell ∧
      ∃ result, run workspace environment .shell ["a.sh".toList] = .ok result ∧
        result.code = 1 := by
  intro tree workspace environment found
  have accepted : Program.shell.read none ["a.sh".toList] = .ok found := by decide +kernel
  have unread : Config.Unreadable workspace found.settingsFile? :=
    ⟨⟨"/sigoptlint.toml".toList⟩,
      .io ⟨"/sigoptlint.toml".toList⟩ (.stated "stream did not contain valid UTF-8"),
      by decide +kernel, by decide +kernel⟩
  have ended : (run workspace environment .shell ["a.sh".toList]).map Result.code = .ok 1 := by
    decide +kernel
  cases made : run workspace environment .shell ["a.sh".toList] with
  | error refusal =>
    rw [made] at ended
    cases ended
  | ok result =>
    rw [made] at ended
    exact ⟨accepted, .settings (.unreadable unread), result, rfl, Except.ok.inj ended⟩

end CommandLine

end Hygiene
