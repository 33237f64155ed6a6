import Hygiene.CommandLine.Run
import Hygiene.Proofs.Check.ExitCode
import Hygiene.Proofs.CommandLine.Plan

/-!
# Faults of the setup

Before a program looks at its targets it has to find and read its settings, and the check of
headers has to be planned and its patterns have to be read. What can go wrong there are the
faults of the setup (`SetupFault`). They are told apart from what a check finds: a check of
headers has no report exactly when a pattern is wrong, and then nothing has been changed
(`report_cases`).
-/

set_option autoImplicit false

namespace Hygiene

/-! ## Settings -/

namespace Config

/-- The settings that are asked for, or else those of the working directory. -/
def loaded [Toml.Words] (workspace : Workspace) (asked : Option Path) : Except Error Settings :=
  (choose workspace asked).bind fun file => (load workspace file).settings

/-- There is a settings file, and it cannot be read as a text. -/
def Unreadable (workspace : Workspace) (asked : Option Path) : Prop :=
  ∃ path error, choose workspace asked = .ok (some path) ∧ fileText workspace path = .error error

/-- Why there are no settings. -/
inductive LoadFault [Toml.Words] (workspace : Workspace) (asked : Option Path) : Prop where
  /-- The file that is asked for is not there. -/
  | missing {path : Path} (asks : asked = some path) (absent : workspace.isFile path = false)
  /-- The file cannot be read, or its bytes are no text. -/
  | unreadable (unread : Unreadable workspace asked)
  /-- The text in the file holds no settings. -/
  | invalid {path : Path} {content : Text} {fault : Fault}
      (chosen : choose workspace asked = .ok (some path))
      (text : fileText workspace path = .ok content) (wrong : (read content).result = .error fault)

theorem fileText_eq_error {workspace : Workspace} {path : Path} {error : Error}
    (failed : fileText workspace path = .error error) : error.exitCode = .checkFailed := by
  rw [fileText] at failed
  split at failed
  · cases failed
    rfl
  · split at failed <;> cases failed
    rfl

/-- No file is chosen only when the one that is asked for is missing. -/
theorem choose_eq_error {workspace : Workspace} {asked : Option Path} {error : Error}
    (failed : choose workspace asked = .error error) :
    error.exitCode = .configError ∧
      ∃ path, asked = some path ∧ workspace.isFile path = false := by
  rw [choose.eq_def] at failed
  split at failed
  · split at failed
    · cases failed
    · rename_i path absent
      cases failed
      exact ⟨rfl, path, rfl, by simpa using absent⟩
  · cases failed

section

variable [Toml.Words]

/-- A file has no settings when it cannot be read, or when its text holds none. -/
theorem load_eq_error {workspace : Workspace} {path : Path} {error : Error}
    (failed : (load workspace (some path)).settings = .error error) :
    fileText workspace path = .error error ∨
      error.exitCode = .configError ∧ ∃ content fault,
        fileText workspace path = .ok content ∧ (read content).result = .error fault := by
  rw [load] at failed
  cases text : fileText workspace path with
  | error fault =>
    rw [text] at failed
    cases failed
    exact .inl rfl
  | ok content =>
    rw [text] at failed
    simp only [settingsOf] at failed
    cases wrong : (read content).result with
    | ok settings =>
      rw [wrong] at failed
      cases failed
    | error fault =>
      rw [wrong] at failed
      cases failed
      exact .inr ⟨rfl, content, fault, rfl, wrong⟩

/-- An error on the way to the settings is a fault, and the code with which it ends a program
tells whether the file could not be read. -/
theorem loaded_eq_error {workspace : Workspace} {asked : Option Path} {error : Error}
    (failed : loaded workspace asked = .error error) :
    LoadFault workspace asked ∧
      (Unreadable workspace asked → error.exitCode = .checkFailed) ∧
      (¬ Unreadable workspace asked → error.exitCode = .configError) := by
  rw [loaded] at failed
  cases chosen : choose workspace asked with
  | error fault =>
    rw [chosen] at failed
    cases failed
    obtain ⟨code, path, asks, absent⟩ := choose_eq_error chosen
    refine ⟨.missing asks absent, ?_, fun _ => code⟩
    rintro ⟨file, error, found, -⟩
    rw [chosen] at found
    cases found
  | ok file =>
    rw [chosen] at failed
    cases file with
    | none => cases failed
    | some path =>
      rcases load_eq_error failed with text | ⟨code, content, fault, text, wrong⟩
      · have unread : Unreadable workspace asked := ⟨path, error, chosen, text⟩
        exact ⟨.unreadable unread, fun _ => fileText_eq_error text, fun read => absurd unread read⟩
      · refine ⟨.invalid chosen text wrong, ?_, fun _ => code⟩
        rintro ⟨other, error, found, unread⟩
        rw [chosen, Except.ok.injEq, Option.some.injEq] at found
        rw [← found, text] at unread
        cases unread

/-- Settings are loaded only when nothing is at fault. -/
theorem not_loadFault {workspace : Workspace} {asked : Option Path} {settings : Settings}
    (found : loaded workspace asked = .ok settings) : ¬ LoadFault workspace asked := by
  obtain ⟨file, chosen, made⟩ := bind_eq_ok found
  have text (path : Path) (same : choose workspace asked = .ok (some path)) : file = some path := by
    rw [chosen, Except.ok.injEq] at same
    exact same
  rintro (⟨rfl, absent⟩ | ⟨path, error, other, unread⟩ | ⟨other, content, wrong⟩)
  · rw [choose, if_neg (by simp [absent])] at chosen
    cases chosen
  · rw [text path other, load, unread] at made
    cases made
  · rw [text _ other, load, content] at made
    simp only [settingsOf, wrong] at made
    cases made

end

end Config

/-! ## Patterns -/

namespace Walk

/-- A pattern that cannot be read. -/
def BadPattern (text : Text) : Prop :=
  ∃ fault, Glob.read text = .error fault

/-- A target that can only be a pattern, and cannot be read as one. -/
def BadTarget (workspace : Workspace) (target : Path) : Prop :=
  targetKind workspace target = .pattern ∧ BadPattern (withoutHere target.spelling)

theorem readPattern_cases (text : Text) :
    (∃ pattern, readPattern text = .ok pattern ∧ ¬ BadPattern text) ∨
      ∃ error, readPattern text = .error error ∧ error.exitCode = .configError ∧
        BadPattern text := by
  rw [readPattern]
  cases read : Glob.read text with
  | ok pattern =>
    refine .inl ⟨pattern, rfl, ?_⟩
    rintro ⟨fault, failed⟩
    rw [read] at failed
    cases failed
  | error fault => exact .inr ⟨_, rfl, rfl, fault, read⟩

/-- Patterns are read unless one of them is wrong. -/
theorem readPatterns_cases (texts : List Text) :
    (∃ patterns, readPatterns texts = .ok patterns ∧ ∀ text ∈ texts, ¬ BadPattern text) ∨
      ∃ error, readPatterns texts = .error error ∧ error.exitCode = .configError ∧
        ∃ text ∈ texts, BadPattern text := by
  rw [readPatterns]
  induction texts with
  | nil => exact .inl ⟨[], rfl, by simp⟩
  | cons text others ih =>
    rw [List.mapM_cons]
    rcases readPattern_cases text with ⟨pattern, read, fine⟩ | ⟨error, failed, code, bad⟩
    · rw [read]
      rcases ih with ⟨patterns, later, allFine⟩ | ⟨error, later, code, found, member, bad⟩
      · rw [later]
        exact .inl ⟨pattern :: patterns, rfl, List.forall_mem_cons.mpr ⟨fine, allFine⟩⟩
      · rw [later]
        exact .inr ⟨error, rfl, code, found, List.mem_cons_of_mem text member, bad⟩
    · rw [failed]
      exact .inr ⟨error, rfl, code, text, List.mem_cons_self, bad⟩

section Targets

variable (workspace : Workspace) (options : Options) (patterns : List Glob.Pattern)

/-- A search goes on past a target unless it is a wrong pattern. -/
theorem addTarget_cases (search : Search) (target : Path) :
    (∃ next, (search.addTarget workspace options patterns target).value = .ok next ∧
        ¬ BadTarget workspace target) ∨
      ∃ error, (search.addTarget workspace options patterns target).value = .error error ∧
        error.exitCode = .configError ∧ BadTarget workspace target := by
  rw [Search.addTarget]
  cases kind : targetKind workspace target with
  | pattern =>
    dsimp only
    rcases readPattern_cases (withoutHere target.spelling) with
      ⟨pattern, read, fine⟩ | ⟨error, failed, code, bad⟩
    · rw [read]
      exact .inl ⟨_, rfl, fun wrong => fine wrong.2⟩
    · rw [failed]
      exact .inr ⟨error, rfl, code, kind, bad⟩
  | file => exact .inl ⟨_, rfl, fun wrong => nomatch kind.symm.trans wrong.1⟩
  | directory => exact .inl ⟨_, rfl, fun wrong => nomatch kind.symm.trans wrong.1⟩
  | missing => exact .inl ⟨_, rfl, fun wrong => nomatch kind.symm.trans wrong.1⟩

theorem addTargets_cases (search : Search) (targets : List Path) :
    (∃ last, (search.addTargets workspace options patterns targets).value = .ok last ∧
        ∀ target ∈ targets, ¬ BadTarget workspace target) ∨
      ∃ error, (search.addTargets workspace options patterns targets).value = .error error ∧
        error.exitCode = .configError ∧ ∃ target ∈ targets, BadTarget workspace target := by
  induction targets generalizing search with
  | nil => exact .inl ⟨search, rfl, by simp⟩
  | cons target others ih =>
    rw [Search.addTargets, Log.Told.bind_value]
    rcases addTarget_cases workspace options patterns search target with
      ⟨next, found, fine⟩ | ⟨error, failed, code, bad⟩
    · rw [found]
      dsimp only
      rcases ih next with ⟨last, later, allFine⟩ | ⟨error, later, code, wrong, member, bad⟩
      · exact .inl ⟨last, later, List.forall_mem_cons.mpr ⟨fine, allFine⟩⟩
      · exact .inr ⟨error, later, code, wrong, List.mem_cons_of_mem target member, bad⟩
    · rw [failed]
      exact .inr ⟨error, rfl, code, target, List.mem_cons_self, bad⟩

end Targets

end Walk

/-! ## Reports -/

/-- A pattern of a plan is wrong: one by which paths are excluded, or a target. -/
def Check.BadPatterns (workspace : Workspace) (plan : Check.Plan) : Prop :=
  (∃ text ∈ plan.exclude, Walk.BadPattern text) ∨
    ∃ target ∈ plan.targets, Walk.BadTarget workspace target

/-- A check has a report when its patterns can be read. Otherwise it ends with an error of the
configuration, and nothing has been changed. -/
theorem Check.report_cases (workspace : Workspace) (plan : Check.Plan) (currentYear : Nat) :
    (∃ report, (run workspace plan currentYear).report = .ok report ∧
        ¬ BadPatterns workspace plan) ∨
      ∃ error, (run workspace plan currentYear).report = .error error ∧
        error.exitCode = .configError ∧ (run workspace plan currentYear).workspace = workspace ∧
        BadPatterns workspace plan := by
  rw [run]
  rcases Walk.readPatterns_cases plan.exclude with
    ⟨patterns, read, fine⟩ | ⟨error, failed, code, bad⟩
  · rw [read]
    dsimp only
    rw [Walk.resolve]
    simp only [Log.Told.bind_value, Log.Told.pure_value]
    rcases Walk.addTargets_cases workspace .standard patterns .start plan.targets with
      ⟨last, found, allFine⟩ | ⟨error, failed, code, bad⟩
    · rw [found]
      refine .inl ⟨_, rfl, ?_⟩
      rintro (⟨text, member, wrong⟩ | ⟨target, member, wrong⟩)
      · exact fine text member wrong
      · exact allFine target member wrong
    · rw [failed]
      exact .inr ⟨error, rfl, code, rfl, .inr bad⟩
  · rw [failed]
    exact .inr ⟨error, rfl, code, rfl, .inl bad⟩

end Hygiene
