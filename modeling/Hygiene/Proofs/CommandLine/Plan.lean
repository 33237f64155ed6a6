import Hygiene.CommandLine.Arguments
import Hygiene.Config.Reader

/-!
# What a plan is made of

The check of headers is planned from arguments and settings. A plan is made exactly when there
are a license and an owner and neither is blank (`plan_eq_ok`, `plan_eq_error`). Its year, when
it is fixed, has four digits: the arguments are judged when they are read, and the settings when
their section is (`Planned.fourDigits`, `read_dated`).
-/

set_option autoImplicit false

namespace Hygiene

/-- A computation that succeeds has a first part that succeeds. -/
theorem bind_eq_ok {ε α β : Type} {first : Except ε α} {next : α → Except ε β} {last : β}
    (succeeds : first.bind next = .ok last) :
    ∃ value, first = .ok value ∧ next value = .ok last := by
  cases first with
  | error fault => cases succeeds
  | ok value => exact ⟨value, rfl, succeeds⟩

/-! ## What the settings can say -/

namespace Config

theorem Reading.result_bind {α β : Type} (first : Reading α) (next : α → Reading β) :
    (first >>= next).result = first.result.bind fun value => (next value).result := by
  change (Reading.bind first next).result = _
  rw [Reading.bind]
  cases first.result <;> rfl

/-- Header settings whose year, if they have one, has four digits. -/
def HeaderSettings.Dated (settings : HeaderSettings) : Prop :=
  ∀ year ∈ settings.year, 1000 ≤ year ∧ year ≤ 9999

theorem readHeaderFields_dated {entries : Toml.Entries} {settings : HeaderSettings}
    (read : readHeaderFields entries = .ok settings) : settings.Dated := by
  obtain ⟨year, -, read⟩ := bind_eq_ok read
  dsimp only at read
  cases wrong : year.filter fun number => !isFourDigitYear number with
  | some number =>
    rw [wrong] at read
    cases read
  | none =>
    rw [wrong] at read
    dsimp only at read
    obtain ⟨license, -, read⟩ := bind_eq_ok read
    obtain ⟨owner, -, read⟩ := bind_eq_ok read
    obtain ⟨exclude, -, read⟩ := bind_eq_ok read
    obtain ⟨scanLines, -, read⟩ := bind_eq_ok read
    obtain ⟨skipEmpty, -, read⟩ := bind_eq_ok read
    cases read
    intro number given
    have fits := Option.filter_eq_none_iff.mp wrong number given
    simpa [isFourDigitYear] using fits

/-- The settings of a section are the empty ones, or read from its fields. -/
theorem readKnown_eq_ok {α : Type} {name : String} {known : List String} {empty : α}
    {read : Toml.Entries → Except Fault α} {entries : Toml.Entries} {value : α}
    (found : (readKnown name known empty read entries).result = .ok value) :
    value = empty ∨ ∃ fields, read fields = .ok value := by
  rw [readKnown, Reading.result_bind] at found
  obtain ⟨table, -, found⟩ := bind_eq_ok found
  cases table with
  | none =>
    cases found
    exact .inl rfl
  | some fields =>
    dsimp only at found
    rw [Reading.result_bind] at found
    exact .inr ⟨fields, found⟩

theorem readDocument_dated [Toml.Words] {content : Text} {entries : Toml.Entries}
    {settings : Settings} (found : (readDocument content entries).result = .ok settings) :
    settings.header.Dated := by
  rw [readDocument, Reading.result_bind] at found
  obtain ⟨version, -, found⟩ := bind_eq_ok found
  rw [Reading.result_bind] at found
  obtain ⟨warned, -, found⟩ := bind_eq_ok found
  rw [Reading.result_bind] at found
  obtain ⟨header, here, found⟩ := bind_eq_ok found
  rw [Reading.result_bind] at found
  obtain ⟨linter, -, found⟩ := bind_eq_ok found
  cases found
  rcases readKnown_eq_ok here with rfl | ⟨fields, made⟩
  · intro year given
    cases given
  · exact readHeaderFields_dated made

/-- The year in settings that are read has four digits. -/
theorem read_dated [Toml.Words] {content : Text} {settings : Settings}
    (found : (read content).result = .ok settings) : settings.header.Dated := by
  rw [read] at found
  split at found
  · cases found
  · split at found
    · cases found
    · exact readDocument_dated found

end Config

/-! ## What a plan takes from arguments and settings -/

namespace CommandLine

/-- A text that must be given is missing, or it is blank. -/
def Wanting (given : Option Text) : Prop :=
  ∀ text ∈ given, text.isBlank = true

/-- How a plan goes with the arguments and settings that it was made of. -/
structure Planned (arguments : HeaderArguments) (settings : Config.HeaderSettings)
    (plan : Check.Plan) : Prop where
  license : arguments.license.or settings.license = some plan.notice.license
  owner : arguments.owner.or settings.owner = some plan.notice.owner
  licensed : plan.notice.license.isBlank = false
  owned : plan.notice.owner.isBlank = false
  year : ∀ year, plan.notice.year = .fixed year →
    (arguments.year.map Int.ofNat).or settings.year = some year
  targets : plan.targets = arguments.targets
  exclude : plan.exclude = settings.exclude ++ arguments.exclude

theorem required_eq_ok {flag setting : Option Text} {reason : String} {text : Text}
    (given : required flag setting reason = .ok text) : flag.or setting = some text := by
  rw [required] at given
  split at given <;> cases given
  assumption

theorem required_eq_error {flag setting : Option Text} {reason : String} {error : Error}
    (failed : required flag setting reason = .error error) :
    error.exitCode = .configError ∧ Wanting (flag.or setting) := by
  rw [required] at failed
  split at failed
  · cases failed
  · rename_i none
    cases failed
    rw [none]
    exact ⟨rfl, fun text given => nomatch given⟩

variable {arguments : HeaderArguments} {settings : Config.HeaderSettings} {plan : Check.Plan}

theorem plan_eq_ok (made : arguments.plan settings = .ok plan) :
    Planned arguments settings plan := by
  rw [HeaderArguments.plan] at made
  obtain ⟨license, licensed, made⟩ := bind_eq_ok made
  obtain ⟨owner, owned, made⟩ := bind_eq_ok made
  by_cases blank : (license.isBlank || owner.isBlank) = true
  · rw [if_pos blank] at made
    cases made
  · rw [if_neg blank] at made
    simp only [Bool.or_eq_true, not_or, Bool.not_eq_true] at blank
    cases made
    refine ⟨required_eq_ok licensed, required_eq_ok owned, blank.1, blank.2, fun year fixed => ?_,
      rfl, rfl⟩
    dsimp only at fixed
    split at fixed
    · rename_i given
      cases fixed
      exact given
    · cases fixed

/-- No plan is made without a license and an owner that say something. -/
theorem plan_eq_error {error : Error} (failed : arguments.plan settings = .error error) :
    error.exitCode = .configError ∧
      (Wanting (arguments.license.or settings.license) ∨
        Wanting (arguments.owner.or settings.owner)) := by
  rw [HeaderArguments.plan] at failed
  cases licensed : required arguments.license settings.license
      "missing license: pass --license or set disclaimer.license" with
  | error fault =>
    rw [licensed] at failed
    cases failed
    obtain ⟨code, wanting⟩ := required_eq_error licensed
    exact ⟨code, .inl wanting⟩
  | ok license =>
    cases owned : required arguments.owner settings.owner
        "missing owner: pass --owner or set disclaimer.owner" with
    | error fault =>
      rw [licensed, owned] at failed
      cases failed
      obtain ⟨code, wanting⟩ := required_eq_error owned
      exact ⟨code, .inr wanting⟩
    | ok owner =>
      rw [licensed, owned] at failed
      simp only [bind, Except.bind] at failed
      split at failed
      · rename_i blank
        cases failed
        rw [required_eq_ok licensed, required_eq_ok owned]
        refine ⟨rfl, ?_⟩
        simpa [Wanting] using blank
      · cases failed

theorem Planned.not_wanting (planned : Planned arguments settings plan) :
    ¬ (Wanting (arguments.license.or settings.license) ∨
      Wanting (arguments.owner.or settings.owner)) := by
  have licensed := planned.licensed
  have owned := planned.owned
  rw [planned.license, planned.owner]
  simp [Wanting, licensed, owned]

/-- A year on a command line has four digits. -/
theorem readYear_eq_some {text : Text} {year : Nat} (read : readYear? text = some year) :
    1000 ≤ year ∧ year ≤ 9999 := by
  obtain ⟨-, fits⟩ := Option.filter_eq_some_iff.mp read
  simpa using fits

/-- The year of the arguments wins over the one of the settings, and both have four digits. -/
theorem Planned.fourDigits {found : Matches}
    (planned : Planned (.ofMatches found) settings plan) (dated : settings.Dated) {year : Int}
    (fixed : plan.notice.year = .fixed year) : 1000 ≤ year ∧ year ≤ 9999 := by
  rcases Option.or_eq_some_iff.mp (planned.year year fixed) with flag | ⟨-, setting⟩
  · obtain ⟨number, written, rfl⟩ := Option.map_eq_some_iff.mp flag
    obtain ⟨text, -, read⟩ := Option.bind_eq_some_iff.mp written
    obtain ⟨low, high⟩ := readYear_eq_some read
    exact ⟨Int.ofNat_le.mpr low, Int.ofNat_le.mpr high⟩
  · exact dated year setting

end CommandLine

end Hygiene
