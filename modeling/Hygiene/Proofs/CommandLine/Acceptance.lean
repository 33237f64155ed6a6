import Hygiene.Launch
import Hygiene.Proofs.Check.Step
import Hygiene.Proofs.CommandLine.Plan
import Hygiene.Proofs.Header.Verification

/-!
# What an accepted configuration can have fixed

Settings and arguments are judged before a check begins: license and owner must be there and
not be blank, and a fixed year has four digits (`plan_accepted`). Whether license and owner fit
on a line each is not asked. A notice that does not fit is accepted, and it is found out only
when a fix is to be made, by the verification of the fixed text. So among the accepted
configurations the verification fails exactly for the notices that do not fit and for years
that cannot be read back (`accepted_fix_error_iff`).
-/

set_option autoImplicit false

namespace Hygiene

/-! ## When the verification of a fix fails -/

namespace Check

theorem readText_ne_fix (workspace : Workspace) (full path : Path) :
    (Content.readText workspace full).value ≠ .error (.fix path) := by
  rw [Content.readText_value, Content.readBytes_value]
  intro failed
  split at failed
  · cases failed
  · split at failed
    · cases failed
    · cases read : workspace.bytes full with
      | error error =>
        rw [read] at failed
        cases failed
      | ok bytes =>
        rw [read] at failed
        change (Content.decode full bytes).map String.toList = .error (.fix path) at failed
        rw [Content.decode] at failed
        split at failed <;> cases failed

/-- A file that cannot be read is not reported as one whose fix did not work. -/
theorem identify_ne_fix (workspace : Workspace) (plan : Plan) (path other : Path) :
    (identify workspace plan path).value ≠ .error (.fix other) := by
  rw [identify]
  intro failed
  split at failed
  · rename_i error unread
    cases failed
    rw [mayCarryHeader.eq_def] at unread
    split at unread
    · cases unread
    · rw [Content.startsWithShebang] at unread
      cases read : workspace.bytes (workspace.directoryPath.join path) with
      | error error =>
        rw [read] at unread
        cases unread
      | ok bytes =>
        rw [read] at unread
        cases unread
  · cases failed
  · simp only [Log.Told.bind_value, Log.Told.pure_value] at failed
    cases read : (Content.readText workspace (workspace.directoryPath.join path)).value with
    | error error =>
      rw [read] at failed
      cases failed
      exact readText_ne_fix workspace _ other read
    | ok content =>
      rw [read] at failed
      cases failed

theorem writeText_ne_fix (workspace : Workspace) (full path : Path) (text : Text) :
    workspace.writeText full text ≠ .error (.fix path) := by
  rw [Workspace.writeText]
  intro failed
  split at failed <;> cases failed

/-- A fix is given up just when the fixed text is not correct. -/
theorem applyFix_fix_error_iff (workspace : Workspace) (plan : Plan) (record : Record)
    (text : Text) :
    (applyFix workspace plan record text).record = .error (.fix record.path) ↔
      statusOf plan record.kind text ≠ .correct := by
  rw [applyFix]
  by_cases correct : statusOf plan record.kind text = .correct
  · rw [if_pos correct]
    dsimp only
    split
    · simp [correct]
    · rename_i error failed
      have other := writeText_ne_fix workspace
        (workspace.directoryPath.join record.path) record.path text
      rw [failed] at other
      simpa [correct] using other
  · rw [if_neg correct]
    simp [correct]

/-- The check of a file that can carry a header ends with a fix that did not work exactly when
a fix is made and the notice cannot be read back. -/
theorem checkSubject_fix_error_iff (workspace : Workspace) (plan : Plan) (currentYear : Nat)
    (path : Path) (subject : Subject) :
    (checkSubject workspace plan currentYear path subject).record = .error (.fix path) ↔
      (plan.fix = true ∧ statusOf plan subject.kind subject.content ≠ .correct) ∧
        ¬ (plan.notice.FitsLines ∧ plan.notice.year.Writes currentYear) := by
  rw [checkSubject]
  cases made : fixed? plan currentYear subject with
  | none =>
    simp only [Outcome.ofRecord, reduceCtorEq, false_iff]
    rintro ⟨⟨asked, differs⟩, -⟩
    rw [fixed?, if_pos asked, fix_eq_none_iff_statusOf] at made
    exact differs made
  | some text =>
    rw [fixed?] at made
    split at made
    · rename_i asked
      have differs : statusOf plan subject.kind subject.content ≠ .correct := by
        intro correct
        rw [(fix_eq_none_iff_statusOf plan subject.kind currentYear subject.content).mpr
          correct] at made
        cases made
      have verified : statusOf plan subject.kind text = .correct ↔
          plan.notice.FitsLines ∧ plan.notice.year.Writes currentYear :=
        Header.fixed_correct_iff made
      rw [← verified]
      simp only [asked, differs, ne_eq, not_false_eq_true, and_self, true_and]
      exact applyFix_fix_error_iff workspace plan ⟨path, subject.kind, _, false⟩ text
    · cases made

/-- A file for which a plan asks for a fix: its header is not correct. -/
structure NeedsFix (workspace : Workspace) (plan : Plan) (path : Path) (subject : Subject) :
    Prop where
  asked : plan.fix = true
  identified : (identify workspace plan path).value = .ok (.ok subject)
  differs : statusOf plan subject.kind subject.content ≠ .correct

/-- The check of a file ends with a fix that did not work exactly when a fix is needed and the
notice cannot be read back. -/
theorem record_eq_fix_iff (workspace : Workspace) (plan : Plan) (currentYear : Nat)
    (path : Path) :
    (checkFile workspace plan currentYear path).record = .error (.fix path) ↔
      (∃ subject, NeedsFix workspace plan path subject) ∧
        ¬ (plan.notice.FitsLines ∧ plan.notice.year.Writes currentYear) := by
  rw [checkFile]
  split
  · rename_i error found
    constructor
    · intro failed
      cases failed
      exact absurd found (identify_ne_fix workspace plan path path)
    · rintro ⟨⟨subject, needed⟩, -⟩
      have identified := needed.identified
      rw [found] at identified
      cases identified
  · rename_i skip found
    constructor
    · intro failed
      cases failed
    · rintro ⟨⟨subject, needed⟩, -⟩
      have identified := needed.identified
      rw [found] at identified
      cases identified
  · rename_i subject found
    rw [checkSubject_fix_error_iff]
    apply and_congr_left
    intro _
    constructor
    · rintro ⟨asked, differs⟩
      exact ⟨subject, asked, found, differs⟩
    · rintro ⟨other, asked, identified, differs⟩
      rw [found, Except.ok.injEq, Except.ok.injEq] at identified
      subst identified
      exact ⟨asked, differs⟩

end Check

/-! ## Accepted configurations -/

/-- A plan whose license and owner are not blank, and whose year has four digits when it is
fixed. -/
structure Check.Plan.Accepted (plan : Check.Plan) : Prop where
  license : plan.notice.license.isBlank = false
  owner : plan.notice.owner.isBlank = false
  year : ∀ year, plan.notice.year = .fixed year → 1000 ≤ year ∧ year ≤ 9999

namespace CommandLine

/-- What arguments and settings ask for is accepted only when it is complete. -/
theorem plan_accepted {found : Matches} {settings : Config.HeaderSettings} {plan : Check.Plan}
    (dated : settings.Dated) (made : (HeaderArguments.ofMatches found).plan settings = .ok plan) :
    plan.Accepted :=
  have planned := plan_eq_ok made
  ⟨planned.licensed, planned.owned, fun _ fixed => planned.fourDigits dated fixed⟩

/-- **An accepted configuration can be fixed when its notice can be read back, and only
then.** Whatever settings are read or absent and whatever arguments go with them, an accepted
plan has a license and an owner that are not blank, and a fixed year of four digits. Under it
the check of a file ends with a fix that did not work exactly when the file needs a fix and
the license or the owner does not fit on a line, or the year that is written cannot be read. -/
theorem accepted_fix_error_iff [Toml.Words] {settings : Config.Settings} {found : Matches}
    {plan : Check.Plan}
    (read : settings = .empty ∨ ∃ content, (Config.read content).result = .ok settings)
    (accepted : (HeaderArguments.ofMatches found).plan settings.header = .ok plan) :
    plan.Accepted ∧ ∀ workspace currentYear path,
      (Check.checkFile workspace plan currentYear path).record = .error (.fix path) ↔
        (∃ subject, Check.NeedsFix workspace plan path subject) ∧
          ¬ (plan.notice.FitsLines ∧ plan.notice.year.Writes currentYear) := by
  have dated : settings.header.Dated := by
    rcases read with rfl | ⟨content, made⟩
    · intro year given
      cases given
    · exact Config.read_dated made
  exact ⟨plan_accepted dated accepted, fun workspace currentYear path =>
    Check.record_eq_fix_iff workspace plan currentYear path⟩

/-- The theorem at settings with a fixed year and an owner that is given by a flag. -/
theorem accepted_fix_error_iff_ownerFlag :
    let content := "version = 1\n[disclaimer]\nlicense = 'MIT'\nyear = 2024\n".toList
    let words := ["--owner".toList, "A".toList, "-f".toList, "a.py".toList]
    ∃ settings found plan, (Config.read content).result = .ok settings ∧
      Program.header.read none words = .ok found ∧
      (HeaderArguments.ofMatches found).plan settings.header = .ok plan ∧
      plan.Accepted ∧ ∀ workspace currentYear path,
        (Check.checkFile workspace plan currentYear path).record = .error (.fix path) ↔
          (∃ subject, Check.NeedsFix workspace plan path subject) ∧
            ¬ (plan.notice.FitsLines ∧ plan.notice.year.Writes currentYear) := by
  intro content words
  let settings : Config.Settings :=
    ⟨1, ⟨some "MIT".toList, none, [], some 2024, none, false⟩, .empty⟩
  let found : Matches :=
    ⟨[("owner".toList, ["A".toList]), ("fix-in-place".toList, [])], ["a.py".toList]⟩
  let plan : Check.Plan :=
    ⟨⟨"MIT".toList, "A".toList, .fixed 2024⟩, true, [⟨"a.py".toList⟩], [], 10, false⟩
  have read : (Config.read content).result = .ok settings := by decide +kernel
  have given : Program.header.read none words = .ok found := by decide +kernel
  have accepted : (HeaderArguments.ofMatches found).plan settings.header = .ok plan := by
    decide +kernel
  exact ⟨settings, found, plan, read, given, accepted,
    accepted_fix_error_iff (.inr ⟨content, read⟩) accepted⟩

/-- A license of two lines is accepted, and no fix with it works. -/
theorem twoLineLicense_not_fixed :
    let content :=
      "version = 1\n[disclaimer]\nlicense = \"MIT\\nX\"\nowner = \"A\"\nyear = 2024\n".toList
    let words := ["-f".toList, "a.py".toList]
    let tree : FileTree :=
      ⟨[([], .directory 0o755), ([['a', '.', 'p', 'y']], .file 0o644 (Text.encode ['x']))],
        by decide⟩
    ∃ settings found plan, (Config.read content).result = .ok settings ∧
      Program.header.read none words = .ok found ∧
      (HeaderArguments.ofMatches found).plan settings.header = .ok plan ∧
      (Check.checkFile ⟨tree, .owner, []⟩ plan 2026 ⟨"a.py".toList⟩).record =
        .error (.fix ⟨"a.py".toList⟩) := by
  intro content words tree
  let settings : Config.Settings :=
    ⟨1, ⟨some "MIT\nX".toList, some "A".toList, [], some 2024, none, false⟩, .empty⟩
  let found : Matches := ⟨[("fix-in-place".toList, [])], ["a.py".toList]⟩
  let plan : Check.Plan :=
    ⟨⟨"MIT\nX".toList, "A".toList, .fixed 2024⟩, true, [⟨"a.py".toList⟩], [], 10, false⟩
  have read : (Config.read content).result = .ok settings := by decide +kernel
  have given : Program.header.read none words = .ok found := by decide +kernel
  have accepted : (HeaderArguments.ofMatches found).plan settings.header = .ok plan := by
    decide +kernel
  exact ⟨settings, found, plan, read, given, accepted, by decide +kernel⟩

end CommandLine

end Hygiene
