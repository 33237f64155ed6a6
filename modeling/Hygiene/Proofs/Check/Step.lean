import Hygiene.Check
import Hygiene.Proofs.Check.Access
import Hygiene.Proofs.Header.Fixed

/-!
# What checking a file can do

Checking a file ends in one of five ways, and `Checked` has one rule for each: the file could
not be read or changed, or it does not look like a script and its name says nothing, or it is
skipped for what it holds, or it was judged and left alone, or it was fixed. Only the last way
changes the workspace, and it changes the content of the one file that the path leads to.
Every check ends in one of these ways (`checkFile_checked`).
-/

set_option autoImplicit false

namespace Hygiene.Check

/-- The kind of a file with a text, by its name or else by the interpreter that the text asks
for. -/
def kindOf? (path : Path) (content : Text) : Option FileKind :=
  (FileKind.ofPath? path).or ((Shebang.split content).1.bind Shebang.kind?)

/-- A file with a text has to carry the notice: it is of a known kind, and it is not left out
as an empty file. -/
structure Counts (plan : Plan) (path : Path) (content : Text) (kind : FileKind) : Prop where
  known : kindOf? path content = some kind
  filled : ¬ (plan.skipEmpty = true ∧ content = [])

/-- The path from the top to what a path leads to. -/
abbrev fullPath (workspace : Workspace) (path : Path) : Path :=
  workspace.directoryPath.join path

/-- The workspace in which a file has got a new text. -/
def rewritten (workspace : Workspace) (location : Location) (mode : Nat) (text : Text) :
    Workspace :=
  { workspace with tree := workspace.tree.put location (.file mode text.encode) }

/-- A fix that is made because a plan asks for it. A path leads to a file that has to carry the
notice, and the fixed text of the file is correct. -/
structure Repair (workspace : Workspace) (plan : Plan) (currentYear : Nat) (path : Path)
    (kind : FileKind) (location : Location) (mode : Nat) (content text : Text) : Prop where
  asked : plan.fix = true
  file : workspace.FileAt (fullPath workspace path) location mode content.encode
  counts : Counts plan path content kind
  made : Header.fix? kind plan.notice plan.scanLines currentYear content = some text
  correct : statusOf plan kind text = .correct

/-- The ways in which the check of a file can end: the workspace afterwards, and the record. -/
inductive Checked (workspace : Workspace) (plan : Plan) (currentYear : Nat) (path : Path) :
    Workspace → Except Error (Option Record) → Prop where
  /-- The file could not be read, or not be fixed. -/
  | failed (error : Error) : Checked workspace plan currentYear path workspace (.error error)
  /-- The name of the file says nothing, and it does not look like a script. -/
  | unread {location : Location} {mode : Nat} {bytes : ByteArray}
      (file : workspace.FileAt (fullPath workspace path) location mode bytes)
      (unnamed : FileKind.ofPath? path = none) (plain : Content.beginsScript bytes = false) :
      Checked workspace plan currentYear path workspace (.ok none)
  /-- The file does not have to carry the notice. -/
  | skipped {location : Location} {mode : Nat} {content : Text}
      (file : workspace.FileAt (fullPath workspace path) location mode content.encode)
      (uncounted : ∀ kind, ¬ Counts plan path content kind) :
      Checked workspace plan currentYear path workspace (.ok none)
  /-- The file was judged. When fixes are asked for, its header was correct. -/
  | judged {location : Location} {mode : Nat} {content : Text} {kind : FileKind}
      (file : workspace.FileAt (fullPath workspace path) location mode content.encode)
      (counts : Counts plan path content kind)
      (kept : plan.fix = true → statusOf plan kind content = .correct) :
      Checked workspace plan currentYear path workspace
        (.ok (some ⟨path, kind, statusOf plan kind content, false⟩))
  /-- The file was fixed, and the fixed text is correct. -/
  | fixed {location : Location} {mode : Nat} {content text : Text} {kind : FileKind}
      (repair : Repair workspace plan currentYear path kind location mode content text) :
      Checked workspace plan currentYear path (rewritten workspace location mode text)
        (.ok (some ⟨path, kind, statusOf plan kind content, true⟩))

/-! ## Every check ends in one of these ways -/

theorem subjectOf_eq_ok {plan : Plan} {path : Path} {content : Text} {subject : Subject}
    (found : subjectOf plan.skipEmpty (FileKind.ofPath? path) content = .ok subject) :
    subject.content = content ∧ Counts plan path content subject.kind := by
  rw [subjectOf] at found
  split at found
  · cases found
  · rename_i filled
    split at found
    · rename_i kind known
      cases found
      exact ⟨rfl, known, by simpa using filled⟩
    · cases found

theorem subjectOf_eq_error {plan : Plan} {path : Path} {content : Text} {skip : Skip}
    (found : subjectOf plan.skipEmpty (FileKind.ofPath? path) content = .error skip) :
    ∀ kind, ¬ Counts plan path content kind := by
  rintro kind ⟨known, filled⟩
  rw [subjectOf, if_neg (by simpa using filled)] at found
  rw [kindOf?] at known
  rw [known] at found
  cases found

/-- A file that was identified has to carry the notice. -/
theorem identify_eq_ok {workspace : Workspace} {plan : Plan} {path : Path} {subject : Subject}
    (found : (identify workspace plan path).value = .ok (.ok subject)) :
    ∃ location mode,
      workspace.FileAt (fullPath workspace path) location mode subject.content.encode ∧
        Counts plan path subject.content subject.kind := by
  rw [identify] at found
  split at found
  · cases found
  · cases found
  · simp only [Log.Told.bind_value, Log.Told.pure_value] at found
    cases read : (Content.readText workspace (fullPath workspace path)).value with
    | error error =>
      rw [read] at found
      cases found
    | ok content =>
      rw [read] at found
      simp only [Except.map, Except.ok.injEq] at found
      obtain ⟨location, mode, file⟩ := Content.readText_eq_ok read
      obtain ⟨rfl, counts⟩ := subjectOf_eq_ok found
      exact ⟨location, mode, file, counts⟩

/-- A file is skipped for its bytes, or because it does not have to carry the notice. -/
theorem identify_eq_skip {workspace : Workspace} {plan : Plan} {path : Path} {skip : Skip}
    (found : (identify workspace plan path).value = .ok (.error skip)) (currentYear : Nat) :
    Checked workspace plan currentYear path workspace (.ok none) := by
  rw [identify] at found
  split at found
  · cases found
  · rename_i plain
    rw [mayCarryHeader.eq_def] at plain
    split at plain
    · cases plain
    · rename_i unnamed
      obtain ⟨location, mode, bytes, file, same⟩ := Content.startsWithShebang_eq_ok plain
      exact .unread file unnamed same.symm
  · simp only [Log.Told.bind_value, Log.Told.pure_value] at found
    cases read : (Content.readText workspace (fullPath workspace path)).value with
    | error error =>
      rw [read] at found
      cases found
    | ok content =>
      rw [read] at found
      simp only [Except.map, Except.ok.injEq] at found
      obtain ⟨location, mode, file⟩ := Content.readText_eq_ok read
      exact .skipped file (subjectOf_eq_error found)

/-- No fix is made of a correct text. -/
theorem fix_eq_none_iff_statusOf (plan : Plan) (kind : FileKind) (currentYear : Nat)
    (content : Text) :
    Header.fix? kind plan.notice plan.scanLines currentYear content = none ↔
      statusOf plan kind content = .correct :=
  Header.fix_eq_none_iff kind plan.notice plan.scanLines currentYear content

/-- A judged file is left alone, or fixed, or cannot be fixed. -/
theorem checkSubject_checked {workspace : Workspace} {plan : Plan} (currentYear : Nat)
    {path : Path} {location : Location} {mode : Nat} {subject : Subject}
    (file : workspace.FileAt (fullPath workspace path) location mode subject.content.encode)
    (counts : Counts plan path subject.content subject.kind) :
    Checked workspace plan currentYear path
      (checkSubject workspace plan currentYear path subject).workspace
      (checkSubject workspace plan currentYear path subject).record := by
  rw [checkSubject]
  cases found : fixed? plan currentYear subject with
  | none =>
    apply Checked.judged file counts
    intro asked
    rw [fixed?, if_pos asked, fix_eq_none_iff_statusOf] at found
    exact found
  | some text =>
    dsimp only
    rw [fixed?] at found
    split at found
    · rename_i asked
      rw [applyFix]
      split
      · rename_i correct
        split
        · rename_i after written
          obtain ⟨place, bits, old, same, rfl⟩ := Workspace.writeText_eq_ok written
          obtain ⟨rfl, rfl, rfl⟩ := same.unique file
          exact .fixed ⟨asked, file, counts, found, correct⟩
        · exact .failed _
      · exact .failed _
    · cases found

/-- **Every check of a file ends in one of the five ways.** -/
theorem checkFile_checked (workspace : Workspace) (plan : Plan) (currentYear : Nat)
    (path : Path) :
    Checked workspace plan currentYear path
      (checkFile workspace plan currentYear path).workspace
      (checkFile workspace plan currentYear path).record := by
  rw [checkFile]
  split
  · exact .failed _
  · rename_i found
    exact identify_eq_skip found currentYear
  · rename_i found
    obtain ⟨location, mode, file, counts⟩ := identify_eq_ok found
    exact checkSubject_checked currentYear file counts

end Hygiene.Check
