import Hygiene.Proofs.Check.Step
import Hygiene.Proofs.Tree.Leads

/-!
# What checking leaves of a workspace

Checking files changes a workspace in one way only: files that have to carry the notice get
it. `Evolved` says so of the workspace before and the workspace afterwards, with one fix for
each location at which something has changed. A single check has this property and so has a
run over many files (`checkFiles_evolved`), because a file that was fixed is not fixed again,
by whatever path it is reached (`Repair.once`).

The kind of a file is the same before and afterwards, and so is whether it has to carry the
notice at all (`Evolved.descendant`, `Evolved.origin`). A file that was not to be changed when
it was checked is never changed later (`Evolved.keeps`).
-/

set_option autoImplicit false

namespace Hygiene

open FileTree (SameOutline)

theorem FileKind.ofPath_congr {left right : Path} (same : left.fileName? = right.fileName?) :
    ofPath? left = ofPath? right := by
  simp only [ofPath?, Path.extension?, same]

theorem FileTree.SameOutline.linkFree {left right : FileTree} (same : SameOutline left right)
    (linkFree : left.LinkFree) : right.LinkFree := by
  intro location target stands
  have outlines := same location
  rw [stands] at outlines
  rcases same.lookup_cases location with ⟨-, none⟩ | ⟨mode, old, new, -, file⟩ |
    ⟨mode, -, directory⟩ | ⟨other, link, -⟩
  · simp [none] at stands
  · simp [file] at stands
  · simp [directory] at stands
  · exact linkFree location other link

namespace Check

variable {plan : Plan} {currentYear : Nat}

/-! ## The kind of a file -/

/-- In a tree without links, all paths to a file say the same of its kind. -/
theorem ofPath_eq_of_fileAt {workspace : Workspace} (linkFree : workspace.tree.LinkFree)
    {left right : Path} {location : Location} {mode bits : Nat} {old new : ByteArray}
    (first : workspace.FileAt (fullPath workspace left) location mode old)
    (second : workspace.FileAt (fullPath workspace right) location bits new) :
    FileKind.ofPath? left = FileKind.ofPath? right := by
  have file := first.isDirectoryAt_eq
  have absolute : workspace.directoryPath.isAbsolute = true := rfl
  obtain ⟨before, name, here, named⟩ :=
    FileTree.fileName_of_locate linkFree absolute first.located file
  obtain ⟨above, other, there, called⟩ :=
    FileTree.fileName_of_locate linkFree absolute second.located file
  rw [here] at there
  have last := List.append_inj_right' there rfl
  rw [List.singleton_inj] at last
  exact FileKind.ofPath_congr (by rw [named, called, last])

/-- A fix does not change the kind of a file. -/
theorem kindOf_fix {kind : FileKind} {notice : Header.Notice} {scanLines : Nat}
    {content text : Text}
    (made : Header.fix? kind notice scanLines currentYear content = some text) (path : Path) :
    kindOf? path text = kindOf? path content := by
  by_cases status :
      (Header.classify kind notice scanLines (Shebang.split content).2).status = .correct
  · rw [(Header.fix_eq_none_iff kind notice scanLines currentYear content).mpr status] at made
    cases made
  · rw [Header.fix_of_status_ne currentYear status] at made
    cases made
    rw [kindOf?, kindOf?, Header.split_assemble, Shebang.kind_terminated]

theorem ne_nil_of_correct {kind : FileKind} {text : Text}
    (correct : statusOf plan kind text = .correct) : text ≠ [] := by
  rintro rfl
  rw [statusOf, Shebang.split_of_not_opens (by decide), Header.classify_nil] at correct
  cases correct

/-- No correct text is fixed. -/
theorem Repair.ne_correct {workspace : Workspace} {path : Path} {kind : FileKind}
    {location : Location} {mode : Nat} {content text : Text}
    (repair : Repair workspace plan currentYear path kind location mode content text) :
    statusOf plan kind content ≠ .correct := by
  intro correct
  have nothing := (fix_eq_none_iff_statusOf plan kind currentYear content).mpr correct
  rw [repair.made] at nothing
  cases nothing

/-- A file that was fixed has to carry the notice just as it had before. -/
theorem Repair.counts_iff {workspace : Workspace} {path : Path} {kind : FileKind}
    {location : Location} {mode : Nat} {content text : Text}
    (repair : Repair workspace plan currentYear path kind location mode content text)
    (other : Path) (found : FileKind) :
    Counts plan other text found ↔ Counts plan other content found := by
  have same := kindOf_fix repair.made other
  constructor
  · exact fun counts => ⟨same.symm.trans counts.known, repair.counts.filled⟩
  · exact fun counts => ⟨same.trans counts.known, fun ⟨_, empty⟩ =>
      ne_nil_of_correct repair.correct empty⟩

/-- A file is of one kind, whichever path leads to it. -/
theorem Counts.kind_eq {workspace : Workspace} (linkFree : workspace.tree.LinkFree)
    {left right : Path} {location : Location} {mode bits : Nat} {old new : ByteArray}
    {content : Text} {first second : FileKind}
    (here : workspace.FileAt (fullPath workspace left) location mode old)
    (there : workspace.FileAt (fullPath workspace right) location bits new)
    (counts : Counts plan left content first) (also : Counts plan right content second) :
    first = second := by
  have named := ofPath_eq_of_fileAt linkFree here there
  have known := counts.known
  rw [kindOf?, named] at known
  exact Option.some.inj (known.symm.trans also.known)

/-! ## The workspace before and the workspace afterwards -/

/-- A workspace came from another one by fixes that the plan asks for. -/
structure Evolved (plan : Plan) (currentYear : Nat) (before after : Workspace) : Prop
    extends Workspace.SameShape before after where
  changed : ∀ location : Location, after.tree.lookup location ≠ before.tree.lookup location →
    ∃ path kind mode content text,
      Repair before plan currentYear path kind location mode content text ∧
        after.tree.lookup location = some (.file mode text.encode)

namespace Evolved

theorem refl (workspace : Workspace) : Evolved plan currentYear workspace workspace :=
  ⟨.refl workspace, fun _ differs => absurd rfl differs⟩

variable {before after : Workspace}

theorem fullPath_eq (evolved : Evolved plan currentYear before after) (path : Path) :
    fullPath after path = fullPath before path := by
  rw [fullPath, fullPath, evolved.directoryPath_eq]

theorem linkFree (evolved : Evolved plan currentYear before after)
    (linkFree : before.tree.LinkFree) : after.tree.LinkFree :=
  evolved.outline.linkFree linkFree

end Evolved

/-- A file that was fixed is not fixed again, whichever path leads to it. -/
theorem Repair.once {before after : Workspace} (linkFree : before.tree.LinkFree)
    (evolved : Evolved plan currentYear before after) {path other : Path}
    {kind found : FileKind} {location : Location} {mode bits : Nat}
    {content text old new : Text}
    (repair : Repair before plan currentYear path kind location mode content text)
    (stands : after.tree.lookup location = some (.file mode text.encode)) :
    ¬ Repair after plan currentYear other found location bits old new := by
  intro again
  have fixed : after.FileAt (fullPath before path) location mode text.encode :=
    ⟨(evolved.locate_eq _).trans repair.file.located, stands⟩
  obtain ⟨rfl, rfl⟩ := fixed.text_eq again.file
  have reached := again.file
  rw [evolved.fullPath_eq] at reached
  obtain ⟨_, there⟩ := evolved.exists_file reached
  obtain rfl := Counts.kind_eq linkFree repair.file there
    ((repair.counts_iff path kind).mpr repair.counts) again.counts
  exact again.ne_correct repair.correct

/-- What came by fixes from what came by fixes did come by fixes. -/
theorem Evolved.trans {first second third : Workspace} (linkFree : first.tree.LinkFree)
    (earlier : Evolved plan currentYear first second)
    (later : Evolved plan currentYear second third) : Evolved plan currentYear first third where
  toSameShape := earlier.toSameShape.trans later.toSameShape
  changed := by
    intro location differs
    -- What was fixed in the first half is correct, so it stays as it is in the second one.
    by_cases early : second.tree.lookup location = first.tree.lookup location
    · rw [← early] at differs
      obtain ⟨path, kind, mode, content, text, repair, stands⟩ := later.changed location differs
      have file := repair.file
      rw [earlier.fullPath_eq, earlier.fileAt_iff early] at file
      exact ⟨path, kind, mode, content, text, { repair with file := file }, stands⟩
    · obtain ⟨path, kind, mode, content, text, repair, stands⟩ := earlier.changed location early
      by_cases late : third.tree.lookup location = second.tree.lookup location
      · exact ⟨path, kind, mode, content, text, repair, late.trans stands⟩
      · obtain ⟨other, found, bits, old, new, again, -⟩ := later.changed location late
        exact absurd again (repair.once linkFree earlier stands)

/-! ## Steps and runs -/

/-- A check changes a workspace by a fix at most. -/
theorem Checked.evolved {workspace after : Workspace} {path : Path}
    {record : Except Error (Option Record)}
    (checked : Checked workspace plan currentYear path after record) :
    Evolved plan currentYear workspace after := by
  cases checked with
  | failed error => exact .refl workspace
  | unread file unnamed plain => exact .refl workspace
  | skipped file uncounted => exact .refl workspace
  | judged file counts kept => exact .refl workspace
  | @fixed location mode content text kind repair =>
    refine ⟨⟨rfl, rfl, .put repair.file.stands _⟩, fun other differs => ?_⟩
    by_cases here : location = other
    · subst here
      exact ⟨path, kind, mode, content, text, repair, FileTree.lookup_put_self _ _ _⟩
    · exact absurd (FileTree.lookup_put_of_ne _ _ here) differs

/-- Only the file that was checked can change, and then its record says that it was fixed. -/
theorem Checked.of_changed {workspace after : Workspace} {path : Path}
    {record : Except Error (Option Record)}
    (checked : Checked workspace plan currentYear path after record) {location : Location}
    (differs : after.tree.lookup location ≠ workspace.tree.lookup location) :
    ∃ made, record = .ok (some made) ∧ made.path = path ∧ made.fixed = true ∧
      workspace.locate (fullPath workspace path) = .ok location := by
  cases checked with
  | @fixed place mode content text kind repair =>
    refine ⟨_, rfl, rfl, rfl, ?_⟩
    by_cases here : place = location
    · rw [← here]
      exact repair.file.located
    · exact absurd (FileTree.lookup_put_of_ne _ _ here) differs
  | failed | unread | skipped | judged => exact absurd rfl differs

/-- Without fixes a check changes nothing. -/
theorem Checked.of_not_fix {workspace after : Workspace} {path : Path}
    {record : Except Error (Option Record)}
    (checked : Checked workspace plan currentYear path after record)
    (asked : plan.fix = false) : after = workspace := by
  cases checked with
  | fixed repair =>
    have fixes := repair.asked
    rw [asked] at fixes
    cases fixes
  | failed | unread | skipped | judged => rfl

/-- The record of a file, if there is one. -/
def Outcome.record? (outcome : Outcome) : Option Record :=
  match outcome.record with
  | .ok record => record
  | .error _ => none

theorem record_eq_some_iff (outcome : Outcome) (record : Record) :
    outcome.record? = some record ↔ outcome.record = .ok (some record) := by
  rw [Outcome.record?]
  cases outcome.record with
  | ok found => exact ⟨congrArg Except.ok, fun same => by cases same; rfl⟩
  | error error => exact ⟨nofun, nofun⟩

/-- The failure that is listed for a file, if there is one. -/
def Outcome.failure? (path : Path) (outcome : Outcome) : Option Failure :=
  match outcome.record with
  | .ok _ => none
  | .error error => some ⟨path, error.message⟩

section Prepend

variable (path : Path) (outcome : Outcome) (later : Progress)

theorem prepend_workspace : (later.prepend path outcome).workspace = later.workspace := by
  rw [Progress.prepend]
  cases outcome.record <;> rfl

theorem prepend_records :
    (later.prepend path outcome).records = outcome.record?.toList ++ later.records := by
  rw [Progress.prepend, Outcome.record?]
  cases outcome.record <;> rfl

theorem prepend_failures :
    (later.prepend path outcome).failures =
      (outcome.failure? path).toList ++ later.failures := by
  rw [Progress.prepend, Outcome.failure?]
  cases outcome.record <;> rfl

end Prepend

/-- **A run changes a workspace by fixes only, and no file is fixed twice.** -/
theorem checkFiles_evolved (files : List Path) {workspace : Workspace}
    (linkFree : workspace.tree.LinkFree) :
    Evolved plan currentYear workspace (checkFiles plan currentYear workspace files).workspace := by
  induction files generalizing workspace with
  | nil => exact .refl workspace
  | cons path others ih =>
    have step := (checkFile_checked workspace plan currentYear path).evolved
    have run := ih (step.linkFree linkFree)
    rw [checkFiles, prepend_workspace]
    exact step.trans linkFree run

/-! ## What becomes of a file -/

namespace Evolved

variable {before after : Workspace} {path : Path} {location : Location} {mode : Nat}

/-- A file that is found before is found afterwards, and has to carry the notice just as it
had. -/
theorem descendant (evolved : Evolved plan currentYear before after) {content : Text}
    (file : before.FileAt path location mode content.encode) (named : Path) :
    ∃ text : Text, after.FileAt path location mode text.encode ∧
      ∀ kind, Counts plan named text kind ↔ Counts plan named content kind := by
  by_cases same : after.tree.lookup location = before.tree.lookup location
  · exact ⟨content, (evolved.fileAt_iff same _ _ _).mpr file, fun kind => Iff.rfl⟩
  · obtain ⟨other, found, bits, old, text, repair, stands⟩ := evolved.changed location same
    obtain ⟨rfl, rfl⟩ := file.text_eq repair.file
    exact ⟨text, ⟨(evolved.locate_eq path).trans file.located, stands⟩, repair.counts_iff named⟩

/-- A file that is found afterwards was there before, and had to carry the notice just as it
has. -/
theorem origin (evolved : Evolved plan currentYear before after) {text : Text}
    (file : after.FileAt path location mode text.encode) (named : Path) :
    ∃ content : Text, before.FileAt path location mode content.encode ∧
      ∀ kind, Counts plan named text kind ↔ Counts plan named content kind := by
  by_cases same : after.tree.lookup location = before.tree.lookup location
  · exact ⟨text, (evolved.fileAt_iff same _ _ _).mp file, fun kind => Iff.rfl⟩
  · obtain ⟨other, found, bits, content, new, repair, stands⟩ := evolved.changed location same
    obtain ⟨rfl, rfl⟩ := file.text_eq ⟨file.located, stands⟩
    have located := (evolved.locate_eq path).symm.trans file.located
    exact ⟨content, ⟨located, repair.file.stands⟩, repair.counts_iff named⟩

/-- A file that was not to be changed stays as it is. -/
theorem keeps (evolved : Evolved plan currentYear before after)
    (linkFree : before.tree.LinkFree) {content : Text} {kind : FileKind}
    (file : before.FileAt (fullPath before path) location mode content.encode)
    (counts : Counts plan path content kind)
    (kept : plan.fix = true → statusOf plan kind content = .correct) :
    after.FileAt (fullPath before path) location mode content.encode := by
  by_cases same : after.tree.lookup location = before.tree.lookup location
  · exact (evolved.fileAt_iff same _ _ _).mpr file
  · exfalso
    obtain ⟨other, found, bits, old, text, repair, -⟩ := evolved.changed location same
    obtain ⟨rfl, rfl⟩ := file.text_eq repair.file
    obtain rfl := Counts.kind_eq linkFree file repair.file counts repair.counts
    exact repair.ne_correct (kept repair.asked)

end Evolved

end Check

end Hygiene
