import Hygiene.Proofs.Check.Evolution

/-!
# Files are checked on their own

What the check of a file comes to depends on that file and on nothing else. In two workspaces
of the same shape, with the same where the path leads, the outcome is the same
(`checkFile_congr`). And it does not matter how the path is spelled (`checkFile_respell`).

So a run over files in different places gives for each of them the outcome that checking it
alone would give, and leaves in its place what checking it alone would leave
(`checkFiles_alone`).
-/

set_option autoImplicit false

namespace Hygiene

/-- What a record says. Its path is told by the components, since two spellings of a path are
one path. -/
def Record.facts (record : Record) : List Path.Component × FileKind × Header.Status × Bool :=
  (record.path.components, record.kind, record.status, record.fixed)

namespace Check

open Workspace (SameShape FileAt)

variable {plan : Plan} {currentYear : Nat}

/-! ## Other files do not matter -/

section Congr

variable {first second : Workspace} (shape : SameShape first second) {path : Path}
  {location : Location} (same : second.tree.lookup location = first.tree.lookup location)

include shape same in
theorem checkSubject_congr {mode : Nat} {bytes : ByteArray}
    (file : first.FileAt (fullPath first path) location mode bytes) (subject : Subject) :
    (checkSubject second plan currentYear path subject).record =
        (checkSubject first plan currentYear path subject).record ∧
      (checkSubject second plan currentYear path subject).workspace.tree.lookup location =
        (checkSubject first plan currentYear path subject).workspace.tree.lookup location := by
  have there := (shape.fileAt_iff same _ _ _).mpr file
  rw [checkSubject, checkSubject]
  cases fixed? plan currentYear subject with
  | none => exact ⟨rfl, same⟩
  | some text =>
    dsimp only
    rw [applyFix, applyFix]
    split
    · dsimp only
      rw [shape.directoryPath_eq, there.writeText_eq, file.writeText_eq, shape.mayChangeNames_eq]
      cases first.mayChangeNames location.dropLast with
      | true => exact ⟨rfl, by simp only [if_true, FileTree.lookup_put_self]⟩
      | false => exact ⟨rfl, same⟩
    · exact ⟨rfl, same⟩

variable (only : ∀ found, first.locate (fullPath first path) = .ok found → found = location)
include shape same only

theorem examine_congr :
    second.examine (fullPath first path) = first.examine (fullPath first path) := by
  rw [Workspace.examine, Workspace.examine, shape.locate_eq]
  cases located : first.locate (fullPath first path) with
  | error error => rfl
  | ok found =>
    obtain rfl := only found located
    simp only [bind, Except.bind, same]

theorem identify_congr : identify second plan path = identify first plan path := by
  have examined := examine_congr shape same only
  have looked : ∀ byName, mayCarryHeader second byName (fullPath first path) =
      mayCarryHeader first byName (fullPath first path) := by
    intro byName
    cases byName with
    | some kind => rfl
    | none => exact Content.startsWithShebang_congr shape.user examined
  rw [identify, identify, shape.directoryPath_eq, looked,
    Content.readText_congr shape.user examined]

/-- The check of a file has the same outcome whenever the same is there. -/
theorem checkFile_congr :
    (checkFile second plan currentYear path).record =
        (checkFile first plan currentYear path).record ∧
      (checkFile second plan currentYear path).workspace.tree.lookup location =
        (checkFile first plan currentYear path).workspace.tree.lookup location := by
  rw [checkFile, checkFile, identify_congr shape same only]
  dsimp only
  cases identified : (identify first plan path).value with
  | error error => exact ⟨rfl, same⟩
  | ok found =>
    cases found with
    | error skip => exact ⟨rfl, same⟩
    | ok subject =>
      obtain ⟨place, mode, file, -⟩ := identify_eq_ok identified
      obtain rfl := only place file.located
      exact checkSubject_congr shape same file subject

end Congr

/-- The check of a file leaves everything else as it is. -/
theorem checkFile_lookup_of_ne {workspace : Workspace} {path : Path} {location : Location}
    (elsewhere : workspace.locate (fullPath workspace path) ≠ .ok location) :
    (checkFile workspace plan currentYear path).workspace.tree.lookup location =
      workspace.tree.lookup location := by
  by_contra differs
  obtain ⟨record, -, -, -, located⟩ :=
    (checkFile_checked workspace plan currentYear path).of_changed differs
  exact elsewhere located

/-! ## The spelling does not matter -/

theorem toOption_identify (workspace : Workspace) (path : Path) :
    (identify workspace plan path).value.toOption =
      (mayCarryHeader workspace (FileKind.ofPath? path) (fullPath workspace path)).toOption.bind
        fun reads =>
          if reads then
            (Content.readText workspace (fullPath workspace path)).value.toOption.map
              (subjectOf plan.skipEmpty (FileKind.ofPath? path))
          else some (.error .unsupportedType) := by
  rw [identify]
  cases mayCarryHeader workspace (FileKind.ofPath? path) (fullPath workspace path) with
  | error error => rfl
  | ok reads =>
    cases reads with
    | false => rfl
    | true =>
      simp only [Log.Told.bind_value, Log.Told.pure_value]
      cases (Content.readText workspace (fullPath workspace path)).value <;> rfl

section Respell

variable {workspace : Workspace} {path other : Path} {location : Location} {mode : Nat}
  {bytes : ByteArray} (here : workspace.FileAt (fullPath workspace path) location mode bytes)
  (there : workspace.FileAt (fullPath workspace other) location mode bytes)
include here there

theorem toOption_startsWithShebang_respell :
    (Content.startsWithShebang workspace (fullPath workspace other)).toOption =
      (Content.startsWithShebang workspace (fullPath workspace path)).toOption := by
  rw [Content.startsWithShebang, Content.startsWithShebang, there.bytes_eq, here.bytes_eq]
  split <;> rfl

theorem toOption_readText_respell :
    (Content.readText workspace (fullPath workspace other)).value.toOption =
      (Content.readText workspace (fullPath workspace path)).value.toOption := by
  rw [Content.readText_value, Content.readText_value, Content.readBytes_value,
    Content.readBytes_value, there.examine, here.examine, there.bytes_eq, here.bytes_eq]
  dsimp only
  split
  · rfl
  · split
    · show ((Content.decode (fullPath workspace other) bytes).map String.toList).toOption =
        ((Content.decode (fullPath workspace path) bytes).map String.toList).toOption
      rw [Content.decode, Content.decode]
      cases String.fromUTF8? bytes <;> rfl
    · rfl

variable (same : other.components = path.components)
include same

theorem toOption_identify_respell :
    (identify workspace plan other).value.toOption =
      (identify workspace plan path).value.toOption := by
  have named : FileKind.ofPath? other = FileKind.ofPath? path :=
    FileKind.ofPath_congr (by rw [Path.fileName?, Path.fileName?, same])
  have looked :
      (mayCarryHeader workspace (FileKind.ofPath? path) (fullPath workspace other)).toOption =
        (mayCarryHeader workspace (FileKind.ofPath? path) (fullPath workspace path)).toOption := by
    cases FileKind.ofPath? path with
    | some kind => rfl
    | none => exact toOption_startsWithShebang_respell here there
  rw [toOption_identify, toOption_identify, named, looked,
    toOption_readText_respell here there]

theorem checkSubject_respell (subject : Subject) :
    (checkSubject workspace plan currentYear other subject).workspace =
        (checkSubject workspace plan currentYear path subject).workspace ∧
      (checkSubject workspace plan currentYear other subject).record?.map Record.facts =
        (checkSubject workspace plan currentYear path subject).record?.map Record.facts := by
  have judged : ∀ status, Record.facts ⟨other, subject.kind, status, false⟩ =
      Record.facts ⟨path, subject.kind, status, false⟩ := by
    intro status
    rw [Record.facts, same]
    rfl
  rw [checkSubject, checkSubject]
  cases fixed? plan currentYear subject with
  | none => exact ⟨rfl, congrArg some (judged _)⟩
  | some text =>
    dsimp only
    rw [applyFix, applyFix]
    split
    · dsimp only
      rw [there.writeText_eq, here.writeText_eq]
      cases workspace.mayChangeNames location.dropLast with
      | true =>
        refine ⟨rfl, congrArg some ?_⟩
        rw [Record.facts, same]
        rfl
      | false => exact ⟨rfl, rfl⟩
    · exact ⟨rfl, rfl⟩

/-- The check of a file comes to the same for every spelling of its path. -/
theorem checkFile_respell :
    (checkFile workspace plan currentYear other).workspace =
        (checkFile workspace plan currentYear path).workspace ∧
      (checkFile workspace plan currentYear other).record?.map Record.facts =
        (checkFile workspace plan currentYear path).record?.map Record.facts := by
  have found : (identify workspace plan other).value.toOption = _ :=
    toOption_identify_respell here there same
  rw [checkFile, checkFile]
  cases left : (identify workspace plan other).value with
  | error error =>
    rw [left] at found
    cases right : (identify workspace plan path).value with
    | error error => exact ⟨rfl, rfl⟩
    | ok result =>
      rw [right] at found
      cases found
  | ok result =>
    rw [left] at found
    cases right : (identify workspace plan path).value with
    | error error =>
      rw [right] at found
      cases found
    | ok result =>
      rw [right] at found
      cases found
      cases result with
      | error skip => exact ⟨rfl, rfl⟩
      | ok subject => exact checkSubject_respell here there same subject

end Respell

/-! ## Runs -/

/-- A run leaves everything as it is but the files that it checks. -/
theorem checkFiles_lookup_of_ne {location : Location} {files : List Path} {workspace : Workspace}
    (elsewhere : ∀ path ∈ files, workspace.locate (fullPath workspace path) ≠ .ok location) :
    (checkFiles plan currentYear workspace files).workspace.tree.lookup location =
      workspace.tree.lookup location := by
  induction files generalizing workspace with
  | nil => rfl
  | cons path others ih =>
    have step := (checkFile_checked workspace plan currentYear path).evolved
    rw [checkFiles, prepend_workspace, ih,
      checkFile_lookup_of_ne (elsewhere path List.mem_cons_self)]
    intro other member
    rw [step.locate_eq, step.fullPath_eq]
    exact elsewhere other (List.mem_cons_of_mem path member)

/-- Paths that lead to files, each to another one. -/
structure Apart (workspace : Workspace) (files : List Path) : Prop where
  placed : ∀ path ∈ files, ∃ location mode bytes,
    workspace.FileAt (fullPath workspace path) location mode bytes
  distinct : files.Pairwise fun left right =>
    workspace.locate (fullPath workspace left) ≠ workspace.locate (fullPath workspace right)

/-- A workspace in which a run goes on is as it was at the beginning, as far as the files that
are left are concerned. -/
structure Untouched (workspace middle : Workspace) (files : List Path) : Prop
    extends SameShape workspace middle where
  same : ∀ path ∈ files, ∀ location,
    workspace.locate (fullPath workspace path) = .ok location →
      middle.tree.lookup location = workspace.tree.lookup location

/-- The check of a file does not touch the ones behind it. -/
theorem Untouched.checkFile {workspace middle : Workspace} {path : Path} {others : List Path}
    (untouched : Untouched workspace middle (path :: others))
    (differs : ∀ other ∈ others, workspace.locate (fullPath workspace path) ≠
      workspace.locate (fullPath workspace other)) :
    Untouched workspace (checkFile middle plan currentYear path).workspace others := by
  have step := (checkFile_checked middle plan currentYear path).evolved
  refine ⟨untouched.toSameShape.trans step.toSameShape, fun other member place located => ?_⟩
  rw [checkFile_lookup_of_ne,
    untouched.same other (List.mem_cons_of_mem path member) place located]
  rw [untouched.locate_eq, fullPath, untouched.directoryPath_eq]
  exact fun here => differs other member (here.trans located.symm)

/-- **A run over files in different places is the checks of the files alone.** The run may have
come some way already. -/
theorem checkFiles_alone {workspace middle : Workspace} {files : List Path}
    (apart : Apart workspace files) (untouched : Untouched workspace middle files) :
    (checkFiles plan currentYear middle files).records =
        files.filterMap (fun path => (checkFile workspace plan currentYear path).record?) ∧
      (checkFiles plan currentYear middle files).failures =
        files.filterMap (fun path => (checkFile workspace plan currentYear path).failure? path) ∧
      ∀ path ∈ files, ∀ location,
        workspace.locate (fullPath workspace path) = .ok location →
          (checkFiles plan currentYear middle files).workspace.tree.lookup location =
            (checkFile workspace plan currentYear path).workspace.tree.lookup location := by
  induction files generalizing middle with
  | nil => exact ⟨rfl, rfl, fun path member => (nomatch member)⟩
  | cons path others ih =>
    obtain ⟨location, mode, bytes, file⟩ := apart.placed path List.mem_cons_self
    obtain ⟨differs, distinct⟩ := List.pairwise_cons.mp apart.distinct
    have placed := fun other member => apart.placed other (List.mem_cons_of_mem path member)
    obtain ⟨record, entry⟩ : (checkFile middle plan currentYear path).record = _ ∧ _ :=
      checkFile_congr untouched.toSameShape
        (untouched.same path List.mem_cons_self location file.located) file.only
    have behind : Untouched workspace (checkFile middle plan currentYear path).workspace others :=
      untouched.checkFile differs
    obtain ⟨records, failures, found⟩ := ih ⟨placed, distinct⟩ behind
    rw [checkFiles, prepend_workspace, prepend_records, prepend_failures, records, failures]
    refine ⟨?_, ?_, fun other member place located => ?_⟩
    · rw [List.filterMap_cons, Outcome.record?, record, ← Outcome.record?]
      cases (checkFile workspace plan currentYear path).record? <;> rfl
    · rw [List.filterMap_cons, Outcome.failure?, record, ← Outcome.failure?]
      cases (checkFile workspace plan currentYear path).failure? path <;> rfl
    · rcases List.mem_cons.mp member with rfl | later
      · -- The files behind it are elsewhere, so nothing happens to this one any more.
        rw [file.located, Except.ok.injEq] at located
        subst located
        rw [checkFiles_lookup_of_ne, entry]
        intro other later
        rw [behind.locate_eq, fullPath, behind.directoryPath_eq]
        exact fun here => differs other later (file.located.trans here.symm)
      · exact found other later place located

/-- A run comes to the same for every spelling of its files. -/
theorem checkFiles_respell {files others : List Path} {workspace : Workspace}
    (same : files.map Path.components = others.map Path.components)
    (placed : ∀ path ∈ files, ∀ other ∈ others, path.components = other.components →
      ∃ location mode bytes, workspace.FileAt (fullPath workspace path) location mode bytes ∧
        workspace.FileAt (fullPath workspace other) location mode bytes) :
    (checkFiles plan currentYear workspace others).workspace =
        (checkFiles plan currentYear workspace files).workspace ∧
      (checkFiles plan currentYear workspace others).records.map Record.facts =
        (checkFiles plan currentYear workspace files).records.map Record.facts := by
  induction files generalizing others workspace with
  | nil =>
    rw [List.map_nil, eq_comm, List.map_eq_nil_iff] at same
    subst same
    exact ⟨rfl, rfl⟩
  | cons path files ih =>
    cases others with
    | nil => cases same
    | cons other others =>
      rw [List.map_cons, List.map_cons, List.cons.injEq] at same
      obtain ⟨location, mode, bytes, here, there⟩ :=
        placed path List.mem_cons_self other List.mem_cons_self same.1
      obtain ⟨after, facts⟩ : (checkFile workspace plan currentYear other).workspace = _ ∧ _ :=
        checkFile_respell here there same.1.symm
      have step := (checkFile_checked workspace plan currentYear path).evolved
      obtain ⟨final, rest⟩ :
          (checkFiles plan currentYear (checkFile workspace plan currentYear path).workspace
            others).workspace = _ ∧ _ := by
        apply ih same.2
        intro path member other found alike
        obtain ⟨location, mode, bytes, here, there⟩ := placed path
          (List.mem_cons_of_mem _ member) other (List.mem_cons_of_mem _ found) alike
        rw [← step.fullPath_eq] at here there
        obtain ⟨new, stands⟩ := step.toSameShape.symm.exists_file here
        exact ⟨location, mode, new, stands, (step.locate_eq _).trans there.located, stands.stands⟩
      rw [checkFiles, checkFiles, prepend_workspace, prepend_workspace, prepend_records,
        prepend_records, after, List.map_append, List.map_append, rest, ← Option.toList_map,
        ← Option.toList_map, facts]
      exact ⟨final, rfl⟩

end Check

end Hygiene
