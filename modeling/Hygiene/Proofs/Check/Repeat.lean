import Hygiene.Proofs.Check.Alone
import Hygiene.Proofs.Check.ExitCode
import Hygiene.Proofs.Walk.Obstacles

/-!
# A second run

A check that was made is steady: made once more in any later workspace of the run, it changes
nothing (`checkFile_again`). So a second run over the same files leaves the workspace as it is,
and each of its checks finds the workspace in which the first run ended.

A run keeps the listing of the tree. Unless a rule file was fixed, it keeps the rules as well,
so that the targets stand for the same files in the second run (`resolutionOf_congr`).

A file that was fixed has a correct header on disk. The second run says so, or else it
says that the file is too large, because the header that was put in took it over the
limit. Nothing else is said of the file (`rerun_confirms`).
-/

set_option autoImplicit false

namespace Hygiene

/-! ## Reading a text -/

namespace Content

theorem decode_encode (path : Path) (content : Text) :
    (decode path content.encode).map String.toList = .ok content := by
  have found : Text.decode? content.encode = some content :=
    (Text.decode_eq_some_iff _ content).mpr rfl
  obtain ⟨string, read, same⟩ := Option.map_eq_some_iff.mp found
  rw [decode, read]
  exact congrArg Except.ok same

/-- What is read of a file with a text: the text, unless it is too large or may not be read. -/
theorem readText_of_fileAt {workspace : Workspace} {path : Path} {location : Location}
    {mode : Nat} {content : Text} (file : workspace.FileAt path location mode content.encode) :
    (readText workspace path).value =
      if maxSize < content.encode.size then
        .error (.fileTooLarge path content.encode.size maxSize)
      else if workspace.user.may .read mode then .ok content
      else .error (failure path .denied) := by
  have size : sizeOf (.file mode content.encode) = content.encode.size := rfl
  rw [readText_value, readBytes_value, file.examine, file.bytes_eq]
  dsimp only
  rw [size]
  by_cases large : maxSize < content.encode.size
  · rw [if_pos large, if_pos large]
    rfl
  · rw [if_neg large, if_neg large]
    cases workspace.user.may .read mode with
    | true => exact decode_encode path content
    | false => rfl

end Content

namespace Check

open Workspace (FileAt SameRules)

variable {plan : Plan} {currentYear : Nat}

/-! ## Identifying a file -/

/-- The file at a path may be read, and it has to carry the notice. -/
structure Presented (plan : Plan) (workspace : Workspace) (path : Path) (kind : FileKind)
    (location : Location) (mode : Nat) (text : Text) : Prop where
  file : workspace.FileAt (fullPath workspace path) location mode text.encode
  readable : workspace.user.may .read mode = true
  counts : Counts plan path text kind

section Presented

variable {workspace : Workspace} {path : Path} {kind : FileKind} {location : Location}
  {mode : Nat} {text : Text} (presented : Presented plan workspace path kind location mode text)
include presented

/-- The file is read at all, because of its name or because it looks like a script. -/
theorem Presented.mayCarryHeader_eq :
    mayCarryHeader workspace (FileKind.ofPath? path) (fullPath workspace path) = .ok true := by
  cases named : FileKind.ofPath? path with
  | some kind => rfl
  | none =>
    have known := presented.counts.known
    rw [kindOf?, named, Option.none_or] at known
    obtain ⟨rest, rfl⟩ := Shebang.beginning_of_kind known
    rw [mayCarryHeader, Content.startsWithShebang, presented.file.bytes_eq,
      if_pos presented.readable]
    exact congrArg Except.ok (Content.beginsScript_encode rest)

theorem Presented.subjectOf_eq :
    subjectOf plan.skipEmpty (FileKind.ofPath? path) text = .ok ⟨kind, text⟩ := by
  have known := presented.counts.known
  have filled : ¬ (plan.skipEmpty && text.isEmpty) = true := by
    simpa using presented.counts.filled
  rw [kindOf?] at known
  rw [subjectOf, if_neg filled, known]

/-- The file is identified, unless it is too large to be read. -/
theorem Presented.identify_eq :
    (identify workspace plan path).value =
      if Content.maxSize < text.encode.size then
        .error (.fileTooLarge (fullPath workspace path) text.encode.size Content.maxSize)
      else .ok (.ok ⟨kind, text⟩) := by
  rw [identify, presented.mayCarryHeader_eq]
  simp only [Log.Told.bind_value, Log.Told.pure_value]
  rw [Content.readText_of_fileAt presented.file, if_pos presented.readable]
  split
  · rfl
  · rw [← presented.subjectOf_eq]
    rfl

end Presented

/-! ## Checking a file with a correct header -/

/-- The file at a path has to carry the notice and does so correctly. -/
structure Sound (plan : Plan) (workspace : Workspace) (path : Path) (kind : FileKind)
    (location : Location) (mode : Nat) (text : Text) : Prop
    extends Presented plan workspace path kind location mode text where
  correct : statusOf plan kind text = .correct

/-- A file with a correct header is recorded as such, unless it is too large to be read. -/
theorem Sound.record_eq {workspace : Workspace} {path : Path} {kind : FileKind}
    {location : Location} {mode : Nat} {text : Text}
    (sound : Sound plan workspace path kind location mode text) :
    (checkFile workspace plan currentYear path).record =
      if Content.maxSize < text.encode.size then
        .error (.fileTooLarge (fullPath workspace path) text.encode.size Content.maxSize)
      else .ok (some ⟨path, kind, .correct, false⟩) := by
  rw [checkFile, sound.identify_eq]
  by_cases large : Content.maxSize < text.encode.size
  · rw [if_pos large, if_pos large]
  · have nothing : fixed? plan currentYear ⟨kind, text⟩ = none := by
      rw [fixed?]
      split
      · exact (fix_eq_none_iff_statusOf plan kind currentYear text).mpr sound.correct
      · rfl
    rw [if_neg large, if_neg large]
    dsimp only
    rw [checkSubject, nothing]
    dsimp only
    rw [sound.correct]
    rfl

/-! ## Steps that are not taken again -/

/-- A check leaves the workspace as it is, or it makes a fix. -/
theorem Checked.unchanged_or_repair {workspace after : Workspace} {path : Path}
    {record : Except Error (Option Record)}
    (checked : Checked workspace plan currentYear path after record) :
    after = workspace ∨ ∃ kind location mode content text,
      Repair workspace plan currentYear path kind location mode content text ∧
        after = rewritten workspace location mode text := by
  cases checked with
  | fixed repair => exact .inr ⟨_, _, _, _, _, repair, rfl⟩
  | failed | unread | skipped | judged => exact .inl rfl

/-- **A check that was made changes nothing when it is made again.** In between the run may have
gone on. -/
theorem checkFile_again {middle after : Workspace} (linkFree : middle.tree.LinkFree) {path : Path}
    (later : Evolved plan currentYear (checkFile middle plan currentYear path).workspace after) :
    (checkFile after plan currentYear path).workspace = after := by
  have step := (checkFile_checked middle plan currentYear path).evolved
  have whole := step.trans linkFree later
  rcases (checkFile_checked after plan currentYear path).unchanged_or_repair with
    same | ⟨kind, location, mode, content, text, repair, made⟩
  · exact same
  exfalso
  by_cases kept : after.tree.lookup location = middle.tree.lookup location
  · -- The first check saw the same file, so it made the same fix, and then nothing undid it.
    have file := repair.file
    rw [whole.fullPath_eq, whole.fileAt_iff kept] at file
    obtain ⟨-, entry⟩ : (checkFile after plan currentYear path).record = _ ∧ _ :=
      checkFile_congr whole.toSameShape kept file.only
    rw [made, rewritten, FileTree.lookup_put_self] at entry
    have changed : (checkFile middle plan currentYear path).workspace.tree.lookup location ≠
        middle.tree.lookup location := by
      rw [← entry, file.stands]
      intro same
      rw [Option.some.injEq, Entry.file.injEq] at same
      exact repair.ne_correct (Text.encode_injective same.2 ▸ repair.correct)
    obtain ⟨other, found, bits, old, new, first, stands⟩ := step.changed location changed
    obtain ⟨another, sort, mask, before, behind, second, -⟩ :=
      later.changed location fun same => changed (same.symm.trans kept)
    exact first.once linkFree step stands second
  · obtain ⟨other, found, bits, old, new, first, stands⟩ := whole.changed location kept
    exact first.once linkFree whole stands repair

/-- After a run, no check of the run changes anything. -/
theorem checkFiles_again {workspace : Workspace} (linkFree : workspace.tree.LinkFree)
    {files : List Path} :
    ∀ path ∈ files, (checkFile (checkFiles plan currentYear workspace files).workspace plan
      currentYear path).workspace = (checkFiles plan currentYear workspace files).workspace := by
  induction files generalizing workspace with
  | nil => exact fun path member => (nomatch member)
  | cons first others ih =>
    have step := (checkFile_checked workspace plan currentYear first).evolved
    have beyond := step.linkFree linkFree
    intro path member
    rw [checkFiles, prepend_workspace]
    rcases List.mem_cons.mp member with rfl | later
    · exact checkFile_again linkFree (checkFiles_evolved others beyond)
    · exact ih beyond path later

/-- When no check changes the workspace, all are made in the same one. -/
theorem checkFiles_of_steady {workspace : Workspace} {files : List Path}
    (steady : ∀ path ∈ files,
      (checkFile workspace plan currentYear path).workspace = workspace) :
    (checkFiles plan currentYear workspace files).workspace = workspace ∧
      (checkFiles plan currentYear workspace files).records =
        files.filterMap (fun path => (checkFile workspace plan currentYear path).record?) ∧
      (checkFiles plan currentYear workspace files).failures =
        files.filterMap
          (fun path => (checkFile workspace plan currentYear path).failure? path) := by
  induction files with
  | nil => exact ⟨rfl, rfl, rfl⟩
  | cons path others ih =>
    obtain ⟨here, rest⟩ := List.forall_mem_cons.mp steady
    obtain ⟨final, records, failures⟩ := ih rest
    rw [checkFiles, prepend_workspace, prepend_records, prepend_failures, here, records, failures]
    refine ⟨final, ?_, ?_⟩
    · rw [List.filterMap_cons]
      cases (checkFile workspace plan currentYear path).record? <;> rfl
    · rw [List.filterMap_cons]
      cases (checkFile workspace plan currentYear path).failure? path <;> rfl

/-! ## The files that were fixed -/

theorem readText_of_identify {workspace : Workspace} {path : Path} {subject : Subject}
    (found : (identify workspace plan path).value = .ok (.ok subject)) :
    (Content.readText workspace (fullPath workspace path)).value = .ok subject.content := by
  rw [identify] at found
  split at found
  · cases found
  · cases found
  · simp only [Log.Told.bind_value, Log.Told.pure_value] at found
    cases read : (Content.readText workspace (fullPath workspace path)).value with
    | error error =>
      rw [read] at found
      cases found
    | ok content =>
      rw [read] at found
      simp only [Except.map, Except.ok.injEq] at found
      rw [(subjectOf_eq_ok found).1]

/-- A file that has a record was read. -/
theorem readable_of_record {workspace : Workspace} {path : Path} {record : Record}
    (recorded : (checkFile workspace plan currentYear path).record = .ok (some record))
    {location : Location} {mode : Nat} {content : Text}
    (file : workspace.FileAt (fullPath workspace path) location mode content.encode) :
    workspace.user.may .read mode = true := by
  rw [checkFile] at recorded
  split at recorded
  · cases recorded
  · cases recorded
  · rename_i subject found
    have read := readText_of_identify found
    rw [Content.readText_of_fileAt file] at read
    split at read
    · cases read
    · split at read
      · assumption
      · cases read

/-- Right after a fix the header of the file is correct. -/
theorem Repair.sound {workspace : Workspace} {path : Path} {kind : FileKind}
    {location : Location} {mode : Nat} {content text : Text}
    (repair : Repair workspace plan currentYear path kind location mode content text)
    (readable : workspace.user.may .read mode = true) :
    Sound plan (rewritten workspace location mode text) path kind location mode text := by
  have shape : Workspace.SameShape workspace (rewritten workspace location mode text) :=
    ⟨rfl, rfl, .put repair.file.stands _⟩
  have located := (shape.locate_eq (fullPath workspace path)).trans repair.file.located
  exact ⟨⟨⟨located, FileTree.lookup_put_self _ _ _⟩, readable,
    (repair.counts_iff path kind).mpr repair.counts⟩, repair.correct⟩

/-- A header that is correct stays so. -/
theorem Sound.later {before after : Workspace} (linkFree : before.tree.LinkFree)
    (evolved : Evolved plan currentYear before after) {path : Path} {kind : FileKind}
    {location : Location} {mode : Nat} {text : Text}
    (sound : Sound plan before path kind location mode text) :
    Sound plan after path kind location mode text := by
  refine ⟨⟨?_, ?_, sound.counts⟩, sound.correct⟩
  · rw [evolved.fullPath_eq]
    exact evolved.keeps linkFree sound.file sound.counts fun _ => sound.correct
  · rw [evolved.user]
    exact sound.readable

/-- A file that was fixed has a correct header when the run is over. -/
theorem checkFiles_sound {workspace : Workspace} (linkFree : workspace.tree.LinkFree)
    {files : List Path} {record : Record}
    (listed : record ∈ (checkFiles plan currentYear workspace files).records)
    (fixed : record.fixed = true) :
    record.path ∈ files ∧ ∃ location mode text,
      Sound plan (checkFiles plan currentYear workspace files).workspace record.path record.kind
        location mode text := by
  induction files generalizing workspace with
  | nil => cases listed
  | cons path others ih =>
    have checked := checkFile_checked workspace plan currentYear path
    have step := checked.evolved
    have beyond := step.linkFree linkFree
    have later : Evolved plan currentYear _ _ := checkFiles_evolved others beyond
    rw [checkFiles, prepend_records] at listed
    rw [checkFiles, prepend_workspace]
    rcases List.mem_append.mp listed with here | behind
    · rw [Option.mem_toList, record_eq_some_iff] at here
      have readable := @readable_of_record _ _ _ _ _ here
      rw [here] at checked
      generalize (checkFile workspace plan currentYear path).workspace = next at *
      cases checked with
      | judged => cases fixed
      | @fixed location mode content text kind repair =>
        exact ⟨List.mem_cons_self, location, mode, text,
          (repair.sound (readable repair.file)).later beyond later⟩
    · obtain ⟨member, sound⟩ := ih beyond behind
      exact ⟨List.mem_cons_of_mem path member, sound⟩

/-! ## The rules after a run -/

/-- A run keeps the listing of the tree. -/
theorem checkFiles_listing (workspace : Workspace) (files : List Path) :
    (checkFiles plan currentYear workspace files).workspace.tree.listing =
      workspace.tree.listing := by
  induction files generalizing workspace with
  | nil => rfl
  | cons path others ih =>
    rw [checkFiles, prepend_workspace, ih]
    rcases (checkFile_checked workspace plan currentYear path).unchanged_or_repair with
      same | ⟨kind, location, mode, content, text, repair, made⟩
    · rw [same]
    · rw [made]
      exact FileTree.listing_put repair.file.stands _

/-- What changes in a run has a record that says that it was fixed. -/
theorem checkFiles_of_changed {workspace : Workspace} {files : List Path} {location : Location}
    (differs : (checkFiles plan currentYear workspace files).workspace.tree.lookup location ≠
      workspace.tree.lookup location) :
    ∃ record ∈ (checkFiles plan currentYear workspace files).records, record.fixed = true ∧
      workspace.locate (fullPath workspace record.path) = .ok location := by
  induction files generalizing workspace with
  | nil => exact absurd rfl differs
  | cons path others ih =>
    have checked := checkFile_checked workspace plan currentYear path
    have step := checked.evolved
    rw [checkFiles, prepend_workspace] at differs
    rw [checkFiles, prepend_records]
    by_cases here : (checkFile workspace plan currentYear path).workspace.tree.lookup location =
        workspace.tree.lookup location
    · rw [← here] at differs
      obtain ⟨record, member, fixed, located⟩ := ih differs
      rw [step.locate_eq, step.fullPath_eq] at located
      exact ⟨record, List.mem_append_right _ member, fixed, located⟩
    · obtain ⟨record, recorded, rfl, fixed, located⟩ := checked.of_changed here
      refine ⟨record, List.mem_append_left _ ?_, fixed, located⟩
      rw [Option.mem_toList, record_eq_some_iff]
      exact recorded

/-- A run that fixes no rule file keeps the rules. -/
theorem checkFiles_sameRules {workspace : Workspace} (linkFree : workspace.tree.LinkFree)
    {files : List Path}
    (plain : ∀ record ∈ (checkFiles plan currentYear workspace files).records,
      record.fixed = true → ∀ name, record.path.fileName? = some name → name ∉ Ignore.ruleNames) :
    SameRules workspace (checkFiles plan currentYear workspace files).workspace := by
  have run : Evolved plan currentYear _ _ := checkFiles_evolved files linkFree
  refine ⟨run.toSameShape, checkFiles_listing workspace files, fun directory name listed => ?_⟩
  by_contra differs
  obtain ⟨record, member, fixed, located⟩ := checkFiles_of_changed differs
  obtain ⟨other, kind, mode, content, text, repair, -⟩ := run.changed _ differs
  obtain ⟨before, called, here, named⟩ :=
    FileTree.fileName_of_locate linkFree rfl located repair.file.isDirectoryAt_eq
  obtain rfl := List.singleton_inj.mp (List.append_inj_right' here rfl)
  exact plain record member fixed _ named listed

theorem resolutionOf_congr {first second : Workspace} (same : SameRules first second)
    (linkFree : first.tree.LinkFree) (plan : Plan) :
    resolutionOf second plan = resolutionOf first plan := by
  rw [resolutionOf, resolutionOf]
  cases Walk.readPatterns plan.exclude with
  | error error => rfl
  | ok patterns =>
    dsimp only
    rw [Walk.resolve_congr same linkFree]

/-! ## The whole run -/

/-- A run is the checks of the files that its targets stand for. -/
theorem run_of_resolution {workspace : Workspace} {resolution : Walk.Resolution}
    (found : resolutionOf workspace plan = .ok resolution) :
    ∃ report, (run workspace plan currentYear).report = .ok report ∧
      (run workspace plan currentYear).workspace =
        (checkFiles plan currentYear workspace resolution.files).workspace ∧
      report.records = (checkFiles plan currentYear workspace resolution.files).records ∧
      report.failures = resolution.missing.map missingFailure ++ resolution.failures ++
        (checkFiles plan currentYear workspace resolution.files).failures := by
  obtain ⟨final, reported⟩ := run_eq_runResolved currentYear found
  exact ⟨_, reported, final, rfl, rfl⟩

/-- What a resolution complains of is explained by the workspace. -/
theorem resolutionOf_explained {workspace : Workspace} {resolution : Walk.Resolution}
    (found : resolutionOf workspace plan = .ok resolution) :
    Walk.Explained workspace .standard resolution.missing resolution.failures := by
  rw [resolutionOf] at found
  split at found
  · cases found
  · exact Walk.resolve_explained found

/-- The search for files complains of no file, unless it is a rule file. -/
theorem path_ne_of_complaint {workspace : Workspace} (proper : workspace.tree.Proper)
    (linkFree : workspace.tree.LinkFree) {resolution : Walk.Resolution}
    (found : resolutionOf workspace plan = .ok resolution) {path : Path} {location : Location}
    {mode : Nat} {bytes : ByteArray}
    (file : workspace.FileAt (fullPath workspace path) location mode bytes)
    (plain : ∀ name, path.fileName? = some name → name ∉ Ignore.ruleNames) {failure : Failure}
    (listed : failure ∈ resolution.missing.map missingFailure ++ resolution.failures) :
    failure.path ≠ path := by
  have explained := resolutionOf_explained found
  rcases List.mem_append.mp listed with absent | walked
  · obtain ⟨target, member, rfl⟩ := List.mem_map.mp absent
    rintro rfl
    have kind := explained.missing _ member
    have isFile : workspace.isFile (fullPath workspace target) = true := by
      rw [Workspace.isFile]
      exact file.examine ▸ rfl
    rw [Walk.targetKind, if_pos isFile] at kind
    cases kind
  · obtain ⟨root, walked, obstacle, met, same⟩ := explained.failures failure walked
    rw [same]
    exact Walk.obstacle_path_ne linkFree file proper plain walked met

/-- The checks complain of no file that has a record. -/
theorem failure_path_ne {workspace : Workspace} {files : List Path} {path : Path}
    {record : Option Record}
    (recorded : (checkFile workspace plan currentYear path).record = .ok record)
    {failure : Failure}
    (listed : failure ∈
      files.filterMap fun path => (checkFile workspace plan currentYear path).failure? path) :
    failure.path ≠ path := by
  obtain ⟨other, -, complained⟩ := List.mem_filterMap.mp listed
  rw [Outcome.failure?] at complained
  split at complained
  · cases complained
  · rename_i error failed
    cases complained
    rintro rfl
    rw [recorded] at failed
    cases failed

/-- **A second run confirms the first one.** In a proper tree without links, let a run fix no
file that rules are read from. Then a second run changes nothing. Every file that was fixed is
on disk with a text that the second run finds correct, and it complains of no such file, unless
the text is too large to be read; then it complains of that. -/
theorem rerun_confirms {workspace : Workspace} (proper : workspace.tree.Proper)
    (linkFree : workspace.tree.LinkFree) {report : Report}
    (reported : (run workspace plan currentYear).report = .ok report)
    (plain : ∀ path ∈ report.fixed, ∀ name, path.fileName? = some name →
      name ∉ Ignore.ruleNames) :
    ∃ after again, (run workspace plan currentYear).workspace = after ∧
      (run after plan currentYear).report = .ok again ∧
      (run after plan currentYear).workspace = after ∧
      ∀ record ∈ report.records, record.fixed = true → ∃ location mode, ∃ text : Text,
        after.FileAt (fullPath after record.path) location mode text.encode ∧
          (text.encode.size ≤ Content.maxSize →
            { record with status := .correct, fixed := false } ∈ again.records ∧
              ∀ failure ∈ again.failures, failure.path ≠ record.path) ∧
          (Content.maxSize < text.encode.size →
            ⟨record.path, (Error.fileTooLarge (fullPath after record.path) text.encode.size
              Content.maxSize).message⟩ ∈ again.failures) := by
  obtain ⟨resolution, found, final, records, -⟩ := run_of_report reported
  have unruly : ∀ record ∈ report.records, record.fixed = true →
      ∀ name, record.path.fileName? = some name → name ∉ Ignore.ruleNames :=
    fun record member fixed =>
      plain _ (List.mem_map_of_mem (List.mem_filter.mpr ⟨member, fixed⟩))
  rw [records] at unruly ⊢
  have same := checkFiles_sameRules linkFree unruly
  have steady := @checkFiles_again plan currentYear workspace linkFree resolution.files
  have sound := @checkFiles_sound plan currentYear workspace linkFree resolution.files
  generalize (checkFiles plan currentYear workspace resolution.files).workspace = after at *
  have refound := (resolutionOf_congr same linkFree plan).trans found
  obtain ⟨again, repeated, left, listed, failed⟩ :
      ∃ again, (run after plan currentYear).report = .ok again ∧ _ ∧ _ ∧ _ :=
    run_of_resolution refound
  obtain ⟨unchanged, relisted, refailed⟩ := checkFiles_of_steady steady
  rw [unchanged] at left
  rw [relisted] at listed
  rw [refailed] at failed
  refine ⟨after, again, final, repeated, left, fun record member fixed => ?_⟩
  obtain ⟨checked, location, mode, text, fine⟩ := sound member fixed
  have outcome : (checkFile after plan currentYear record.path).record = _ := fine.record_eq
  refine ⟨location, mode, text, fine.file, fun small => ⟨?_, ?_⟩, fun large => ?_⟩
  · rw [if_neg (Nat.not_lt.mpr small)] at outcome
    rw [listed]
    exact List.mem_filterMap.mpr ⟨record.path, checked, (record_eq_some_iff _ _).mpr outcome⟩
  · rw [if_neg (Nat.not_lt.mpr small)] at outcome
    intro failure complaint
    rw [failed] at complaint
    rcases List.mem_append.mp complaint with searched | refused
    · have file := fine.file
      rw [fullPath, same.directoryPath_eq] at file
      obtain ⟨old, there⟩ := same.toSameShape.exists_file file
      exact path_ne_of_complaint proper linkFree found there (unruly record member fixed) searched
    · exact failure_path_ne outcome refused
  · rw [if_pos large] at outcome
    rw [failed]
    refine List.mem_append_right _ (List.mem_filterMap.mpr ⟨record.path, checked, ?_⟩)
    rw [Outcome.failure?, outcome]

/-- The theorem at a script that is fixed next to one that is correct already, with a target that
is missing. -/
theorem rerun_confirms_besideCorrect :
    let correct : Text := "# Copyright © 2024 A\n#\n# SPDX-License-Identifier: MIT\n".toList
    let tree : FileTree :=
      ⟨[([], .directory 0o755), ([['r', 'u', 'n']], .file 0o755 (Text.encode "#!sh".toList)),
        (["a.py".toList], .file 0o644 correct.encode)], by decide⟩
    let workspace : Workspace := ⟨tree, .owner, []⟩
    let plan : Plan :=
      ⟨⟨"MIT".toList, "A".toList, .any⟩, true, [⟨"run".toList⟩, ⟨"a.py".toList⟩, ⟨"q".toList⟩], [],
        10, false⟩
    let mended : Record := ⟨⟨"run".toList⟩, .shell, .absent, true⟩
    let report : Report := ⟨[⟨⟨"a.py".toList⟩, .python, .correct, false⟩, mended],
      [⟨⟨"q".toList⟩, "io error: q: no such file or directory"⟩], ⟨2, 0, 0, 0⟩⟩
    (tree.Proper ∧ tree.LinkFree ∧ (run workspace plan 2026).report = .ok report ∧
      ∀ path ∈ report.fixed, ∀ name, path.fileName? = some name → name ∉ Ignore.ruleNames) ∧
    ∃ after again, (run workspace plan 2026).workspace = after ∧
      (run after plan 2026).report = .ok again ∧ (run after plan 2026).workspace = after ∧
      ∃ location mode, ∃ text : Text,
        after.FileAt (fullPath after mended.path) location mode text.encode ∧
          (text.encode.size ≤ Content.maxSize →
            { mended with status := .correct, fixed := false } ∈ again.records ∧
              ∀ failure ∈ again.failures, failure.path ≠ mended.path) := by
  intro correct tree workspace plan mended report
  have proper : tree.Proper := by decide
  have linkFree : tree.LinkFree := FileTree.linkFree_of_entries (by decide)
  have reported : (run workspace plan 2026).report = .ok report := by decide +kernel
  have plain : ∀ path ∈ report.fixed, ∀ name, path.fileName? = some name →
      name ∉ Ignore.ruleNames := by
    have only : report.fixed = [⟨"run".toList⟩] := by decide
    have called : (Path.mk "run".toList).fileName? = some "run".toList := by decide
    intro path member name same
    rw [only, List.mem_singleton] at member
    rw [member, called] at same
    cases same
    decide
  obtain ⟨after, again, final, repeated, left, confirmed⟩ :=
    rerun_confirms proper linkFree reported plain
  obtain ⟨location, mode, text, file, small, -⟩ := confirmed mended (by decide) rfl
  exact ⟨⟨proper, linkFree, reported, plain⟩, after, again, final, repeated, left, location, mode,
    text, file, small⟩

end Check

end Hygiene
