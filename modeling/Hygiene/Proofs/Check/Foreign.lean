import Hygiene.Proofs.Check.ExitCode
import Hygiene.Proofs.Text.FirstLine

/-!
# Files that are none of a check's business

A file is foreign when its name says nothing of its kind and its first line asks for no known
interpreter (`Foreign`). Such a file gets no record. It is meant to be skipped without a word,
and a run over the files that contain it is the run over the others, with one exception: a file
that begins like a script is read before it is known to be foreign, so one that is too large or
no text is listed as a failure (`refusal?`). Both are said by `run_foreign`, and
`foreignScript_refused` is a case of the exception.

A foreign file can be reached under another name that does say something of its kind, when the
tree has links. Then it may be fixed before its own turn comes, and stays foreign (`Aged`).
-/

set_option autoImplicit false

namespace Hygiene

/-- A fixed text begins like a script only when the text before did. -/
theorem Header.beginning_of_fix {kind : FileKind} {notice : Notice} {scanLines currentYear : Nat}
    {content text : Text} (made : fix? kind notice scanLines currentYear content = some text)
    (script : ∃ rest : Text, text = '#' :: '!' :: rest) :
    ∃ rest : Text, content = '#' :: '!' :: rest := by
  by_cases status : (classify kind notice scanLines (Shebang.split content).2).status = .correct
  · rw [(fix_eq_none_iff kind notice scanLines currentYear content).mpr status] at made
    cases made
  · rw [fix_of_status_ne currentYear status] at made
    cases opens : Shebang.opens content with
    | true => exact Shebang.beginning_of_opens opens
    | false =>
      rw [Shebang.split_of_not_opens opens, Option.some.injEq] at made
      obtain ⟨rest, begins⟩ := script
      have plain : ∀ below : Text, Shebang.mark.isPrefixOf
          (notice.render kind.layout currentYear ++ below) = false := by
        intro below
        cases kind <;> rfl
      have marked : Shebang.mark.isPrefixOf text = true := by rw [begins]; rfl
      rw [← made, assemble, List.append_assoc] at marked
      exact absurd ((plain _).symm.trans marked) (by decide)

namespace Content

/-- A file can be opened when its permission bits allow it. -/
theorem bytes_eq_ok_iff (workspace : Workspace) (path : Path) (bytes : ByteArray) :
    workspace.bytes path = .ok bytes ↔
      ∃ location mode, workspace.FileAt path location mode bytes ∧
        workspace.user.may .read mode = true := by
  constructor
  · intro opened
    obtain ⟨location, mode, file⟩ := Workspace.bytes_eq_ok opened
    rw [file.bytes_eq] at opened
    split at opened
    · rename_i allowed
      exact ⟨location, mode, file, allowed⟩
    · cases opened
  · rintro ⟨location, mode, file, allowed⟩
    rw [file.bytes_eq, if_pos allowed]

/-- What is read of a file that may be read: its text, unless it is too large or no text. -/
theorem readText_of_readable {workspace : Workspace} {path : Path} {bytes : ByteArray}
    (opened : workspace.bytes path = .ok bytes) :
    (readText workspace path).value =
      if maxSize < bytes.size then .error (.fileTooLarge path bytes.size maxSize)
      else
        match Text.decode? bytes with
        | some content => .ok content
        | none => .error (.encoding path) := by
  obtain ⟨location, mode, file⟩ := Workspace.bytes_eq_ok opened
  have size : sizeOf (.file mode bytes) = bytes.size := rfl
  rw [readText_value, readBytes_value, file.examine, opened]
  dsimp only
  rw [size]
  split
  · rfl
  · show (decode path bytes).map String.toList = _
    rw [decode, Text.decode?]
    cases String.fromUTF8? bytes <;> rfl

end Content

namespace Check

open Workspace (FileAt)

variable {plan : Plan} {currentYear : Nat}

/-! ## The check of a foreign file -/

/-- A file that can be opened, whose name says nothing of its kind, and whose first line asks
for no known interpreter. -/
structure Foreign (workspace : Workspace) (path : Path) (bytes : ByteArray) : Prop where
  opened : workspace.bytes (fullPath workspace path) = .ok bytes
  unnamed : FileKind.ofPath? path = none
  unasked : Shebang.kindOfBytes? bytes = none

/-- Why a file whose name says nothing cannot be judged: it begins like a script, and it is too
large or no text. -/
def refusal? (path : Path) (bytes : ByteArray) : Option Error :=
  if Content.beginsScript bytes then
    if Content.maxSize < bytes.size then some (.fileTooLarge path bytes.size Content.maxSize)
    else if (Text.decode? bytes).isSome then none
    else some (.encoding path)
  else none

section Foreign

variable {workspace : Workspace} {path : Path} {bytes : ByteArray}
  (foreign : Foreign workspace path bytes)
include foreign

theorem Foreign.mayCarryHeader_eq :
    mayCarryHeader workspace (FileKind.ofPath? path) (fullPath workspace path) =
      .ok (Content.beginsScript bytes) := by
  rw [foreign.unnamed, mayCarryHeader, Content.startsWithShebang, foreign.opened]
  rfl

/-- The text of a foreign file is skipped. -/
theorem Foreign.subjectOf_eq (plan : Plan) {content : Text}
    (decoded : Text.decode? bytes = some content) :
    ∃ skip, subjectOf plan.skipEmpty (FileKind.ofPath? path) content = .error skip := by
  have unasked := foreign.unasked
  rw [(Text.decode_eq_some_iff bytes content).mp decoded, Shebang.kindOfBytes_encode] at unasked
  rw [foreign.unnamed, subjectOf, Option.none_or, unasked]
  split
  · exact ⟨_, rfl⟩
  · exact ⟨_, rfl⟩

theorem Foreign.identify_eq (plan : Plan) :
    (∃ error, refusal? (fullPath workspace path) bytes = some error ∧
      (identify workspace plan path).value = .error error) ∨
    (refusal? (fullPath workspace path) bytes = none ∧
      ∃ skip, (identify workspace plan path).value = .ok (.error skip)) := by
  rw [identify, foreign.mayCarryHeader_eq, refusal?]
  cases Content.beginsScript bytes with
  | false => exact .inr ⟨rfl, _, rfl⟩
  | true =>
    simp only [Log.Told.bind_value, Log.Told.pure_value, if_true]
    rw [Content.readText_of_readable foreign.opened]
    split
    · exact .inl ⟨_, rfl, rfl⟩
    · cases decoded : Text.decode? bytes with
      | none => exact .inl ⟨_, rfl, rfl⟩
      | some content =>
        obtain ⟨skip, skipped⟩ := foreign.subjectOf_eq plan decoded
        exact .inr ⟨rfl, skip, congrArg Except.ok skipped⟩

/-- **The check of a foreign file changes nothing and makes no record.** It fails exactly when
the file is refused. -/
theorem Foreign.checkFile_eq (plan : Plan) (currentYear : Nat) :
    (checkFile workspace plan currentYear path).workspace = workspace ∧
      (checkFile workspace plan currentYear path).record =
        match refusal? (fullPath workspace path) bytes with
        | some error => .error error
        | none => .ok none := by
  rw [checkFile]
  rcases foreign.identify_eq plan with ⟨error, refused, found⟩ | ⟨fine, skip, found⟩
  · rw [refused, found]
    exact ⟨rfl, rfl⟩
  · rw [fine, found]
    exact ⟨rfl, rfl⟩

end Foreign

/-! ## What becomes of a foreign file -/

/-- What a foreign file may have become while other files were checked. It is what it was when
no fixes are asked for or the tree has no links, and it does not begin to look like a
script. -/
structure Aged (plan : Plan) (workspace : Workspace) (bytes current : ByteArray) : Prop where
  kept : plan.fix = false ∨ workspace.tree.LinkFree → current = bytes
  script : Content.beginsScript current = true → Content.beginsScript bytes = true

theorem Aged.refl (plan : Plan) (workspace : Workspace) (bytes : ByteArray) :
    Aged plan workspace bytes bytes :=
  ⟨fun _ => rfl, id⟩

/-- A fix that reaches a foreign file does so along a link, and leaves it foreign. -/
theorem Repair.foreign {workspace : Workspace} {other path : Path} {kind : FileKind}
    {location : Location} {mode : Nat} {content text : Text}
    (repair : Repair workspace plan currentYear other kind location mode content text)
    (foreign : Foreign workspace path content.encode)
    (file : workspace.FileAt (fullPath workspace path) location mode content.encode)
    (allowed : workspace.user.may .read mode = true) :
    Foreign (rewritten workspace location mode text) path text.encode ∧
      Aged plan workspace content.encode text.encode := by
  have outline := FileTree.SameOutline.put repair.file.stands text.encode
  have unasked : kindOf? path content = none := by
    rw [kindOf?, foreign.unnamed, ← Shebang.kindOfBytes_encode, foreign.unasked]
    rfl
  refine ⟨⟨?_, foreign.unnamed, ?_⟩, ?_, ?_⟩
  · refine (Content.bytes_eq_ok_iff _ _ _).mpr ⟨location, mode, ⟨?_, ?_⟩, allowed⟩
    · exact (outline.locate_congr _ _ _).symm.trans file.located
    · exact FileTree.lookup_put_self _ _ _
  · have same := kindOf_fix repair.made path
    rw [unasked, kindOf?, foreign.unnamed, Option.none_or] at same
    rw [Shebang.kindOfBytes_encode, same]
  · rintro (unfixed | linkFree)
    · exact absurd (repair.asked.symm.trans unfixed) (by decide)
    · have named := ofPath_eq_of_fileAt linkFree repair.file file
      have known := repair.counts.known
      rw [kindOf?, named, ← kindOf?, unasked] at known
      cases known
  · intro script
    obtain ⟨rest, rfl⟩ := Header.beginning_of_fix repair.made
      (Content.exists_of_beginsScript_encode script)
    exact Content.beginsScript_encode rest

/-- A foreign file stays foreign when a file is checked. -/
theorem Checked.foreign {workspace after : Workspace} {other path : Path} {bytes : ByteArray}
    {record : Except Error (Option Record)}
    (checked : Checked workspace plan currentYear other after record)
    (foreign : Foreign workspace path bytes) :
    ∃ current, Foreign after path current ∧ Aged plan workspace bytes current := by
  cases checked with
  | @fixed location mode content text kind repair =>
    obtain ⟨place, bits, file, allowed⟩ := (Content.bytes_eq_ok_iff _ _ _).mp foreign.opened
    by_cases here : location = place
    · subst here
      have same := file.stands
      rw [repair.file.stands, Option.some.injEq, Entry.file.injEq] at same
      obtain ⟨rfl, rfl⟩ := same
      exact ⟨text.encode, repair.foreign foreign file allowed⟩
    · have outline := FileTree.SameOutline.put repair.file.stands text.encode
      refine ⟨bytes, ⟨?_, foreign.unnamed, foreign.unasked⟩, .refl plan workspace bytes⟩
      refine (Content.bytes_eq_ok_iff _ _ _).mpr ⟨place, bits, ⟨?_, ?_⟩, allowed⟩
      · exact (outline.locate_congr _ _ _).symm.trans file.located
      · exact (FileTree.lookup_put_of_ne _ _ here).trans file.stands
  | failed | unread | skipped | judged => exact ⟨bytes, foreign, .refl plan workspace bytes⟩

/-- A foreign file stays foreign while files are checked. -/
theorem Foreign.afterwards {workspace : Workspace} {path : Path} {bytes : ByteArray}
    (foreign : Foreign workspace path bytes) (plan : Plan) (currentYear : Nat)
    (files : List Path) :
    ∃ current, Foreign (checkFiles plan currentYear workspace files).workspace path current ∧
      Aged plan workspace bytes current := by
  induction files generalizing workspace bytes with
  | nil => exact ⟨bytes, foreign, .refl plan workspace bytes⟩
  | cons other others ih =>
    have checked := checkFile_checked workspace plan currentYear other
    obtain ⟨between, still, first⟩ := checked.foreign foreign
    obtain ⟨current, last, second⟩ := ih still
    rw [checkFiles, prepend_workspace]
    refine ⟨current, last, fun same => ?_, fun script => first.script (second.script script)⟩
    rw [← first.kept same]
    exact second.kept (same.imp_right checked.evolved.linkFree)

/-! ## The run without the foreign file -/

theorem fullPath_checkFiles (plan : Plan) (currentYear : Nat) (workspace : Workspace)
    (files : List Path) (path : Path) :
    fullPath (checkFiles plan currentYear workspace files).workspace path =
      fullPath workspace path := by
  induction files generalizing workspace with
  | nil => rfl
  | cons other others ih =>
    have step := (checkFile_checked workspace plan currentYear other).evolved
    rw [checkFiles, prepend_workspace, ih, step.fullPath_eq]

theorem checkFiles_append (plan : Plan) (currentYear : Nat) (workspace : Workspace)
    (earlier later : List Path) :
    (checkFiles plan currentYear workspace (earlier ++ later)).workspace =
        (checkFiles plan currentYear (checkFiles plan currentYear workspace earlier).workspace
          later).workspace ∧
      (checkFiles plan currentYear workspace (earlier ++ later)).records =
        (checkFiles plan currentYear workspace earlier).records ++
          (checkFiles plan currentYear (checkFiles plan currentYear workspace earlier).workspace
            later).records ∧
      (checkFiles plan currentYear workspace (earlier ++ later)).failures =
        (checkFiles plan currentYear workspace earlier).failures ++
          (checkFiles plan currentYear (checkFiles plan currentYear workspace earlier).workspace
            later).failures := by
  induction earlier generalizing workspace with
  | nil => exact ⟨rfl, rfl, rfl⟩
  | cons path others ih =>
    obtain ⟨left, recorded, failed⟩ :=
      ih (checkFile workspace plan currentYear path).workspace
    simp only [List.cons_append, checkFiles, prepend_workspace, prepend_records,
      prepend_failures, left, recorded, failed, List.append_assoc, and_self]

/-- A record is of the file that was checked. -/
theorem path_of_record {workspace : Workspace} {path : Path} {made : Record}
    (recorded : (checkFile workspace plan currentYear path).record? = some made) :
    made.path = path := by
  have checked := checkFile_checked workspace plan currentYear path
  rw [(record_eq_some_iff _ made).mp recorded] at checked
  generalize (checkFile workspace plan currentYear path).workspace = after at checked
  cases checked with
  | judged | fixed => rfl

/-- No run makes a record of a foreign file. -/
theorem Foreign.path_ne_of_record {workspace : Workspace} {path : Path} {bytes : ByteArray}
    (foreign : Foreign workspace path bytes) (files : List Path) :
    ∀ made ∈ (checkFiles plan currentYear workspace files).records, made.path ≠ path := by
  induction files generalizing workspace bytes with
  | nil => exact fun made member => (nomatch member)
  | cons other others ih =>
    obtain ⟨current, still, -⟩ :=
      (checkFile_checked workspace plan currentYear other).foreign foreign
    intro made member
    rw [checkFiles, prepend_records, List.mem_append, Option.mem_toList] at member
    rcases member with recorded | later
    · rintro rfl
      obtain rfl := path_of_record recorded
      have none := (foreign.checkFile_eq plan currentYear).2
      rw [(record_eq_some_iff _ made).mp recorded] at none
      split at none <;> cases none
    · exact ih still made later

/-- The check of a foreign file adds its refusal to a run, if it is refused, and nothing
else. -/
theorem Foreign.checkFiles_beside {workspace : Workspace} {path : Path} {current : ByteArray}
    {earlier : List Path} (later : List Path)
    (foreign : Foreign (checkFiles plan currentYear workspace earlier).workspace path current) :
    (checkFiles plan currentYear workspace (earlier ++ path :: later)).workspace =
        (checkFiles plan currentYear workspace (earlier ++ later)).workspace ∧
      (checkFiles plan currentYear workspace (earlier ++ path :: later)).records =
        (checkFiles plan currentYear workspace (earlier ++ later)).records ∧
      ∃ before after,
        (checkFiles plan currentYear workspace (earlier ++ later)).failures = before ++ after ∧
        (checkFiles plan currentYear workspace (earlier ++ path :: later)).failures =
          before ++ ((refusal? (fullPath workspace path) current).map fun error =>
            ⟨path, error.message⟩).toList ++ after := by
  obtain ⟨same, record⟩ := foreign.checkFile_eq plan currentYear
  rw [fullPath_checkFiles] at record
  obtain ⟨final, recorded, failed⟩ :=
    checkFiles_append plan currentYear workspace earlier (path :: later)
  obtain ⟨rest, kept, others⟩ := checkFiles_append plan currentYear workspace earlier later
  rw [checkFiles, prepend_workspace, same] at final
  rw [checkFiles, prepend_records, same, Outcome.record?, record] at recorded
  rw [checkFiles, prepend_failures, same, Outcome.failure?, record, ← List.append_assoc] at failed
  refine ⟨final.trans rest.symm, ?_, _, _, others, ?_⟩
  · rw [recorded, kept]
    cases refusal? _ current <;> rfl
  · rw [failed]
    cases refusal? _ current <;> rfl

/-- **A foreign file has no part in a run.** There is no record of it, and the run comes to what
a run over the other files comes to, on disk and in its report. The exception is a file that is
refused when its turn comes: then it is listed as a failure among those of the other files, and
the check fails. -/
theorem run_foreign (currentYear : Nat) {workspace : Workspace} {resolution : Walk.Resolution}
    (found : resolutionOf workspace plan = .ok resolution) {path : Path} {bytes : ByteArray}
    (foreign : Foreign workspace path bytes) {earlier later : List Path}
    (listed : resolution.files = earlier ++ path :: later) :
    ∃ report rest current,
      (run workspace plan currentYear).report = .ok report ∧
      (runResolved workspace plan currentYear
        { resolution with files := earlier ++ later }).report = .ok rest ∧
      (run workspace plan currentYear).workspace =
        (runResolved workspace plan currentYear
          { resolution with files := earlier ++ later }).workspace ∧
      (∀ record ∈ report.records, record.path ≠ path) ∧
      (checkFiles plan currentYear workspace earlier).workspace.bytes (fullPath workspace path) =
        .ok current ∧
      Aged plan workspace bytes current ∧
      match refusal? (fullPath workspace path) current with
      | none => report = rest
      | some error =>
        report.records = rest.records ∧ report.exitCode = .checkFailed ∧
          ∃ before after, rest.failures = before ++ after ∧
            report.failures = before ++ ⟨path, error.message⟩ :: after := by
  obtain ⟨final, reported⟩ := run_eq_runResolved currentYear found
  obtain ⟨current, there, aged⟩ := foreign.afterwards plan currentYear earlier
  obtain ⟨same, records, before, after, others, failures⟩ := there.checkFiles_beside later
  have absent : ∀ made ∈ (checkFiles plan currentYear workspace resolution.files).records,
      made.path ≠ path := foreign.path_ne_of_record _
  rw [listed] at absent
  have opened := there.opened
  rw [fullPath_checkFiles] at opened
  rw [final, reported, runResolved, runResolved, listed]
  refine ⟨_, _, current, rfl, rfl, same, absent, opened, aged, ?_⟩
  cases refused : refusal? (fullPath workspace path) current with
  | none =>
    rw [refused] at failures
    simp only [records, others, failures, Option.map_none, Option.toList_none, List.append_nil]
  | some error =>
    rw [refused] at failures
    refine ⟨records, ?_, resolution.missing.map missingFailure ++ resolution.failures ++ before,
      after, ?_, ?_⟩
    · rw [Report.exitCode, if_neg]
      rw [Report.passed_iff, failures]
      simp
    · simp only [others, List.append_assoc]
    · simp only [failures, Option.map_some, Option.toList_some, List.append_assoc,
        List.singleton_append]

/-- The theorem at a script for an unknown interpreter beside a file that is fixed. The script
is skipped. -/
theorem run_foreign_besideFixed :
    let tree : FileTree :=
      ⟨[([], .directory 0o755), (["a.py".toList], .file 0o644 (Text.encode "x".toList)),
        (["tool".toList], .file 0o755 (Text.encode "#!/usr/bin/perl\n".toList))], by decide⟩
    let workspace : Workspace := ⟨tree, .owner, []⟩
    let plan : Plan :=
      ⟨⟨"MIT".toList, "A".toList, .any⟩, true, [⟨"tool".toList⟩, ⟨"a.py".toList⟩], [], 10, false⟩
    let path : Path := ⟨"tool".toList⟩
    let fixed : Record := ⟨⟨"a.py".toList⟩, .python, .absent, true⟩
    Foreign workspace path (Text.encode "#!/usr/bin/perl\n".toList) ∧
      (∃ resolution, resolutionOf workspace plan = .ok resolution ∧
        resolution.files = [⟨"a.py".toList⟩, path]) ∧
      ∃ report, (run workspace plan 2026).report = .ok report ∧ report.records = [fixed] ∧
        (∀ record ∈ report.records, record.path ≠ path) ∧ report.exitCode = .success := by
  intro tree workspace plan path fixed
  have foreign : Foreign workspace path (Text.encode "#!/usr/bin/perl\n".toList) :=
    ⟨by decide +kernel, by decide +kernel, by decide +kernel⟩
  obtain ⟨resolution, found, files⟩ : ∃ resolution, resolutionOf workspace plan = .ok resolution ∧
      resolution.files = [⟨"a.py".toList⟩, path] := ⟨_, rfl, rfl⟩
  have listed : resolution.files = [⟨"a.py".toList⟩] ++ path :: [] := files
  have reported : (run workspace plan 2026).report = .ok ⟨[fixed], [], ⟨2, 0, 0, 0⟩⟩ := by
    decide +kernel
  obtain ⟨report, -, -, same, -, -, absent, -⟩ := run_foreign 2026 found foreign listed
  rw [reported, Except.ok.injEq] at same
  subst same
  exact ⟨foreign, ⟨resolution, found, files⟩, _, reported, rfl, absent, rfl⟩

/-- A script for an unknown interpreter that goes on in bytes that are no text makes a check
fail, though the file is foreign. -/
theorem foreignScript_refused :
    let bytes : ByteArray := Text.encode "#!/usr/bin/perl\n".toList ++ ⟨#[255]⟩
    let tree : FileTree :=
      ⟨[([], .directory 0o755), (["tool".toList], .file 0o755 bytes)], by simp⟩
    let workspace : Workspace := ⟨tree, .owner, []⟩
    let path : Path := ⟨"tool".toList⟩
    let plan : Plan := ⟨⟨"MIT".toList, "A".toList, .any⟩, false, [path], [], 10, false⟩
    Foreign workspace path bytes ∧
      (∃ resolution, resolutionOf workspace plan = .ok resolution ∧ path ∈ resolution.files) ∧
      ∃ report, (run workspace plan 2026).report = .ok report ∧
        report.failures = [⟨path, (Error.encoding (fullPath workspace path)).message⟩] ∧
        report.exitCode = .checkFailed := by
  intro bytes tree workspace path plan
  have foreign : Foreign workspace path bytes :=
    ⟨by decide +kernel, by decide +kernel, by decide +kernel⟩
  obtain ⟨resolution, found, listed⟩ : ∃ resolution,
      resolutionOf workspace plan = .ok resolution ∧ path ∈ resolution.files :=
    ⟨_, rfl, by decide⟩
  have reported : (run workspace plan 2026).report =
      .ok ⟨[], [⟨path, (Error.encoding (fullPath workspace path)).message⟩], ⟨1, 0, 0, 0⟩⟩ := by
    decide +kernel
  exact ⟨foreign, ⟨resolution, found, listed⟩, _, reported, rfl, rfl⟩

end Check

end Hygiene
