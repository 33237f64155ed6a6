import Hygiene.Proofs.Check.Independence
import Hygiene.Proofs.Check.Repeat
import Hygiene.Proofs.Header.Replaced
import Hygiene.Proofs.Header.Verification

/-!
# Files that outgrow the limit

A file that may be read and replaced is fixed, if its header is not correct and the notice can
be read back (`Presented.checkFile_fixed`). The size of a file is judged before it is read, but
the size of a fixed text is not judged before it is written. So a file that the notice takes
over the limit is fixed once, and from then on its check ends with a refusal to read it
(`Repair.checkFile_refuses`). A second run therefore does not always confirm the first one
(`rerun_refuses`).
-/

set_option autoImplicit false

namespace Hygiene

/-! ## The size of a text on disk -/

namespace Text

theorem size_encode_append (left right : Text) :
    (left ++ right).encode.size = left.encode.size + right.encode.size := by
  rw [encode_eq_utf8Encode, encode_eq_utf8Encode, encode_eq_utf8Encode, List.utf8Encode_append,
    ByteArray.size_append]

theorem size_encode_flatten_replicate (count : Nat) (text : Text) :
    (Text.encode (List.replicate count text).flatten).size = count * text.encode.size := by
  induction count with
  | zero => simp [encode]
  | succ count ih =>
    rw [List.replicate_succ, List.flatten_cons, size_encode_append, ih, Nat.succ_mul, Nat.add_comm]

end Text

/-! ## Contents without a header -/

namespace Header

/-- A content without a shebang line and without a header gets the notice and an empty line in
front of it. -/
theorem fix_of_absent {kind : FileKind} {notice : Notice} {scanLines : Nat} {content : Text}
    (noScript : Shebang.split content = (none, content)) (filled : content ≠ [])
    (begins : ∀ line ∈ (Text.lines content).head?, Text.isBlank line = false)
    (absent : classify kind notice scanLines content = .absent) (currentYear : Nat) :
    fix? kind notice scanLines currentYear content =
      some (notice.render kind.layout currentYear ++ '\n' :: content) := by
  have body : (Shebang.split content).2 = content := congrArg Prod.snd noScript
  have status : (classify kind notice scanLines (Shebang.split content).2).status ≠ .correct := by
    rw [body, absent]
    decide
  have left : remainder (classify kind notice scanLines content) content = content := by
    rw [absent]
    exact dropBlankLines_of_head begins
  rw [fix_of_status_ne currentYear status, body, left, noScript, assemble, if_neg]
  · rfl
  · simpa using filled

/-- A Python source that begins with a line of code. -/
def code (rest : Text) : Text :=
  'x' :: '=' :: '1' :: '\n' :: rest

theorem lines_code (rest : Text) :
    Text.lines (code rest) = ['x', '=', '1', '\n'] :: Text.lines rest :=
  Text.lines_append_lineFeed ['x', '=', '1'] rest (by decide)

theorem flatten_replicate_code (count : Nat) :
    (List.replicate (count + 1) ['x', '=', '1', '\n']).flatten =
      code (List.replicate count ['x', '=', '1', '\n']).flatten := by
  rw [List.replicate_succ, List.flatten_cons]
  rfl

/-- A line of code is no header, whatever stands below it. -/
theorem classify_code (notice : Notice) (scanLines : Nat) (rest : Text) :
    classify .python notice scanLines (code rest) = .absent := by
  have other : notice.matchesLines FileKind.python.layout
      (((['x', '=', '1', '\n'] :: Text.lines rest).take FileKind.python.layout.lineCount).map
        Text.lineContent) = false := by
    rw [Notice.matchesLines.eq_def]
    split <;> rfl
  have top : region FileKind.python.marks (code rest) ['x', '=', '1', '\n'] = .none := rfl
  have unmentioned : (scanLines = 0 || !mentionsKeyword ['x', '=', '1', '\n']) = true := by
    rw [Bool.or_eq_true]
    exact .inr (by decide)
  rw [classify, lines_code, if_neg (Bool.eq_false_iff.mp other), judge, lines_code]
  dsimp only
  rw [top]
  dsimp only
  rw [judgeFirstLine, if_pos unmentioned]

/-- Code gets the notice and an empty line in front of it. -/
theorem fix_code (notice : Notice) (scanLines currentYear : Nat) (rest : Text) :
    fix? .python notice scanLines currentYear (code rest) =
      some (notice.render FileKind.python.layout currentYear ++ '\n' :: code rest) := by
  have filled : code rest ≠ [] := List.cons_ne_nil _ _
  have begins : ∀ line ∈ (Text.lines (code rest)).head?, Text.isBlank line = false := by
    rw [lines_code]
    intro line first
    cases first
    decide
  exact fix_of_absent (Shebang.split_of_not_opens rfl) filled begins
    (classify_code notice scanLines rest) currentYear

end Header

namespace Check

variable {plan : Plan} {currentYear : Nat} {workspace : Workspace} {path : Path}
  {kind : FileKind} {location : Location} {mode : Nat} {text : Text}

/-! ## Files that are fixed -/

/-- **A file that may be read and replaced is fixed.** Its header has to be wrong, and the notice
has to be one that can be read back. -/
theorem Presented.checkFile_fixed
    (presented : Presented plan workspace path kind location mode text)
    (small : text.encode.size ≤ Content.maxSize) (asked : plan.fix = true)
    (differs : statusOf plan kind text ≠ .correct) (fits : plan.notice.FitsLines)
    (writes : plan.notice.year.Writes currentYear)
    (replaceable : workspace.mayChangeNames location.dropLast = true) :
    ∃ fixed, Repair workspace plan currentYear path kind location mode text fixed ∧
      (checkFile workspace plan currentYear path).record =
        .ok (some ⟨path, kind, statusOf plan kind text, true⟩) ∧
      (checkFile workspace plan currentYear path).workspace =
        rewritten workspace location mode fixed := by
  cases made : Header.fix? kind plan.notice plan.scanLines currentYear text with
  | none => exact absurd ((fix_eq_none_iff_statusOf plan kind currentYear text).mp made) differs
  | some fixed =>
    have correct : statusOf plan kind fixed = .correct :=
      (Header.fixed_correct_iff made).mpr ⟨fits, writes⟩
    have wanted : fixed? plan currentYear ⟨kind, text⟩ = some fixed := by
      rw [fixed?, if_pos asked]
      exact made
    have written := presented.file.writeText_eq fixed
    rw [if_pos replaceable] at written
    refine ⟨fixed, ⟨asked, presented.file, presented.counts, made, correct⟩, ?_⟩
    rw [checkFile, presented.identify_eq, if_neg (Nat.not_lt.mpr small)]
    dsimp only
    rw [checkSubject, wanted]
    dsimp only
    rw [applyFix, if_pos correct]
    dsimp only
    rw [written]
    exact ⟨rfl, rfl⟩

/-! ## Files that are refused afterwards -/

/-- A file that was fixed to a text over the limit is refused when it is checked again, and
nothing changes any more. -/
theorem Repair.checkFile_refuses {fixed : Text}
    (repair : Repair workspace plan currentYear path kind location mode text fixed)
    (readable : workspace.user.may .read mode = true)
    (large : Content.maxSize < fixed.encode.size) :
    (checkFile (rewritten workspace location mode fixed) plan currentYear path).record =
        .error (.fileTooLarge (fullPath workspace path) fixed.encode.size Content.maxSize) ∧
      (checkFile (rewritten workspace location mode fixed) plan currentYear path).workspace =
        rewritten workspace location mode fixed := by
  have refused := @Sound.record_eq plan currentYear _ _ _ _ _ _ (repair.sound readable)
  rw [if_pos large] at refused
  refine ⟨refused, ?_⟩
  have checked := checkFile_checked (rewritten workspace location mode fixed) plan currentYear path
  rw [refused] at checked
  generalize (checkFile (rewritten workspace location mode fixed) plan currentYear
    path).workspace = after at *
  cases checked
  rfl

/-- A run over a single file is the check of that file. -/
theorem run_single (alone : plan.targets = [path]) (all : plan.exclude = [])
    (normal : Walk.keptFiles [] workspace.directoryPath [path] = [path])
    (plain : PlainTarget workspace path) :
    ∃ report, (run workspace plan currentYear).report = .ok report ∧
      (run workspace plan currentYear).workspace =
        (checkFile workspace plan currentYear path).workspace ∧
      report.records = (checkFile workspace plan currentYear path).record?.toList ∧
      report.failures = ((checkFile workspace plan currentYear path).failure? path).toList := by
  have readable : Walk.readPatterns plan.exclude = .ok [] := by
    rw [all]
    rfl
  have files : ∀ target ∈ plan.targets, PlainTarget workspace target := by
    rw [alone]
    exact List.forall_mem_singleton.mpr plain
  obtain ⟨report, reported, after, records, failures⟩ :=
    run_of_plainTargets currentYear files readable
  rw [alone, normal, checkFiles] at after records failures
  rw [prepend_workspace] at after
  rw [prepend_records] at records
  rw [prepend_failures] at failures
  exact ⟨report, reported, after, records.trans (List.append_nil _),
    failures.trans (List.append_nil _)⟩

/-! ## A source at the limit -/

/-- The name of a Python source. -/
def sourceName : Text :=
  ['a', '.', 'p', 'y']

/-- A workspace with a single source in it. -/
def lone (content : Text) : Workspace :=
  ⟨⟨[([], .directory 0o755), ([sourceName], .file 0o644 content.encode)], by simp⟩, .owner, []⟩

/-- A plan to fix the single source. -/
def lonePlan : Plan :=
  ⟨⟨"MIT".toList, "Acme".toList, .fixed 2024⟩, true, [⟨sourceName⟩], [], 10, false⟩

theorem lone_linkFree (content : Text) : (lone content).tree.LinkFree :=
  FileTree.linkFree_of_entries (by simp [lone, Entry.isLink])

theorem lone_fileAt (content : Text) :
    (lone content).FileAt (fullPath (lone content) ⟨sourceName⟩) [sourceName] 0o644
      content.encode :=
  ⟨rfl, rfl⟩

theorem lone_presented (content : Text) :
    Presented lonePlan (lone content) ⟨sourceName⟩ .python [sourceName] 0o644 content :=
  ⟨lone_fileAt content, rfl, rfl, fun skipped => Bool.noConfusion skipped.1⟩

theorem lone_plain (content : Text) : PlainTarget (lone content) ⟨sourceName⟩ := by
  refine ⟨⟨rfl, by decide⟩, ?_⟩
  rw [Workspace.isFile, (lone_fileAt content).examine]

theorem lone_rewritten (content fixed : Text) :
    rewritten (lone content) [sourceName] 0o644 fixed = lone fixed :=
  rfl

/-- A source that begins with code is fixed by the first run. If the notice takes it over the
limit, the second run has nothing to say of it but that it cannot be read. -/
theorem lone_rerun {content rest : Text} (begins : content = Header.code rest)
    (small : content.encode.size ≤ Content.maxSize)
    (large : Content.maxSize <
      ((lonePlan.notice.render FileKind.python.layout 2026).encode.size + content.encode.size)) :
    ∃ report after again, (run (lone content) lonePlan 2026).report = .ok report ∧
      report.fixed = lonePlan.targets ∧ (run (lone content) lonePlan 2026).workspace = after ∧
      (run after lonePlan 2026).report = .ok again ∧ again.records = [] ∧
      again.failures.map Failure.path = lonePlan.targets := by
  have made : Header.fix? .python lonePlan.notice lonePlan.scanLines 2026 content =
      some (lonePlan.notice.render FileKind.python.layout 2026 ++ ['\n'] ++ content) := by
    rw [begins, Header.fix_code, List.append_assoc]
    rfl
  generalize fixedText : lonePlan.notice.render FileKind.python.layout 2026 ++ ['\n'] ++ content =
    fixed at made
  have grown : Content.maxSize < fixed.encode.size := by
    rw [← fixedText, Text.size_encode_append, Text.size_encode_append]
    omega
  have differs : statusOf lonePlan .python content ≠ .correct := by
    intro correct
    rw [(fix_eq_none_iff_statusOf lonePlan .python 2026 _).mpr correct] at made
    cases made
  obtain ⟨text, repair, recorded, left⟩ :=
    (lone_presented content).checkFile_fixed small rfl differs
      ⟨by decide, by decide⟩ (by decide : lonePlan.notice.year.Writes 2026) rfl
  obtain rfl := Option.some.inj (repair.made.symm.trans made)
  obtain ⟨refused, -⟩ := repair.checkFile_refuses rfl grown
  rw [lone_rewritten] at left refused
  obtain ⟨report, reported, after, records, -⟩ :
      ∃ report, (run (lone content) lonePlan 2026).report = .ok report ∧ _ ∧ _ ∧ _ :=
    run_single rfl rfl rfl (lone_plain content)
  obtain ⟨again, repeated, -, none, failures⟩ :
      ∃ again, (run (lone text) lonePlan 2026).report = .ok again ∧ _ ∧ _ ∧ _ :=
    run_single rfl rfl rfl (lone_plain text)
  refine ⟨report, lone text, again, reported, ?_, after.trans left, repeated, ?_, ?_⟩
  · rw [Report.fixed, records, (record_eq_some_iff _ _).mpr recorded]
    rfl
  · rw [none, Outcome.record?, refused]
    rfl
  · rw [failures, Outcome.failure?, refused]
    rfl

/-- **A second run can refuse what the first one fixed.** It does for a source of as many bytes
as the limit allows. -/
theorem rerun_refuses :
    let content : Text := (List.replicate 2621440 ['x', '=', '1', '\n']).flatten
    let tree : FileTree :=
      ⟨[([], .directory 0o755), (["a.py".toList], .file 0o644 content.encode)], by simp⟩
    let workspace : Workspace := ⟨tree, .owner, []⟩
    let path : Path := ⟨"a.py".toList⟩
    let plan : Plan := ⟨⟨"MIT".toList, "Acme".toList, .fixed 2024⟩, true, [path], [], 10, false⟩
    tree.LinkFree ∧ ∃ report after again,
      (run workspace plan 2026).report = .ok report ∧ report.fixed = [path] ∧
      (run workspace plan 2026).workspace = after ∧
      (run after plan 2026).report = .ok again ∧ again.records = [] ∧
      again.failures.map Failure.path = [path] := by
  intro content tree workspace path plan
  have begins : content =
      Header.code (List.replicate 2621439 ['x', '=', '1', '\n']).flatten :=
    Header.flatten_replicate_code 2621439
  have size : content.encode.size = Content.maxSize :=
    Text.size_encode_flatten_replicate 2621440 ['x', '=', '1', '\n']
  have notice : 0 < (lonePlan.notice.render FileKind.python.layout 2026).encode.size := by decide
  have large : Content.maxSize <
      (lonePlan.notice.render FileKind.python.layout 2026).encode.size + content.encode.size := by
    omega
  exact ⟨lone_linkFree content, lone_rerun begins size.le large⟩

end Check

end Hygiene
