import Hygiene.Proofs.Path.Order
import Hygiene.Walk.Targets

/-!
# The files that targets stand for

When all targets are files, nothing is missing and no directory is walked. The files that are
kept are the targets that are not excluded, in their normal spelling (`mem_keptFiles`). They
are sorted by path (`keptFiles_sorted`), so up to their spelling they do not depend on the
order of the targets, nor on how often a target is given (`keptFiles_congr`).
-/

set_option autoImplicit false

namespace Hygiene.Walk

open Glob (Pattern)
open Hygiene.Path (Sorted)

/-! ## Putting a path in its place -/

theorem mem_insertPath {path file : Path} {files : List Path}
    (member : file ∈ insertPath path files) : file = path ∨ file ∈ files := by
  induction files with
  | nil => exact .inl (List.mem_singleton.mp member)
  | cons first others ih =>
    rw [insertPath] at member
    split at member
    · exact List.mem_cons.mp member
    · exact .inr member
    · rcases List.mem_cons.mp member with rfl | later
      · exact .inr List.mem_cons_self
      · exact (ih later).imp_right (List.mem_cons_of_mem first)

/-- The path is there afterwards in some spelling, and so are all the others. -/
theorem components_mem_insertPath (path : Path) (files : List Path)
    (components : List Path.Component) :
    components ∈ (insertPath path files).map Path.components ↔
      components = path.components ∨ components ∈ files.map Path.components := by
  induction files with
  | nil => simp [insertPath]
  | cons first others ih =>
    rw [insertPath]
    split
    · rw [List.map_cons, List.mem_cons]
    · rename_i same
      rw [(Path.order_eq_iff path first).mp same, List.map_cons, List.mem_cons]
      exact (or_iff_right_of_imp Or.inl).symm
    · rw [List.map_cons, List.mem_cons, ih, List.map_cons, List.mem_cons]
      exact or_left_comm

theorem insertPath_sorted (path : Path) {files : List Path} (sorted : Sorted files) :
    Sorted (insertPath path files) := by
  induction files with
  | nil => exact List.pairwise_singleton _ _
  | cons first others ih =>
    obtain ⟨before, rest⟩ := List.pairwise_cons.mp sorted
    rw [insertPath]
    split
    · rename_i lower
      refine List.pairwise_cons.mpr ⟨fun file member => ?_, sorted⟩
      rcases List.mem_cons.mp member with rfl | later
      · exact lower
      · exact Path.order_lt_trans lower (before file later)
    · exact sorted
    · rename_i higher
      refine List.pairwise_cons.mpr ⟨fun file member => ?_, ih rest⟩
      rcases mem_insertPath member with rfl | later
      · exact (Path.order_gt_iff file first).mp higher
      · exact before file later

/-! ## The files that are kept -/

/-- The files that are kept once a target was looked at that is a file. -/
def keepFile (patterns : List Pattern) (base : Path) (files : List Path) (target : Path) :
    List Path :=
  if isExcluded patterns base target then files else insertPath target.normalize files

/-- The files that are kept when all targets are files. -/
def keptFiles (patterns : List Pattern) (base : Path) (targets : List Path) : List Path :=
  targets.foldl (keepFile patterns base) []

variable (patterns : List Pattern) (base : Path)

theorem foldl_keepFile_sorted (targets : List Path) {files : List Path} (sorted : Sorted files) :
    Sorted (targets.foldl (keepFile patterns base) files) := by
  induction targets generalizing files with
  | nil => exact sorted
  | cons target others ih =>
    apply ih
    rw [keepFile]
    split
    · exact sorted
    · exact insertPath_sorted _ sorted

theorem keptFiles_sorted (targets : List Path) : Sorted (keptFiles patterns base targets) :=
  foldl_keepFile_sorted patterns base targets List.Pairwise.nil

theorem mem_foldl_keepFile {targets files : List Path} {file : Path}
    (member : file ∈ targets.foldl (keepFile patterns base) files) :
    file ∈ files ∨ ∃ target ∈ targets, isExcluded patterns base target = false ∧
      file = target.normalize := by
  induction targets generalizing files with
  | nil => exact .inl member
  | cons target others ih =>
    rcases ih member with early | ⟨other, later, kept, same⟩
    · rw [keepFile] at early
      split at early
      · exact .inl early
      · rename_i included
        rcases mem_insertPath early with same | before
        · exact .inr ⟨target, List.mem_cons_self, by simpa using included, same⟩
        · exact .inl before
    · exact .inr ⟨other, List.mem_cons_of_mem target later, kept, same⟩

/-- Every file that is kept is the normal spelling of a target that is not excluded. -/
theorem mem_keptFiles {targets : List Path} {file : Path}
    (member : file ∈ keptFiles patterns base targets) :
    ∃ target ∈ targets, isExcluded patterns base target = false ∧ file = target.normalize := by
  rcases mem_foldl_keepFile patterns base member with early | kept
  · cases early
  · exact kept

theorem components_mem_foldl_keepFile (targets files : List Path)
    (components : List Path.Component) :
    components ∈ (targets.foldl (keepFile patterns base) files).map Path.components ↔
      components ∈ files.map Path.components ∨
        ∃ target ∈ targets, isExcluded patterns base target = false ∧
          components = target.normalize.components := by
  induction targets generalizing files with
  | nil => simp
  | cons target others ih =>
    rw [List.foldl_cons, ih, keepFile]
    cases excluded : isExcluded patterns base target with
    | true => simp [excluded]
    | false =>
      rw [if_neg (by simp), components_mem_insertPath]
      simp only [List.mem_cons, exists_eq_or_imp, excluded, true_and]
      rw [or_assoc, or_left_comm]

/-- Every target that is not excluded is kept in some spelling. -/
theorem components_mem_keptFiles (targets : List Path) (components : List Path.Component) :
    components ∈ (keptFiles patterns base targets).map Path.components ↔
      ∃ target ∈ targets, isExcluded patterns base target = false ∧
        components = target.normalize.components := by
  rw [keptFiles, components_mem_foldl_keepFile, List.map_nil]
  exact or_iff_right List.not_mem_nil

/-- **Up to their spelling, the files that are kept are known by which targets there are.** -/
theorem keptFiles_congr {left right : List Path}
    (same : ∀ target, target ∈ left ↔ target ∈ right) :
    (keptFiles patterns base left).map Path.components =
      (keptFiles patterns base right).map Path.components := by
  refine (keptFiles_sorted patterns base left).components_eq (keptFiles_sorted patterns base right)
    fun components => ?_
  rw [components_mem_keptFiles, components_mem_keptFiles]
  constructor
  · rintro ⟨target, member, kept⟩
    exact ⟨target, (same target).mp member, kept⟩
  · rintro ⟨target, member, kept⟩
    exact ⟨target, (same target).mpr member, kept⟩

/-- No path has two normal spellings among the targets. -/
def SpelledOnce (targets : List Path) : Prop :=
  ∀ left ∈ targets, ∀ right ∈ targets,
    left.normalize.components = right.normalize.components → left.normalize = right.normalize

/-- Then the files that are kept are spelled the same, whatever the order of the targets. -/
theorem keptFiles_eq {targets others : List Path} (once : SpelledOnce targets)
    (same : ∀ target, target ∈ others ↔ target ∈ targets) :
    keptFiles patterns base others = keptFiles patterns base targets := by
  have alike : ∀ left ∈ keptFiles patterns base others, ∀ right ∈ keptFiles patterns base targets,
      left.components = right.components → left = right := by
    intro left first right second
    obtain ⟨target, member, -, rfl⟩ := mem_keptFiles patterns base first
    obtain ⟨other, listed, -, rfl⟩ := mem_keptFiles patterns base second
    exact once target ((same target).mp member) other listed
  have components := keptFiles_congr patterns base same
  generalize keptFiles patterns base others = left at alike components
  generalize keptFiles patterns base targets = right at alike components
  induction left generalizing right with
  | nil => exact (List.map_eq_nil_iff.mp components.symm).symm
  | cons file left ih =>
    obtain ⟨other, rest, rfl, first, later⟩ := List.map_eq_cons_iff.mp components.symm
    rw [alike file List.mem_cons_self other List.mem_cons_self first.symm,
      ih rest (fun path member found listed => alike path (List.mem_cons_of_mem file member) found
        (List.mem_cons_of_mem other listed)) later.symm]

/-! ## The search for files -/

theorem keep_value (search : Search) (path : Path) :
    (search.keep patterns base path).value.files = keepFile patterns base search.files path ∧
      (search.keep patterns base path).value.missing = search.missing ∧
      (search.keep patterns base path).value.failures = search.failures := by
  rw [Search.keep, keepFile]
  split <;> exact ⟨rfl, rfl, rfl⟩

variable {workspace : Workspace} (options : Options)

theorem addTarget_of_isFile (search : Search) {target : Path}
    (file : workspace.isFile (workspace.directoryPath.join target) = true) :
    (search.addTarget workspace options patterns target).value =
      .ok (search.keep patterns workspace.directoryPath target).value := by
  have kind : targetKind workspace target = .file := if_pos file
  rw [Search.addTarget]
  simp only [kind]
  rfl

theorem addTargets_of_isFile (search : Search) {targets : List Path}
    (files : ∀ target ∈ targets,
      workspace.isFile (workspace.directoryPath.join target) = true) :
    ∃ next, (Search.addTargets workspace options patterns search targets).value = .ok next ∧
      next.files = targets.foldl (keepFile patterns workspace.directoryPath) search.files ∧
      next.missing = search.missing ∧ next.failures = search.failures := by
  induction targets generalizing search with
  | nil => exact ⟨search, rfl, rfl, rfl, rfl⟩
  | cons target others ih =>
    obtain ⟨kept, missing, failures⟩ := keep_value patterns workspace.directoryPath search target
    obtain ⟨next, found, later, absent, walked⟩ :=
      ih (search.keep patterns workspace.directoryPath target).value
        fun other member => files other (List.mem_cons_of_mem target member)
    refine ⟨next, ?_, ?_, absent.trans missing, walked.trans failures⟩
    · rw [Search.addTargets, Log.Told.bind_value,
        addTarget_of_isFile patterns options search (files target List.mem_cons_self)]
      exact found
    · rw [later, kept, List.foldl_cons]

/-- Targets that are files stand for those of them that are kept, and nothing goes wrong. -/
theorem resolve_of_isFile {targets : List Path}
    (files : ∀ target ∈ targets,
      workspace.isFile (workspace.directoryPath.join target) = true) :
    ∃ resolution, (resolve workspace options patterns targets).value = .ok resolution ∧
      resolution.files = keptFiles patterns workspace.directoryPath targets ∧
      resolution.missing = [] ∧ resolution.failures = [] := by
  obtain ⟨search, found, kept, missing, failures⟩ :=
    addTargets_of_isFile patterns options .start files
  refine ⟨search.resolution, ?_, kept, missing, failures⟩
  rw [resolve, Log.Told.bind_value, found]
  rfl

end Hygiene.Walk
