import Hygiene.Proofs.Walk.Excluded
import Hygiene.Proofs.Walk.Kept

/-!
# What targets stand for

Each target has its candidates: the file that it names, the files below the directory that it
names, or the files below the working directory that match it as a pattern (`candidates`). A
search goes through the candidates of one target after the other. What it has gathered at any time
is known from the targets that it went through (`Covers`): a target more is its candidates more
(`Covers.addTarget`), although the files below the working directory are looked for only once.

So what targets stand for is known from all their candidates (`resolve_files`). The files that are
kept grow strictly in the order of paths, they are the normal spellings of the candidates that are
not excluded, no kept file is excluded itself, and the targets without candidates that are missing
are told in their order. Up to the spelling of paths the files do not depend on the order of the
targets, nor on how often a target is given.
-/

set_option autoImplicit false

namespace Hygiene.Walk

open Glob (Pattern)
open Hygiene.Path (Sorted)

/-- The files that a target stands for when nothing is excluded. -/
def candidates (workspace : Workspace) (options : Options) (target : Path) : List Path :=
  match targetKind workspace target with
  | .file => [target]
  | .directory => (below workspace options target).1
  | .pattern =>
    match readPattern (withoutHere target.spelling) with
    | .error _ => []
    | .ok pattern =>
      (below workspace options ⟨['.']⟩).1.filter fun path =>
        Pattern.accepts pattern path.normalize.spelling
  | .missing => []

/-- The candidates of targets, each as often as it is come upon. -/
def visits (workspace : Workspace) (options : Options) (targets : List Path) : List Path :=
  targets.flatMap (candidates workspace options)

theorem visits_concat (workspace : Workspace) (options : Options) (targets : List Path)
    (target : Path) :
    visits workspace options (targets ++ [target]) =
      visits workspace options targets ++ candidates workspace options target := by
  rw [visits, List.flatMap_append, List.flatMap_singleton, visits]

/-- A target that is a pattern can be read as one. -/
def Readable (workspace : Workspace) (target : Path) : Prop :=
  targetKind workspace target = .pattern →
    ∃ pattern, readPattern (withoutHere target.spelling) = .ok pattern

/-! ## Going through the candidates -/

section Steps

variable (patterns : List Pattern) (base : Path)

/-- The number of paths that are excluded, a path counted as often as it is given. -/
def excludedVisits (paths : List Path) : Nat :=
  paths.countP (isExcluded patterns base)

theorem keep_eq (search : Search) (path : Path) :
    (search.keep patterns base path).value =
      { search with
        files := keepFile patterns base search.files path
        excluded := search.excluded + excludedVisits patterns base [path] } := by
  rw [Search.keep, keepFile, excludedVisits, List.countP_singleton]
  split <;> rfl

theorem keepAll_eq (search : Search) (paths : List Path) :
    (search.keepAll patterns base paths).value =
      { search with
        files := paths.foldl (keepFile patterns base) search.files
        excluded := search.excluded + excludedVisits patterns base paths } := by
  rw [Search.keepAll]
  induction paths generalizing search with
  | nil => rfl
  | cons path others ih =>
    have visits : excludedVisits patterns base ([path] ++ others) =
        excludedVisits patterns base [path] + excludedVisits patterns base others :=
      List.countP_append
    rw [List.singleton_append] at visits
    rw [List.foldlM_cons, Log.Told.bind_value, keep_eq, ih, visits, ← Nat.add_assoc]
    rfl

end Steps

/-! ## What a search has gathered -/

/-- What is gathered by a search that went through some targets. -/
structure Covers (workspace : Workspace) (options : Options) (patterns : List Pattern)
    (targets : List Path) (search : Search) : Prop where
  files : search.files =
    keptFiles patterns workspace.directoryPath (visits workspace options targets)
  excluded : search.excluded =
    excludedVisits patterns workspace.directoryPath (visits workspace options targets)
  missing : search.missing = targets.filter fun target => targetKind workspace target = .missing
  /-- The files below the working directory are those that a walk finds, once they were asked
  for. -/
  here : ∀ files, search.here = some files → files = (below workspace options ⟨['.']⟩).1

variable {workspace : Workspace} {options : Options} {patterns : List Pattern}
  {earlier : List Path} {search next : Search} {target : Path}

theorem Covers.start : Covers workspace options patterns [] .start :=
  ⟨rfl, rfl, rfl, nofun⟩

namespace Covers

variable (covers : Covers workspace options patterns earlier search)
include covers

/-- The search goes on with the candidates of a target that is not missing. -/
theorem keepAll (walked : Search) (found : targetKind workspace target ≠ .missing)
    (files : walked.files = search.files) (excluded : walked.excluded = search.excluded)
    (missing : walked.missing = search.missing)
    (here : ∀ files, walked.here = some files → files = (below workspace options ⟨['.']⟩).1) :
    Covers workspace options patterns (earlier ++ [target])
      (walked.keepAll patterns workspace.directoryPath
        (candidates workspace options target)).value where
  files := by
    rw [keepAll_eq, files, covers.files, keptFiles, keptFiles, visits_concat, List.foldl_append]
  excluded := by
    rw [keepAll_eq, excluded, covers.excluded, excludedVisits, excludedVisits, excludedVisits,
      visits_concat, List.countP_append]
  missing := by
    rw [keepAll_eq, missing, covers.missing, List.filter_append, List.filter_singleton]
    simp [found]
  here := by
    rw [keepAll_eq]
    exact here

/-- The files below the working directory are found, or were found before. -/
theorem walkHere_files :
    (search.walkHere workspace options).value.2 = (below workspace options ⟨['.']⟩).1 := by
  rw [Search.walkHere]
  split
  · rename_i files known
    exact covers.here files known
  · rfl

theorem walkHere_here (files : List Path)
    (known : (search.walkHere workspace options).value.1.here = some files) :
    files = (below workspace options ⟨['.']⟩).1 := by
  rw [Search.walkHere] at known
  split at known
  · exact covers.here files known
  · exact (Option.some.inj known).symm

omit covers in
theorem walkHere_eq (workspace : Workspace) (options : Options) (search : Search) :
    (search.walkHere workspace options).value.1.files = search.files ∧
      (search.walkHere workspace options).value.1.excluded = search.excluded ∧
      (search.walkHere workspace options).value.1.missing = search.missing := by
  rw [Search.walkHere]
  split <;> exact ⟨rfl, rfl, rfl⟩

/-- **A target more is its candidates more.** -/
theorem addTarget
    (found : (search.addTarget workspace options patterns target).value = .ok next) :
    Readable workspace target ∧ Covers workspace options patterns (earlier ++ [target]) next := by
  rw [Search.addTarget] at found
  dsimp only at found
  split at found
  · rename_i kind
    have only : candidates workspace options target = [target] := by rw [candidates, kind]
    have kept := covers.keepAll search (by simp [kind] : targetKind workspace target ≠ .missing)
      rfl rfl rfl covers.here
    cases found
    rw [only, keepAll_eq] at kept
    rw [keep_eq]
    exact ⟨by simp [Readable, kind], kept⟩
  · rename_i kind
    have below : candidates workspace options target = (below workspace options target).1 := by
      rw [candidates, kind]
    have kept := covers.keepAll (search.walk workspace options target).value.1
      (by simp [kind] : targetKind workspace target ≠ .missing) rfl rfl rfl covers.here
    cases found
    rw [below] at kept
    exact ⟨by simp [Readable, kind], kept⟩
  · rename_i kind
    split at found
    · cases found
    · rename_i pattern read
      have matched : candidates workspace options target =
          (search.walkHere workspace options).value.2.filter fun path =>
            Pattern.accepts pattern path.normalize.spelling := by
        rw [candidates, kind, covers.walkHere_files]
        dsimp only
        rw [read]
      obtain ⟨files, excluded, missing⟩ := walkHere_eq workspace options search
      have kept := covers.keepAll (search.walkHere workspace options).value.1
        (by simp [kind] : targetKind workspace target ≠ .missing) files excluded missing
        covers.walkHere_here
      cases found
      rw [matched] at kept
      exact ⟨fun _ => ⟨pattern, read⟩, kept⟩
  · rename_i kind
    have nothing : candidates workspace options target = [] := by rw [candidates, kind]
    cases found
    refine ⟨by simp [Readable, kind], ?_, ?_, ?_, covers.here⟩
    · rw [visits_concat, nothing, List.append_nil]
      exact covers.files
    · rw [visits_concat, nothing, List.append_nil]
      exact covers.excluded
    · rw [List.filter_append, ← covers.missing]
      simp [kind]

/-- Going through targets gathers the candidates of all of them. -/
theorem addTargets {later : List Path} {last : Search}
    (found : (Search.addTargets workspace options patterns search later).value = .ok last) :
    (∀ target ∈ later, Readable workspace target) ∧
      Covers workspace options patterns (earlier ++ later) last := by
  induction later generalizing earlier search with
  | nil =>
    cases found
    rw [List.append_nil]
    exact ⟨List.forall_mem_nil _, covers⟩
  | cons target others ih =>
    rw [Search.addTargets, Log.Told.bind_value] at found
    split at found
    · rename_i next first
      obtain ⟨readable, more⟩ := covers.addTarget first
      obtain ⟨all, whole⟩ := ih more found
      rw [List.append_assoc] at whole
      exact ⟨List.forall_mem_cons.mpr ⟨readable, all⟩, whole⟩
    · cases found

end Covers

/-! ## When a search comes to an end -/

theorem exists_addTarget (options : Options) (patterns : List Pattern) (search : Search)
    (readable : Readable workspace target) :
    ∃ next, (search.addTarget workspace options patterns target).value = .ok next := by
  rw [Search.addTarget]
  dsimp only
  split
  · exact ⟨_, rfl⟩
  · exact ⟨_, rfl⟩
  · rename_i kind
    obtain ⟨pattern, read⟩ := readable kind
    rw [read]
    exact ⟨_, rfl⟩
  · exact ⟨_, rfl⟩

/-- A search comes to an end when every target that is a pattern can be read as one. -/
theorem exists_addTargets (options : Options) (patterns : List Pattern) (search : Search)
    {targets : List Path} (readable : ∀ target ∈ targets, Readable workspace target) :
    ∃ last, (Search.addTargets workspace options patterns search targets).value = .ok last := by
  induction targets generalizing search with
  | nil => exact ⟨search, rfl⟩
  | cons target others ih =>
    obtain ⟨first, later⟩ := List.forall_mem_cons.mp readable
    obtain ⟨next, found⟩ := exists_addTarget options patterns search first
    rw [Search.addTargets, Log.Told.bind_value, found]
    exact ih next later

/-! ## What is resolved -/

variable (patterns) in
/-- What targets stand for is what a search of them has gathered in the end. -/
theorem resolve_eq_ok_iff {targets : List Path} {resolution : Resolution} :
    (resolve workspace options patterns targets).value = .ok resolution ↔
      ∃ last, (Search.addTargets workspace options patterns .start targets).value = .ok last ∧
        last.resolution = resolution := by
  rw [resolve, Log.Told.bind_value]
  cases (Search.addTargets workspace options patterns .start targets).value with
  | error error =>
    constructor
    · intro same
      cases same
    · rintro ⟨last, found, -⟩
      cases found
  | ok last =>
    constructor
    · intro same
      exact ⟨last, rfl, Except.ok.inj same⟩
    · rintro ⟨other, found, rfl⟩
      cases found
      rfl

theorem covers_of_resolve {targets : List Path} {resolution : Resolution}
    (resolved : (resolve workspace options patterns targets).value = .ok resolution) :
    (∀ target ∈ targets, Readable workspace target) ∧
      ∃ last, Covers workspace options patterns targets last ∧ last.resolution = resolution := by
  obtain ⟨last, found, same⟩ := (resolve_eq_ok_iff patterns).mp resolved
  obtain ⟨readable, covers⟩ := Covers.start.addTargets found
  exact ⟨readable, last, covers, same⟩

/-- Targets are resolved when every one that is a pattern can be read as one. -/
theorem exists_resolve (options : Options) (patterns : List Pattern) {targets : List Path}
    (readable : ∀ target ∈ targets, Readable workspace target) :
    ∃ resolution, (resolve workspace options patterns targets).value = .ok resolution := by
  obtain ⟨last, found⟩ := exists_addTargets options patterns .start readable
  exact ⟨last.resolution, (resolve_eq_ok_iff patterns).mpr ⟨last, found, rfl⟩⟩

/-- The files that targets stand for are those that are kept of all the candidates. -/
theorem files_of_resolve {targets : List Path} {resolution : Resolution}
    (resolved : (resolve workspace options patterns targets).value = .ok resolution) :
    resolution.files =
      keptFiles patterns workspace.directoryPath (visits workspace options targets) := by
  obtain ⟨-, last, covers, rfl⟩ := covers_of_resolve resolved
  exact covers.files

/-- The same targets in another order or number stand for the same files. -/
theorem resolve_reordered {targets others : List Path} {resolution : Resolution}
    (resolved : (resolve workspace options patterns targets).value = .ok resolution)
    (same : ∀ target, target ∈ others ↔ target ∈ targets) :
    ∃ other, (resolve workspace options patterns others).value = .ok other ∧
      other.files.map Path.components = resolution.files.map Path.components ∧
      (SpelledOnce (visits workspace options targets) → other.files = resolution.files) := by
  obtain ⟨readable, -⟩ := covers_of_resolve resolved
  obtain ⟨other, found⟩ := exists_resolve options patterns
    fun target listed => readable target ((same target).mp listed)
  have members : ∀ path, path ∈ visits workspace options others ↔
      path ∈ visits workspace options targets := by
    intro path
    simp only [visits, List.mem_flatMap, same]
  refine ⟨other, found, ?_, fun once => ?_⟩
  · rw [files_of_resolve found, files_of_resolve resolved]
    exact keptFiles_congr _ _ members
  · rw [files_of_resolve found, files_of_resolve resolved]
    exact keptFiles_eq _ _ once members

/-- **What targets stand for.** The files that are kept are sorted by path; each is the normal
spelling of a candidate that is not excluded, and each such candidate is kept in some spelling; no
kept file is excluded; and the missing targets are told in their order. The same targets in another
order or number stand for the same files, which are spelled the same as well unless a file has
several normal spellings among the candidates. -/
theorem resolve_files (workspace : Workspace) (options : Options) (patterns : List Pattern)
    (targets : List Path) {resolution : Resolution}
    (resolved : (resolve workspace options patterns targets).value = .ok resolution) :
    Sorted resolution.files ∧
      (∀ file ∈ resolution.files, ∃ target ∈ targets,
        ∃ path ∈ candidates workspace options target,
          isExcluded patterns workspace.directoryPath path = false ∧ file = path.normalize) ∧
      (∀ target ∈ targets, ∀ path ∈ candidates workspace options target,
        isExcluded patterns workspace.directoryPath path = false →
          ∃ file ∈ resolution.files, file.same path.normalize = true) ∧
      (∀ file ∈ resolution.files, isExcluded patterns workspace.directoryPath file = false) ∧
      resolution.missing = targets.filter (fun target => targetKind workspace target = .missing) ∧
      ∀ others : List Path, (∀ target, target ∈ others ↔ target ∈ targets) →
        ∃ other, (resolve workspace options patterns others).value = .ok other ∧
          other.files.map Path.components = resolution.files.map Path.components ∧
          (SpelledOnce (visits workspace options targets) → other.files = resolution.files) := by
  have files := files_of_resolve resolved
  have missing : resolution.missing =
      targets.filter fun target => targetKind workspace target = .missing := by
    obtain ⟨-, last, covers, rfl⟩ := covers_of_resolve resolved
    exact covers.missing
  have kept : ∀ file ∈ resolution.files, ∃ target ∈ targets,
      ∃ path ∈ candidates workspace options target,
        isExcluded patterns workspace.directoryPath path = false ∧ file = path.normalize := by
    intro file member
    rw [files] at member
    obtain ⟨path, found, included, same⟩ := mem_keptFiles _ _ member
    obtain ⟨target, listed, candidate⟩ := List.mem_flatMap.mp found
    exact ⟨target, listed, path, candidate, included, same⟩
  refine ⟨?_, kept, ?_, ?_, missing, ?_⟩
  · rw [files]
    exact keptFiles_sorted _ _ _
  · intro target listed path candidate included
    have named := (components_mem_keptFiles patterns workspace.directoryPath
      (visits workspace options targets) path.normalize.components).mpr
        ⟨path, List.mem_flatMap.mpr ⟨target, listed, candidate⟩, included, rfl⟩
    rw [← files] at named
    obtain ⟨file, member, same⟩ := List.mem_map.mp named
    exact ⟨file, member, beq_iff_eq.mpr same⟩
  · intro file member
    obtain ⟨target, -, path, -, included, rfl⟩ := kept file member
    rw [isExcluded_normalize patterns rfl, included]
  · exact fun others same => resolve_reordered resolved same

/-- A directory, a pattern that matches a file in it and another one, that file by itself, and a
target that is missing, when a file is excluded. -/
theorem resolve_files_overlapping :
    let tree : FileTree :=
      ⟨[([], .directory 0o755), ([['d']], .directory 0o755),
        ([['d'], ['a', '.', 'p', 'y']], .file 0o644 ByteArray.empty),
        ([['d'], ['c', '.', 'm', 'd']], .file 0o644 ByteArray.empty),
        ([['b', '.', 'p', 'y']], .file 0o644 ByteArray.empty)], by decide⟩
    let workspace : Workspace := ⟨tree, .owner, []⟩
    let targets : List Path := [⟨['d']⟩, ⟨['*', '*', '/', '*', '.', 'p', 'y']⟩,
      ⟨['d', '/', '/', 'a', '.', 'p', 'y']⟩, ⟨['e']⟩]
    ∃ patterns resolution, readPatterns [['*', '.', 'm', 'd']] = .ok patterns ∧
      (resolve workspace .standard patterns targets).value = .ok resolution ∧
      Sorted resolution.files ∧ resolution.missing = [⟨['e']⟩] ∧
      (∀ file ∈ resolution.files, isExcluded patterns workspace.directoryPath file = false) ∧
      (∃ file ∈ resolution.files, file.same ⟨['d', '/', 'a', '.', 'p', 'y']⟩ = true) ∧
      ∃ other, (resolve workspace .standard patterns targets.reverse).value = .ok other ∧
        other.files.map Path.components = resolution.files.map Path.components := by
  intro tree workspace targets
  let patterns : List Pattern := [[.star, .char '.', .char 'm', .char 'd']]
  have readable : ∀ target ∈ targets, Readable workspace target := by
    intro target member _
    simp only [targets, List.mem_cons, List.not_mem_nil, or_false] at member
    rcases member with rfl | rfl | rfl | rfl <;> exact ⟨_, rfl⟩
  obtain ⟨resolution, resolved⟩ := exists_resolve .standard patterns readable
  obtain ⟨sorted, -, complete, included, missing, others⟩ :=
    resolve_files workspace .standard patterns targets resolved
  have absent : targets.filter (fun target => targetKind workspace target = .missing) =
      [⟨['e']⟩] := by decide +kernel
  have named : ⟨['d', '/', '/', 'a', '.', 'p', 'y']⟩ ∈
      candidates workspace .standard ⟨['d', '/', '/', 'a', '.', 'p', 'y']⟩ := by decide +kernel
  obtain ⟨file, member, same⟩ :=
    complete ⟨['d', '/', '/', 'a', '.', 'p', 'y']⟩ (by decide) _ named (by decide +kernel)
  obtain ⟨other, reordered, alike, -⟩ := others targets.reverse fun _ => List.mem_reverse
  exact ⟨patterns, resolution, rfl, resolved, sorted, missing.trans absent, included,
    ⟨file, member, same⟩, other, reordered, alike⟩

end Hygiene.Walk
