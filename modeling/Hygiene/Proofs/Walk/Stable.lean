import Hygiene.Proofs.Check.Access
import Hygiene.Proofs.Tree.Listing
import Hygiene.Walk.Targets

/-!
# Searches that come to the same

A search for files reads little of what files hold: the ignore files, and the marks that lead
to further ones. These are known by their names (`Ignore.ruleNames`), because a path that is
read for rules ends in one of them. Two workspaces with the same listing that agree on the
files of these names have the same rules. So targets stand for the same files in both, and the
same obstacles are met (`resolve_congr`).
-/

set_option autoImplicit false

namespace Hygiene

/-! ## Rule files -/

namespace Ignore

/-- The names of the files that rules are read from, or that lead to such files. -/
def ruleNames : List Text :=
  [".ignore".toList, ".gitignore".toList, ".git".toList, "commondir".toList, "exclude".toList]

theorem isName_of_mem_ruleNames {name : Text} (listed : name ∈ ruleNames) :
    FileTree.IsName name :=
  have each : ∀ name ∈ ruleNames, FileTree.IsName name := by decide
  each name listed

/-- The path of a rule file ends in its name, whatever stands in front of it. -/
theorem endsIn_ruleName {name : Text} (listed : name ∈ ruleNames) (base : Path) :
    (base.join ⟨name⟩).EndsIn name :=
  have named := isName_of_mem_ruleNames listed
  named.endsIn.join base named.isAbsolute_eq

/-- The rules that a repository keeps for itself stand in a rule file. -/
theorem endsIn_exclude (base : Path) :
    (base.join ⟨"info/exclude".toList⟩).EndsIn "exclude".toList :=
  have ends : (Path.mk "info/exclude".toList).EndsIn "exclude".toList :=
    ⟨[.name "info".toList], by decide⟩
  ends.join base (by decide)

end Ignore

/-! ## Workspaces with the same rules -/

theorem Entry.mode_outline (entry : Entry) : entry.outline.mode = entry.mode := by
  cases entry <;> rfl

/-- Two computations with the same image fail alike, or both succeed. -/
theorem cases_of_map_eq {ε α β : Type} {f : α → β} {first second : Except ε α}
    (same : second.map f = first.map f) :
    (∃ error, first = .error error ∧ second = .error error) ∨
      ∃ value other, first = .ok value ∧ second = .ok other ∧ f other = f value := by
  cases first with
  | error error =>
    cases second with
    | error other =>
      cases same
      exact .inl ⟨error, rfl, rfl⟩
    | ok other => cases same
  | ok value =>
    cases second with
    | error error => cases same
    | ok other => exact .inr ⟨value, other, rfl, rfl, Except.ok.inj same⟩

namespace Workspace

/-- Two workspaces that differ at most in what files hold that no rules are read from. -/
structure SameRules (first second : Workspace) : Prop extends SameShape first second where
  listing : second.tree.listing = first.tree.listing
  rules : ∀ (directory : Location), ∀ name ∈ Ignore.ruleNames,
    second.tree.lookup (directory ++ [name]) = first.tree.lookup (directory ++ [name])

namespace SameShape

variable {first second : Workspace} (shape : SameShape first second)
include shape

/-- Whatever a path leads to, its outline is the same. -/
theorem examine_outline (path : Path) :
    (second.examine path).map Entry.outline = (first.examine path).map Entry.outline := by
  rw [examine, examine, shape.locate_eq]
  cases first.locate path with
  | error error => rfl
  | ok location =>
    have outlines := shape.outline location
    simp only [bind, Except.bind]
    cases here : first.tree.lookup location with
    | none =>
      rw [here, Option.map_none, eq_comm, Option.map_eq_none_iff] at outlines
      rw [outlines]
    | some entry =>
      rw [here, Option.map_some, eq_comm, Option.map_eq_some_iff] at outlines
      obtain ⟨other, there, same⟩ := outlines
      rw [there]
      exact congrArg Except.ok same

theorem isFile_eq (path : Path) : second.isFile path = first.isFile path := by
  rw [isFile, isFile]
  rcases cases_of_map_eq (shape.examine_outline path) with
    ⟨error, here, there⟩ | ⟨entry, other, here, there, outline⟩
  · rw [here, there]
  · rw [here, there]
    cases entry <;> cases other <;> cases outline <;> rfl

theorem isDirectory_eq (path : Path) : second.isDirectory path = first.isDirectory path := by
  rw [isDirectory, isDirectory]
  rcases cases_of_map_eq (shape.examine_outline path) with
    ⟨error, here, there⟩ | ⟨entry, other, here, there, outline⟩
  · rw [here, there]
  · rw [here, there]
    cases entry <;> cases other <;> cases outline <;> rfl

theorem holds_eq (path : Path) : second.holds path = first.holds path := by
  rw [holds, holds]
  rcases cases_of_map_eq (shape.examine_outline path) with
    ⟨error, here, there⟩ | ⟨entry, other, here, there, -⟩
  · rw [here, there]
  · rw [here, there]
    rfl

theorem openEntry_outline (path : Path) :
    (second.openEntry path).map Entry.outline = (first.openEntry path).map Entry.outline := by
  rw [openEntry, openEntry, shape.user]
  rcases cases_of_map_eq (shape.examine_outline path) with
    ⟨error, here, there⟩ | ⟨entry, other, here, there, outline⟩
  · rw [here, there]
  · have mode : other.mode = entry.mode := by
      rw [← Entry.mode_outline other, outline, Entry.mode_outline]
    rw [here, there]
    simp only [bind, Except.bind, pure, Except.pure, mode]
    split
    · exact congrArg Except.ok outline
    · rfl

end SameShape

namespace SameRules

variable {first second : Workspace} (same : SameRules first second)
include same

/-- The entries of a directory are the same, but for what its files hold. -/
theorem children_outline (path : Path) :
    (second.children path).map (List.map (Prod.map id Entry.outline)) =
      (first.children path).map (List.map (Prod.map id Entry.outline)) := by
  rw [children, children, same.locate_eq]
  cases first.locate path with
  | error error => rfl
  | ok location =>
    have listed := FileTree.children_congr same.listing location
    simp only [bind, Except.bind, pure, Except.pure]
    rcases cases_of_map_eq (same.openEntry_outline path) with
      ⟨error, here, there⟩ | ⟨entry, other, here, there, outline⟩
    · rw [here, there]
    · rw [here, there]
      cases entry with
      | file mode content =>
        cases other <;> cases outline
        rfl
      | directory mode =>
        cases other <;> cases outline
        exact congrArg Except.ok listed
      | link target =>
        cases other <;> cases outline
        rfl

variable (linkFree : first.tree.LinkFree)
include linkFree

/-- A path with the name of a rule file leads to the same bytes. -/
theorem bytes_eq {path : Path} {name : Text} (ends : path.EndsIn name)
    (listed : name ∈ Ignore.ruleNames) : second.bytes path = first.bytes path := by
  have examined : second.examine path = first.examine path := by
    rw [examine, examine, same.locate_eq]
    cases located : first.locate path with
    | error error => rfl
    | ok location =>
      obtain ⟨before, rfl⟩ := ends.location_eq linkFree located
      simp only [bind, Except.bind, same.rules before name listed]
  rw [bytes, bytes, openEntry, openEntry, examined, same.user]

end SameRules

end Workspace

/-! ## The rules of a directory -/

namespace Ignore

open Workspace (SameRules)

variable {first second : Workspace} (same : SameRules first second)
  (linkFree : first.tree.LinkFree)
include same linkFree

theorem Listing.load_congr {file : Path} {name : Text} (ends : file.EndsIn name)
    (listed : name ∈ ruleNames) : load second file = load first file := by
  rw [load, load, same.bytes_eq linkFree ends listed]

namespace Level

theorem firstLine_congr {file : Path} {name : Text} (ends : file.EndsIn name)
    (listed : name ∈ ruleNames) : firstLine? second file = firstLine? first file := by
  rw [firstLine?, firstLine?, same.bytes_eq linkFree ends listed]

theorem loadIn_congr (directory : Location) {name : Text} (listed : name ∈ ruleNames) :
    loadIn second directory name = loadIn first directory name := by
  have loads : Listing.load second (pathIn directory name) =
      Listing.load first (pathIn directory name) :=
    Listing.load_congr same linkFree (endsIn_ruleName listed directory.path) listed
  rw [loadIn, loadIn, same.rules directory name listed, loads]

theorem repository_congr (directory : Location) :
    repository? second directory = repository? first directory := by
  have isRule : repositoryName ∈ ruleNames := by decide
  have line : firstLine? second (pathIn directory repositoryName) =
      firstLine? first (pathIn directory repositoryName) :=
    firstLine_congr same linkFree (endsIn_ruleName isRule directory.path) isRule
  have common (linked : Text) :
      firstLine? second ((Path.mk linked).join ⟨"commondir".toList⟩) =
        firstLine? first ((Path.mk linked).join ⟨"commondir".toList⟩) :=
    firstLine_congr same linkFree (endsIn_ruleName (by decide) _) (by decide)
  simp only [repository?, same.isFile_eq, same.holds_eq, line, common]

theorem loadOwn_congr (directory : Location) :
    loadOwn second directory = loadOwn first directory := by
  rw [loadOwn, loadOwn, repository_congr same linkFree]
  cases repository? first directory with
  | none => rfl
  | some found => exact Listing.load_congr same linkFree (endsIn_exclude found) (by decide)

/-- The rules of a directory are the same, and so are the problems of its ignore files. -/
theorem load_congr (readsShared : Bool) (directory : Location) :
    load second readsShared directory = load first readsShared directory := by
  have general :
      loadIn second directory ".ignore".toList = loadIn first directory ".ignore".toList :=
    loadIn_congr same linkFree directory (by decide)
  have shared :
      loadIn second directory ".gitignore".toList = loadIn first directory ".gitignore".toList :=
    loadIn_congr same linkFree directory (by decide)
  have marked := same.rules directory repositoryName (by decide)
  rw [load, load, general, shared, marked, same.holds_eq, loadOwn_congr same linkFree]

theorem above_congr (readsShared : Bool) (directory : Location) :
    above second readsShared directory = above first readsShared directory := by
  have loads : load second readsShared = load first readsShared :=
    funext (load_congr same linkFree readsShared)
  rw [above, above, loads]

end Level

end Ignore

/-! ## The walk -/

namespace Walk

open Workspace (SameRules)

section Outline

variable {options : Options} {levels : List Ignore.Level} {directory : Location}

theorem isDirectory_outline (entry : Entry) : isDirectory entry.outline = isDirectory entry := by
  cases entry <;> rfl

theorem passesOver_outline (placed : Text × Entry) :
    passesOver options levels directory (Prod.map id Entry.outline placed) =
      passesOver options levels directory placed := by
  simp only [passesOver, Prod.map, id, isDirectory_outline]

/-- What a walk makes of entries is made of their outlines. -/
theorem flatMap_outline {kept : Text × Entry → Bool} {found : Text × Entry → List Finding}
    (keeps : ∀ placed, kept (Prod.map id Entry.outline placed) = kept placed)
    (finds : ∀ placed, found (Prod.map id Entry.outline placed) = found placed)
    (entries : List (Text × Entry)) :
    (entries.filter kept).flatMap found =
      ((entries.map (Prod.map id Entry.outline)).filter kept).flatMap found := by
  rw [List.filter_map, List.flatMap_map]
  congr 1
  · exact (funext finds).symm
  · congr 1
    exact (funext keeps).symm

end Outline

variable {first second : Workspace} (same : SameRules first second)
  (linkFree : first.tree.LinkFree) (options : Options)
include same linkFree

/-- A walk finds the same. -/
theorem visit_congr (beginning : Path) (root : Location) (bound : Nat)
    (outer : List Ignore.Level) (names : List Text) :
    visit second options beginning root bound outer names =
      visit first options beginning root bound outer names := by
  induction bound generalizing outer names with
  | zero => rfl
  | succ bound ih =>
    rw [visit, visit]
    dsimp only
    split
    · rw [Ignore.Level.load_congr same linkFree]
      rcases cases_of_map_eq (same.children_outline (Location.path (root ++ names))) with
        ⟨error, here, there⟩ | ⟨entries, others, here, there, listed⟩
      · rw [here, there]
      · rw [here, there]
        dsimp only
        simp only [ih]
        rw [flatMap_outline _ _ others, flatMap_outline _ _ entries, listed]
        · exact fun placed => by rw [passesOver_outline]
        · rintro ⟨name, entry⟩
          cases entry <;> rfl
        · exact fun placed => by rw [passesOver_outline]
        · rintro ⟨name, entry⟩
          cases entry <;> rfl
    · rfl

theorem findings_congr (beginning : Path) :
    findings second options beginning = findings first options beginning := by
  rw [findings, findings, same.locate_eq]
  cases first.locate beginning with
  | error error => rfl
  | ok root =>
    dsimp only
    rw [Ignore.Level.above_congr same linkFree, FileTree.depth_congr same.listing,
      visit_congr same linkFree]

theorem below_congr (root : Path) : below second options root = below first options root := by
  rw [below, below, same.directoryPath_eq, findings_congr same linkFree]

omit linkFree in
theorem targetKind_congr (target : Path) : targetKind second target = targetKind first target := by
  simp only [targetKind, same.directoryPath_eq, same.isFile_eq, same.isDirectory_eq]

/-! ## The search -/

namespace Search

theorem walk_congr (search : Search) (root : Path) :
    search.walk second options root = search.walk first options root := by
  rw [walk, walk, below_congr same linkFree, same.directoryPath_eq]

variable (patterns : List Glob.Pattern)

/-- A target adds the same to a search. -/
theorem addTarget_congr (search : Search) (target : Path) :
    search.addTarget second options patterns target =
      search.addTarget first options patterns target := by
  simp only [addTarget, walkHere, targetKind_congr same, walk_congr same linkFree,
    same.directoryPath_eq]

theorem addTargets_congr (search : Search) (targets : List Path) :
    search.addTargets second options patterns targets =
      search.addTargets first options patterns targets := by
  induction targets generalizing search with
  | nil => rfl
  | cons target others ih =>
    rw [addTargets, addTargets, addTarget_congr same linkFree]
    congr 1
    funext found
    cases found with
    | error error => rfl
    | ok next => exact ih next

end Search

/-- **Targets stand for the same files where the rules are the same.** -/
theorem resolve_congr (patterns : List Glob.Pattern) (targets : List Path) :
    resolve second options patterns targets = resolve first options patterns targets := by
  rw [resolve, resolve, Search.addTargets_congr same linkFree]

end Walk

end Hygiene
