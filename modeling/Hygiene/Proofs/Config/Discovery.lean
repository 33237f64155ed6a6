import Hygiene.Config.Discovery
import Hygiene.Proofs.Check.Access
import Hygiene.Proofs.Path.Lineage

/-!
# The nearest settings file

The settings for a directory stand in the nearest ancestor that holds a settings file, provided
that no ancestor before it is the top of a repository (`Nearest`). The search passes the ancestors
one by one, and of those that it has passed none has settings and none is marked
(`findAmong_eq_some_iff`). On the way up there are ever fewer components, so to be passed before
another one is to have more components (`find_nearest`). The top of a repository is searched
itself, and nothing above it is.

Both names are followed to what they lead to, through links and as far as directories may be
searched. So a link that leads nowhere marks no top although an entry with the name of the mark
stands there (`find_aboveDanglingMark`).
-/

set_option autoImplicit false

namespace Hygiene.Config

/-- The name of the settings file leads to a file from a directory. -/
def HasSettings (workspace : Workspace) (directory : Path) : Prop :=
  ∃ location mode bytes, workspace.FileAt (directory.join ⟨fileName⟩) location mode bytes

/-- The mark of a repository leads somewhere from a directory. -/
def IsMarked (workspace : Workspace) (directory : Path) : Prop :=
  ∃ entry, workspace.examine (directory.join ⟨repositoryMark⟩) = .ok entry

/-- One of two ancestors of a path comes before the other one on the way up. -/
def Closer (first second : Path) : Prop :=
  second.components.length < first.components.length

/-- The closest ancestor with settings, with no top of a repository before it. -/
structure Nearest (workspace : Workspace) (start directory : Path) : Prop where
  above : directory ∈ start.ancestors
  settings : HasSettings workspace directory
  first : ∀ before ∈ start.ancestors, Closer before directory →
    ¬ HasSettings workspace before ∧ ¬ IsMarked workspace before

theorem isFile_iff (workspace : Workspace) (directory : Path) :
    workspace.isFile (directory.join ⟨fileName⟩) = true ↔ HasSettings workspace directory := by
  refine ⟨Workspace.exists_fileAt_of_isFile, ?_⟩
  rintro ⟨location, mode, bytes, file⟩
  rw [Workspace.isFile, file.examine]

theorem holds_iff (workspace : Workspace) (directory : Path) :
    workspace.holds (directory.join ⟨repositoryMark⟩) = true ↔ IsMarked workspace directory := by
  rw [Workspace.holds, IsMarked]
  cases workspace.examine (directory.join ⟨repositoryMark⟩) <;> simp [Except.isOk, Except.toBool]

/-- What is found among directories stands in one of them, and none that was passed before it has
settings or a mark. -/
theorem findAmong_eq_some_iff (workspace : Workspace) (directories : List Path) (file : Path) :
    findAmong workspace directories = some file ↔
      ∃ passed directory farther, directories = passed ++ directory :: farther ∧
        HasSettings workspace directory ∧ file = directory.join ⟨fileName⟩ ∧
        ∀ before ∈ passed, ¬ HasSettings workspace before ∧ ¬ IsMarked workspace before := by
  induction directories with
  | nil => simp [findAmong]
  | cons first above ih =>
    rw [findAmong]
    by_cases here : HasSettings workspace first
    · rw [if_pos ((isFile_iff workspace first).mpr here), Option.some.injEq]
      constructor
      · rintro rfl
        exact ⟨[], first, above, rfl, here, rfl, nofun⟩
      · rintro ⟨passed, directory, farther, whole, -, same, without⟩
        cases passed with
        | nil => rw [same, (List.cons.inj whole).1]
        | cons before later =>
          rw [(List.cons.inj whole).1] at here
          exact absurd here (without before List.mem_cons_self).1
    · rw [if_neg fun found => here ((isFile_iff workspace first).mp found)]
      by_cases marked : IsMarked workspace first
      · rw [if_pos ((holds_iff workspace first).mpr marked)]
        refine ⟨nofun, ?_⟩
        rintro ⟨passed, directory, farther, whole, settings, -, without⟩
        cases passed with
        | nil => exact absurd ((List.cons.inj whole).1 ▸ settings) here
        | cons before later =>
          rw [(List.cons.inj whole).1] at marked
          exact absurd marked (without before List.mem_cons_self).2
      · rw [if_neg fun found => marked ((holds_iff workspace first).mp found), ih]
        constructor
        · rintro ⟨passed, directory, farther, rfl, settings, same, without⟩
          exact ⟨first :: passed, directory, farther, rfl, settings, same,
            List.forall_mem_cons.mpr ⟨⟨here, marked⟩, without⟩⟩
        · rintro ⟨passed, directory, farther, whole, settings, same, without⟩
          cases passed with
          | nil => exact absurd ((List.cons.inj whole).1 ▸ settings) here
          | cons before later =>
            obtain ⟨-, rest⟩ := List.cons.inj whole
            exact ⟨later, directory, farther, rest, settings, same,
              (List.forall_mem_cons.mp without).2⟩

/-- A directory is the nearest one exactly when the search passes those before it. -/
theorem nearest_iff (workspace : Workspace) (start directory : Path) :
    Nearest workspace start directory ↔
      ∃ passed farther, start.ancestors = passed ++ directory :: farther ∧
        HasSettings workspace directory ∧
        ∀ before ∈ passed, ¬ HasSettings workspace before ∧ ¬ IsMarked workspace before := by
  have order := Path.pairwise_ancestors start
  constructor
  · intro nearest
    obtain ⟨passed, farther, whole⟩ := List.append_of_mem nearest.above
    rw [whole] at order
    refine ⟨passed, farther, whole, nearest.settings, fun before member => ?_⟩
    refine nearest.first before (whole ▸ List.mem_append_left _ member) ?_
    exact (List.pairwise_append.mp order).2.2 before member directory List.mem_cons_self
  · rintro ⟨passed, farther, whole, settings, without⟩
    rw [whole] at order
    refine ⟨by rw [whole]; simp, settings, fun before member closer => ?_⟩
    rw [whole, List.mem_append, List.mem_cons] at member
    rcases member with earlier | rfl | later
    · exact without before earlier
    · exact absurd closer (Nat.lt_irrefl _)
    · have further := List.rel_of_pairwise_cons (List.pairwise_append.mp order).2.1 later
      exact absurd closer (Nat.lt_asymm further)

/-- **The settings file that is found is the nearest one.** A top of a repository is searched
itself and nothing above it is, and a directory with the name of the settings file is passed. -/
theorem find_nearest (workspace : Workspace) (start : Path) :
    (∀ file, find? workspace start = some file ↔
      ∃ directory, Nearest workspace start directory ∧ file = directory.join ⟨fileName⟩) ∧
    (∀ top ∈ start.ancestors, IsMarked workspace top →
      (HasSettings workspace top →
        (∀ before ∈ start.ancestors, Closer before top →
          ¬ HasSettings workspace before ∧ ¬ IsMarked workspace before) →
        find? workspace start = some (top.join ⟨fileName⟩)) ∧
      ∀ directory, Nearest workspace start directory → ¬ Closer top directory) ∧
    ∀ directory, workspace.isDirectory (directory.join ⟨fileName⟩) = true →
      ¬ Nearest workspace start directory := by
  have found : ∀ file, find? workspace start = some file ↔
      ∃ directory, Nearest workspace start directory ∧ file = directory.join ⟨fileName⟩ := by
    intro file
    rw [find?, findAmong_eq_some_iff]
    constructor
    · rintro ⟨passed, directory, farther, whole, settings, same, without⟩
      exact ⟨directory,
        (nearest_iff workspace start directory).mpr ⟨passed, farther, whole, settings, without⟩,
        same⟩
    · rintro ⟨directory, nearest, same⟩
      obtain ⟨passed, farther, whole, settings, without⟩ :=
        (nearest_iff workspace start directory).mp nearest
      exact ⟨passed, directory, farther, whole, settings, same, without⟩
  refine ⟨found, fun top above marked => ⟨fun settings without => ?_, fun directory nearest => ?_⟩,
    fun directory standing nearest => ?_⟩
  · exact (found _).mpr ⟨top, ⟨above, settings, without⟩, rfl⟩
  · exact fun closer => (nearest.first top above closer).2 marked
  · obtain ⟨location, mode, bytes, file⟩ := nearest.settings
    rw [Workspace.isDirectory, file.examine] at standing
    cases standing

/-- An entry with a given name stands in a directory, whatever it leads to. -/
def HasEntry (workspace : Workspace) (directory : Path) (name : Text) : Prop :=
  ∃ location entry, workspace.locate directory = .ok location ∧
    workspace.tree.lookup (location ++ [name]) = some entry

/-- A directory below a settings file, in which the mark of a repository is a link that leads
nowhere. -/
def danglingMark : Workspace where
  tree := ⟨[([], .directory 0o755), ([fileName], .file 0o644 ByteArray.empty),
    (["w".toList], .directory 0o755),
    (["w".toList, repositoryMark], .link (Path.ofString "nowhere"))], by decide⟩
  user := .owner
  directory := []

/-- Settings are found above an entry with the name of the mark, when it is a link that leads
nowhere. -/
theorem find_aboveDanglingMark :
    find? danglingMark (Path.ofString "/w") = some (Path.ofString "/sigoptlint.toml") ∧
      ¬ ∃ directory ∈ (Path.ofString "/w").ancestors, HasSettings danglingMark directory ∧
        (∀ before ∈ (Path.ofString "/w").ancestors, Closer before directory →
          ¬ HasSettings danglingMark before ∧ ¬ HasEntry danglingMark before repositoryMark) ∧
        Path.ofString "/sigoptlint.toml" = directory.join ⟨fileName⟩ := by
  refine ⟨by decide, ?_⟩
  rintro ⟨directory, above, -, without, same⟩
  have ancestors : (Path.ofString "/w").ancestors = [Path.ofString "/w", Path.ofString "/"] := by
    decide
  rw [ancestors] at above without
  have here : HasEntry danglingMark (Path.ofString "/w") repositoryMark :=
    ⟨["w".toList], .link (Path.ofString "nowhere"), by decide, by decide⟩
  have closer : Closer (Path.ofString "/w") (Path.ofString "/") := by
    rw [Closer]
    decide
  simp only [List.mem_cons, List.not_mem_nil, or_false] at above
  rcases above with rfl | rfl
  · exact absurd same (by decide)
  · exact (without _ List.mem_cons_self closer).2 here

end Hygiene.Config
