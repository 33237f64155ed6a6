import Hygiene.Proofs.Check.Access

/-!
# A replacement is all or nothing

Whatever the tree looks like and whatever the surroundings do to it, a replacement that fails
leaves the workspace as it was, and one that succeeds leaves the new content, with the old
permission bits, as the only difference (`replace_allOrNothing`). The file is the one that the
path leads to through any links, which stay what they are. When a replacement succeeds is said
by `replace_succeeds_iff`.
-/

set_option autoImplicit false

namespace Hygiene.Workspace

/-- **A replacement succeeds exactly when the path leads to a file, the names in its directory
may be changed, one of the drawn names is free there, and no step fails.** -/
theorem replace_succeeds_iff (surroundings : Surroundings) (workspace : Workspace) (path : Path)
    (content : ByteArray) :
    (∃ after, (replace surroundings path content).run workspace = .ok () after) ↔
      ∃ location mode old, Replaceable surroundings workspace path location mode old := by
  constructor
  · rintro ⟨after, ran⟩
    have ends := replace_ends surroundings workspace path content
    rw [Ends, ran] at ends
    obtain ⟨location, mode, old, replaceable, -⟩ := ends
    exact ⟨location, mode, old, replaceable⟩
  · rintro ⟨location, mode, old, replaceable⟩
    exact ⟨_, replaceable.replace_run content⟩

/-- New content in the place of old content leaves every path leading where it led. -/
theorem FileAt.put {workspace : Workspace} {path : Path} {location : Location} {mode : Nat}
    {old : ByteArray} (file : workspace.FileAt path location mode old) (content : ByteArray) :
    (workspace.put location (.file mode content)).FileAt path location mode content := by
  have outline := FileTree.SameOutline.put file.stands content
  refine ⟨?_, FileTree.lookup_put_self _ _ _⟩
  rw [← file.located]
  exact (outline.locate_congr workspace.user workspace.directory path).symm

/-- **A replacement is all or nothing.** -/
theorem replace_allOrNothing (surroundings : Surroundings) (workspace : Workspace) (path : Path)
    (content : ByteArray) :
    (∀ cause after, (replace surroundings path content).run workspace = .error cause after →
      after = workspace) ∧
    (∀ after, (replace surroundings path content).run workspace = .ok () after →
      ∃ location mode old,
        workspace.FileAt path location mode old ∧ after.FileAt path location mode content ∧
        (∀ other, other ≠ location → after.tree.lookup other = workspace.tree.lookup other) ∧
        (∀ place target, workspace.tree.lookup place = some (.link target) →
          after.tree.lookup place = some (.link target)) ∧
        after.user = workspace.user ∧ after.directory = workspace.directory) := by
  have ends := replace_ends surroundings workspace path content
  rw [Ends] at ends
  constructor
  · intro cause after failed
    rwa [failed] at ends
  · intro after succeeded
    rw [succeeded] at ends
    obtain ⟨location, mode, old, replaceable, rfl⟩ := ends
    have file : workspace.FileAt path location mode old :=
      ⟨replaceable.located, replaceable.stands⟩
    have elsewhere : ∀ other, other ≠ location →
        (workspace.put location (.file mode content)).tree.lookup other =
          workspace.tree.lookup other := fun other apart =>
      FileTree.lookup_put_of_ne workspace.tree _ apart.symm
    refine ⟨location, mode, old, file, file.put content, elsewhere, ?_, rfl, rfl⟩
    intro place target link
    have apart : place ≠ location := by
      rintro rfl
      simp [file.stands] at link
    rw [elsewhere place apart, link]

/-- A workspace with a link to a file in a directory below. -/
def linkedShelf : Workspace where
  tree := ⟨[([], .directory 0o755), (["a".toList], .link ⟨"d/b".toList⟩),
    (["d".toList], .directory 0o755), (["d".toList, "b".toList], .file 0o640 ⟨#[1, 2]⟩)],
    by decide⟩
  user := .owner
  directory := []

/-- Surroundings in which the last step fails. -/
def busyAtTheEnd : Surroundings where
  drawn := [".tmpabcdef".toList]
  fault? := fun stage => if stage = .rename then some .busy else none
  written := 0

theorem linkedShelf_fileAt :
    linkedShelf.FileAt ⟨"a".toList⟩ ["d".toList, "b".toList] 0o640 ⟨#[1, 2]⟩ :=
  ⟨by decide, by decide⟩

/-- The file that a link leads to is replaced, and stays what it was when the last step fails. -/
theorem replace_allOrNothing_throughLink :
    (∃ after, (replace (.quiet linkedShelf) ⟨"a".toList⟩ ⟨#[3]⟩).run linkedShelf = .ok () after ∧
      after.tree.lookup ["d".toList, "b".toList] = some (.file 0o640 ⟨#[3]⟩) ∧
      after.tree.lookup ["a".toList] = some (.link ⟨"d/b".toList⟩)) ∧
    (∃ cause, (replace busyAtTheEnd ⟨"a".toList⟩ ⟨#[3]⟩).run linkedShelf =
      .error cause linkedShelf) := by
  constructor
  · have ran := quiet_replace_run linkedShelf_fileAt.located linkedShelf_fileAt.stands ⟨#[3]⟩
      (by decide)
    obtain ⟨location, mode, old, file, replaced, -, links, -⟩ :=
      (replace_allOrNothing _ _ _ _).2 _ ran
    obtain ⟨rfl, rfl, rfl⟩ := linkedShelf_fileAt.unique file
    exact ⟨_, ran, replaced.stands, links _ _ (by decide)⟩
  · cases ran : (replace busyAtTheEnd ⟨"a".toList⟩ ⟨#[3]⟩).run linkedShelf with
    | ok value after =>
      obtain ⟨location, mode, old, replaceable⟩ :=
        (replace_succeeds_iff busyAtTheEnd linkedShelf _ _).mp ⟨after, ran⟩
      exact absurd (replaceable.calm .rename) (by decide)
    | error cause after =>
      obtain rfl := (replace_allOrNothing _ _ _ _).1 cause after ran
      exact ⟨cause, rfl⟩

end Hygiene.Workspace
