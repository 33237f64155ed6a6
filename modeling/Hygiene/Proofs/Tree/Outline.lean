import Hygiene.Workspace

/-!
# The outline of a tree

The outline of a tree is all of it but what the files hold: which locations hold what kind of
entry, the permission bits, and where links lead. Where a path leads depends on the outline
alone (`locate_congr`), so a file that gets new content in its place leaves every path
leading where it led before (`SameOutline.put`).
-/

set_option autoImplicit false

namespace Hygiene

/-- An entry without what it holds, when it is a file. -/
def Entry.outline : Entry → Entry
  | .file mode _ => .file mode ByteArray.empty
  | .directory mode => .directory mode
  | .link target => .link target

namespace FileTree

/-- Two trees that differ at most in what their files hold. -/
def SameOutline (left right : FileTree) : Prop :=
  ∀ location : Location,
    (left.lookup location).map Entry.outline = (right.lookup location).map Entry.outline

namespace SameOutline

theorem refl (tree : FileTree) : SameOutline tree tree :=
  fun _ => rfl

theorem symm {left right : FileTree} (same : SameOutline left right) : SameOutline right left :=
  fun location => (same location).symm

theorem trans {first second third : FileTree} (earlier : SameOutline first second)
    (later : SameOutline second third) : SameOutline first third :=
  fun location => (earlier location).trans (later location)

/-- New content in the place of old content leaves the outline as it is. -/
theorem put {tree : FileTree} {location : Location} {mode : Nat} {old : ByteArray}
    (stands : tree.lookup location = some (.file mode old)) (content : ByteArray) :
    SameOutline tree (tree.put location (.file mode content)) := by
  intro other
  by_cases here : location = other
  · subst here
    rw [stands, lookup_put_self]
    rfl
  · rw [lookup_put_of_ne tree _ here]

variable {left right : FileTree} (same : SameOutline left right)
include same

/-- What stands at a location in two trees of the same outline: nothing, files with the same
permission bits, or one and the same directory or link. -/
theorem lookup_cases (location : Location) :
    (left.lookup location = none ∧ right.lookup location = none) ∨
      (∃ mode old new, left.lookup location = some (.file mode old) ∧
        right.lookup location = some (.file mode new)) ∨
      (∃ mode, left.lookup location = some (.directory mode) ∧
        right.lookup location = some (.directory mode)) ∨
      (∃ target, left.lookup location = some (.link target) ∧
        right.lookup location = some (.link target)) := by
  have outlines := same location
  revert outlines
  rcases left.lookup location with _ | ⟨mode, old⟩ | mode | target <;>
    rcases right.lookup location with _ | ⟨bits, new⟩ | bits | other <;>
    simp [Entry.outline, eq_comm]

theorem file {location : Location} {mode : Nat} {content : ByteArray}
    (stands : left.lookup location = some (.file mode content)) :
    ∃ other : ByteArray, right.lookup location = some (.file mode other) := by
  rcases same.lookup_cases location with ⟨here, -⟩ | ⟨bits, old, new, here, there⟩ |
    ⟨bits, here, -⟩ | ⟨target, here, -⟩
  · simp [here] at stands
  · rw [here, Option.some.injEq, Entry.file.injEq] at stands
    exact ⟨new, by rw [there, stands.1]⟩
  · simp [here] at stands
  · simp [here] at stands

/-- The trees agree on which directories may be searched. -/
theorem requireSearchable_congr (user : User) (location : Location) :
    left.requireSearchable user location = right.requireSearchable user location := by
  rw [requireSearchable, requireSearchable]
  rcases same.lookup_cases location with ⟨here, there⟩ | ⟨mode, old, new, here, there⟩ |
    ⟨mode, here, there⟩ | ⟨target, here, there⟩ <;> rw [here, there]

theorem isDirectoryAt_congr (location : Location) :
    left.isDirectoryAt location = right.isDirectoryAt location := by
  rw [isDirectoryAt, isDirectoryAt]
  rcases same.lookup_cases location with ⟨here, there⟩ | ⟨mode, old, new, here, there⟩ |
    ⟨mode, here, there⟩ | ⟨target, here, there⟩ <;> rw [here, there]

/-- The trees agree on how far steps lead. -/
theorem advance_congr (user : User) (location : Location) (steps : List Path.Component) :
    left.advance user location steps = right.advance user location steps := by
  induction steps generalizing location with
  | nil => rfl
  | cons step later ih =>
    have searchable := same.requireSearchable_congr user location
    cases step with
    | root => simp only [advance, searchable, ih]
    | here => simp only [advance, searchable, ih]
    | above => simp only [advance, searchable, ih]
    | name text =>
      simp only [advance, searchable]
      rcases same.lookup_cases (location ++ [text]) with ⟨here, there⟩ |
        ⟨mode, old, new, here, there⟩ | ⟨mode, here, there⟩ | ⟨target, here, there⟩ <;>
        simp only [here, there, ih]

theorem follow_congr (user : User) (bound : Nat) (location : Location)
    (steps : List Path.Component) :
    left.follow user bound location steps = right.follow user bound location steps := by
  induction bound generalizing location steps with
  | zero => rfl
  | succ bound ih =>
    rw [follow, follow, same.advance_congr user location steps]
    simp only [ih]

/-- **Where a path leads is a matter of the outline.** -/
theorem locate_congr (user : User) (directory : Location) (path : Path) :
    left.locate user directory path = right.locate user directory path := by
  simp only [locate, same.follow_congr, same.isDirectoryAt_congr]

end SameOutline

end FileTree

end Hygiene
