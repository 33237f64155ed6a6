import Hygiene.Proofs.Python.Walk

/-!
# What encloses a node

A cursor knows the cursors above it, innermost first (`around`), and the closest one of a kind is
the first of them that is of this kind (`closest?`, `closest_eq_some_iff`).

Going up and going down agree: in the walk through a tree, the cursors that have a given one above
them are the other positions in its tree (`mem_positions_iff`). So what is found below a node by a
walk from there is what finds the node by climbing.
-/

set_option autoImplicit false

namespace Hygiene.Python.Cursor

/-! ## Going up -/

/-- The cursors along what is above a node. -/
def outward : List (Tree × List Tree) → List Cursor
  | [] => []
  | (tree, later) :: above => ⟨tree, later, above⟩ :: outward above

/-- The cursors above a cursor, innermost first. -/
def around (cursor : Cursor) : List Cursor :=
  outward cursor.above

/-- The closest cursor of a kind above a cursor. -/
def closest? (cursor : Cursor) (phrase : Phrase) : Option Cursor :=
  cursor.around.find? fun above => above.node.isPhrase phrase

/-- A cursor is the closest one of a kind when it is of this kind, and none of those that are
passed on the way to it is. -/
theorem closest_eq_some_iff {cursor found : Cursor} {phrase : Phrase} :
    cursor.closest? phrase = some found ↔
      found.node.isPhrase phrase = true ∧ ∃ nearer beyond,
        cursor.around = nearer ++ found :: beyond ∧
          ∀ passed ∈ nearer, passed.node.isPhrase phrase = false := by
  simp only [closest?, List.find?_eq_some_iff_append, Bool.not_eq_true']

/-- The closest phrase of a kind is at the closest cursor of this kind. -/
theorem enclosing_eq (cursor : Cursor) (phrase : Phrase) :
    cursor.enclosing? phrase =
      (cursor.closest? phrase).map fun found => (found.node, found.ancestors) := by
  obtain ⟨tree, later, above⟩ := cursor
  rw [enclosing?, closest?, around, ancestors]
  induction above with
  | nil => rfl
  | cons first above ih =>
    obtain ⟨parent, siblings⟩ := first
    rw [List.map_cons, List.dropWhile_cons, outward, List.find?_cons]
    cases is : parent.isPhrase phrase with
    | true => rfl
    | false => exact ih

/-- Behind a cursor that is above another one stands what is above it. -/
theorem around_of_outward {above : List (Tree × List Tree)} {nearer beyond : List Cursor}
    {cursor : Cursor} (split : outward above = nearer ++ cursor :: beyond) :
    cursor.around = beyond := by
  induction above generalizing nearer with
  | nil => exact absurd split (by simp [outward])
  | cons first above ih =>
    rw [outward] at split
    cases nearer with
    | nil =>
      obtain ⟨rfl, rest⟩ := List.cons.inj split
      exact rest
    | cons passed nearer => exact ih (List.cons.inj split).2

theorem mem_around_trans {inner middle outer : Cursor} (nearer : middle ∈ inner.around)
    (farther : outer ∈ middle.around) : outer ∈ inner.around := by
  obtain ⟨passed, beyond, split⟩ := List.append_of_mem nearer
  rw [around_of_outward split] at farther
  rw [split]
  exact List.mem_append_right _ (List.mem_cons_of_mem _ farther)

/-- A cursor of a kind is above another one when it is the closest one of this kind, or is above
the closest one. -/
theorem mem_around_iff_closest {cursor outer : Cursor} {phrase : Phrase}
    (is : outer.node.isPhrase phrase = true) :
    outer ∈ cursor.around ↔
      ∃ owner, cursor.closest? phrase = some owner ∧ (owner = outer ∨ outer ∈ owner.around) := by
  constructor
  · intro member
    have found : (cursor.closest? phrase).isSome :=
      List.find?_isSome.mpr ⟨outer, member, is⟩
    obtain ⟨owner, closest⟩ := Option.isSome_iff_exists.mp found
    obtain ⟨-, nearer, beyond, split, others⟩ := closest_eq_some_iff.mp closest
    refine ⟨owner, closest, ?_⟩
    rw [around_of_outward split]
    rw [split] at member
    rcases List.mem_append.mp member with passed | further
    · cases is.symm.trans (others outer passed)
    · exact (List.mem_cons.mp further).imp_left Eq.symm
  · rintro ⟨owner, closest, rfl | beyond⟩
    · exact List.mem_of_find?_eq_some closest
    · exact mem_around_trans (List.mem_of_find?_eq_some closest) beyond

/-! ## Going down -/

mutual

/-- A position in a tree is the root, or the root is above it. -/
theorem root_mem_around : (tree : Tree) → (later : List Tree) →
    (above : List (Tree × List Tree)) → {cursor : Cursor} →
    cursor ∈ positions tree later above →
    cursor = ⟨tree, later, above⟩ ∨ ⟨tree, later, above⟩ ∈ cursor.around
  | .node kind role start text children, later, above, cursor, member => by
    rw [positions] at member
    rcases List.mem_cons.mp member with same | below
    · exact .inl same
    · exact .inr (parent_mem_around children _ later above below)

theorem parent_mem_around : (siblings : List Tree) → (parent : Tree) → (later : List Tree) →
    (above : List (Tree × List Tree)) → {cursor : Cursor} →
    cursor ∈ positionsAll siblings ((parent, later) :: above) →
    ⟨parent, later, above⟩ ∈ cursor.around
  | [], _, _, _, _, member => by cases member
  | sibling :: others, parent, later, above, cursor, member => by
    rw [positionsAll] at member
    rcases List.mem_append.mp member with here | further
    · rcases root_mem_around sibling others _ here with rfl | below
      · exact List.mem_cons_self
      · exact mem_around_trans below List.mem_cons_self
    · exact parent_mem_around others parent later above further

end

mutual

/-- What is above a position in a tree is above the tree, or it is itself a position in the tree
with the other one below it. -/
theorem around_cases : (tree : Tree) → (later : List Tree) →
    (above : List (Tree × List Tree)) → {cursor outer : Cursor} →
    cursor ∈ positions tree later above → outer ∈ cursor.around →
    outer ∈ outward above ∨ outer ∈ positions tree later above ∧
      cursor ∈ positions outer.node outer.later outer.above
  | .node kind role start text children, later, above, cursor, outer, member, outside => by
    have whole := member
    rw [positions] at member ⊢
    rcases List.mem_cons.mp member with rfl | below
    · exact .inl outside
    · rcases around_siblings_cases children _ below outside with higher | ⟨within, under⟩
      · rcases List.mem_cons.mp higher with rfl | beyond
        · exact .inr ⟨List.mem_cons_self, whole⟩
        · exact .inl beyond
      · exact .inr ⟨List.mem_cons_of_mem _ within, under⟩

theorem around_siblings_cases : (siblings : List Tree) → (above : List (Tree × List Tree)) →
    {cursor outer : Cursor} → cursor ∈ positionsAll siblings above → outer ∈ cursor.around →
    outer ∈ outward above ∨ outer ∈ positionsAll siblings above ∧
      cursor ∈ positions outer.node outer.later outer.above
  | [], _, _, _, member, _ => by cases member
  | sibling :: others, above, cursor, outer, member, outside => by
    rw [positionsAll] at member ⊢
    rcases List.mem_append.mp member with here | further
    · rcases around_cases sibling others above here outside with higher | ⟨within, under⟩
      · exact .inl higher
      · exact .inr ⟨List.mem_append_left _ within, under⟩
    · rcases around_siblings_cases others above further outside with higher | ⟨within, under⟩
      · exact .inl higher
      · exact .inr ⟨List.mem_append_right _ within, under⟩

end

mutual

/-- The positions below a position in a tree are positions in the tree. -/
theorem positions_subset : (tree : Tree) → (later : List Tree) →
    (above : List (Tree × List Tree)) → {cursor outer : Cursor} →
    outer ∈ positions tree later above →
    cursor ∈ positions outer.node outer.later outer.above → cursor ∈ positions tree later above
  | .node kind role start text children, later, above, cursor, outer, member, under => by
    rw [positions] at member
    rcases List.mem_cons.mp member with rfl | below
    · exact under
    · rw [positions]
      exact List.mem_cons_of_mem _ (positionsAll_subset children _ below under)

theorem positionsAll_subset : (siblings : List Tree) → (above : List (Tree × List Tree)) →
    {cursor outer : Cursor} → outer ∈ positionsAll siblings above →
    cursor ∈ positions outer.node outer.later outer.above → cursor ∈ positionsAll siblings above
  | [], _, _, _, member, _ => by cases member
  | sibling :: others, above, cursor, outer, member, under => by
    rw [positionsAll] at member ⊢
    rcases List.mem_append.mp member with here | further
    · exact List.mem_append_left _ (positions_subset sibling others above here under)
    · exact List.mem_append_right _ (positionsAll_subset others above further under)

end

/-- **The positions below a node of a tree are the nodes that have it above them.** -/
theorem mem_positions_iff {tree : Tree} {outer cursor : Cursor} (stands : outer ∈ walk tree) :
    cursor ∈ positions outer.node outer.later outer.above ↔
      cursor ∈ walk tree ∧ (cursor = outer ∨ outer ∈ cursor.around) := by
  rw [walk_eq_positions] at stands ⊢
  constructor
  · intro under
    exact ⟨positions_subset tree [] [] stands under,
      root_mem_around outer.node outer.later outer.above under⟩
  · rintro ⟨member, rfl | outside⟩
    · obtain ⟨⟨kind, role, start, text, children⟩, later, above⟩ := cursor
      rw [positions]
      exact List.mem_cons_self
    · rcases around_cases tree [] [] member outside with higher | ⟨-, under⟩
      · cases higher
      · exact under

/-- What is above a node of a tree is a node of the tree. -/
theorem mem_walk_of_around {tree : Tree} {cursor outer : Cursor} (member : cursor ∈ walk tree)
    (outside : outer ∈ cursor.around) : outer ∈ walk tree := by
  rw [walk_eq_positions] at member ⊢
  rcases around_cases tree [] [] member outside with higher | ⟨within, -⟩
  · cases higher
  · exact within

end Hygiene.Python.Cursor
