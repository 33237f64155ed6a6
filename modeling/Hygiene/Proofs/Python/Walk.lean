import Hygiene.Python.Cursor

/-!
# A walk is in preorder

The nodes of a tree have one position each: the root, and then the positions in each child from
left to right. A cursor that goes down where it can, and otherwise right and up, passes the
positions in this order, each of them once (`walk_eq_positions`). So the position of a node in the
walk is its position in preorder (`walk_map_node`), and the size of the tree is a bound that the
walk does not reach too early.

What is left of a walk when it has passed a tree depends on what is around the tree only: it goes
on where the cursor gets by climbing (`onward`).
-/

set_option autoImplicit false

namespace Hygiene.Python.Cursor

/-! ## Positions -/

mutual

/-- The positions in a tree that stands beside and below others, in preorder. -/
def positions : Tree → List Tree → List (Tree × List Tree) → List Cursor
  | .node kind role start text children, later, above =>
    ⟨.node kind role start text children, later, above⟩ ::
      positionsAll children ((.node kind role start text children, later) :: above)

/-- The positions in siblings, one sibling after the other. -/
def positionsAll : List Tree → List (Tree × List Tree) → List Cursor
  | [], _ => []
  | tree :: later, above => positions tree later above ++ positionsAll later above

end

mutual

theorem positions_map_node : (tree : Tree) → (later : List Tree) →
    (above : List (Tree × List Tree)) → (positions tree later above).map node = tree.preorder
  | .node kind role start text children, later, above => by
    rw [positions, List.map_cons, positionsAll_map_node children, Tree.preorder]

theorem positionsAll_map_node : (siblings : List Tree) → (above : List (Tree × List Tree)) →
    (positionsAll siblings above).map node = Tree.preorderAll siblings
  | [], _ => rfl
  | sibling :: others, above => by
    rw [positionsAll, List.map_append, positions_map_node sibling, positionsAll_map_node others,
      Tree.preorderAll]

end

/-! ## Walks -/

/-- The nodes of a walk from a cursor on, if there is one. -/
def onward (bound : Nat) : Option Cursor → List Cursor
  | none => []
  | some cursor => walkWithin bound cursor

theorem walkWithin_succ (bound : Nat) (cursor : Cursor) :
    walkWithin (bound + 1) cursor = cursor :: onward bound cursor.next? := by
  rw [walkWithin]
  cases cursor.next? <;> rfl

/-- A walk visits the children of a node as siblings to the right of nothing. -/
theorem next_eq_climb (parent tree : Tree) (later : List Tree) (above : List (Tree × List Tree)) :
    next? ⟨parent, later, above⟩ = climb? tree parent.children ((parent, later) :: above) := by
  rw [next?, firstChild?]
  cases parent.children <;> rfl

mutual

/-- A walk passes the positions in a tree and goes on behind it. -/
theorem walkWithin_tree : (tree : Tree) → (later : List Tree) →
    (above : List (Tree × List Tree)) → (bound : Nat) →
    walkWithin (tree.size + bound) ⟨tree, later, above⟩ =
      positions tree later above ++ onward bound (climb? tree later above)
  | .node kind role start text children, later, above, bound => by
    have counted : (Tree.node kind role start text children).size + bound =
        Tree.sizeAll children + bound + 1 := by
      simp only [Tree.size]
      omega
    have inner := onward_trees children (.node kind role start text children)
      (.node kind role start text children) later above bound
    rw [counted, walkWithin_succ, next_eq_climb _ (.node kind role start text children),
      positions, List.cons_append]
    exact congrArg (_ :: ·) inner

/-- A walk passes siblings one after the other and goes on behind their parent. -/
theorem onward_trees : (siblings : List Tree) → (tree parent : Tree) → (later : List Tree) →
    (above : List (Tree × List Tree)) → (bound : Nat) →
    onward (Tree.sizeAll siblings + bound) (climb? tree siblings ((parent, later) :: above)) =
      positionsAll siblings ((parent, later) :: above) ++ onward bound (climb? parent later above)
  | [], tree, parent, later, above, bound => by
    rw [Tree.sizeAll, Nat.zero_add]
    rfl
  | sibling :: others, tree, parent, later, above, bound => by
    have inner := walkWithin_tree sibling others ((parent, later) :: above)
      (Tree.sizeAll others + bound)
    have after := onward_trees others sibling parent later above bound
    rw [after, ← List.append_assoc, ← Nat.add_assoc] at inner
    rw [Tree.sizeAll, positionsAll]
    exact inner

end

/-- **A walk passes the positions in a tree.** -/
theorem walk_eq_positions (tree : Tree) : walk tree = positions tree [] [] := by
  have passed := walkWithin_tree tree [] [] 0
  rwa [Nat.add_zero, climb?, nextSibling?, onward, List.append_nil] at passed

/-- **A walk passes the nodes of a tree in preorder.** -/
theorem walk_map_node (tree : Tree) : (walk tree).map node = tree.preorder := by
  rw [walk_eq_positions, positions_map_node]

end Hygiene.Python.Cursor
