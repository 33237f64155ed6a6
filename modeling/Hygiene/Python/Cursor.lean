import Hygiene.Python.Tree

/-!
# Cursors

A cursor stands on a node of a tree. It knows the siblings to the right and the
nodes above, each with its own siblings to the right, so it can go down to the
first child, right to the next sibling and up to the parent. It never leaves the
tree it was created on: at the root there is no sibling and no parent.

A walk goes down where it can, and otherwise right, climbing as far as it must.
-/

set_option autoImplicit false

namespace Hygiene.Python

/-- A node in its tree: the siblings to the right, and the nodes above with theirs,
innermost first. -/
structure Cursor where
  node : Tree
  later : List Tree
  above : List (Tree × List Tree)

namespace Cursor

/-- The cursor on the root of a tree. -/
def ofTree (tree : Tree) : Cursor := ⟨tree, [], []⟩

/-- The first child of the node. -/
def firstChild? (cursor : Cursor) : Option Cursor :=
  match cursor.node.children with
  | [] => none
  | child :: others => some ⟨child, others, (cursor.node, cursor.later) :: cursor.above⟩

/-- The next sibling of the node. -/
def nextSibling? (cursor : Cursor) : Option Cursor :=
  match cursor.later with
  | [] => none
  | sibling :: others => some ⟨sibling, others, cursor.above⟩

/-- The parent of the node. -/
def parent? (cursor : Cursor) : Option Cursor :=
  match cursor.above with
  | [] => none
  | (parent, later) :: above => some ⟨parent, later, above⟩

/-- The nodes above, innermost first. -/
def ancestors (cursor : Cursor) : List Tree :=
  cursor.above.map Prod.fst

/-- The next sibling of the node or of the closest node above that has one. -/
def climb? (node : Tree) (later : List Tree) : List (Tree × List Tree) → Option Cursor
  | [] => nextSibling? ⟨node, later, []⟩
  | (parent, laterAbove) :: above =>
    match nextSibling? ⟨node, later, (parent, laterAbove) :: above⟩ with
    | some cursor => some cursor
    | none => climb? parent laterAbove above

/-- The node that a walk visits next. -/
def next? (cursor : Cursor) : Option Cursor :=
  match cursor.firstChild? with
  | some child => some child
  | none => climb? cursor.node cursor.later cursor.above

/-- The nodes of a walk from a cursor on, as many as the bound allows. -/
def walkWithin : (bound : Nat) → Cursor → List Cursor
  | 0, _ => []
  | bound + 1, cursor =>
    cursor :: match cursor.next? with
      | none => []
      | some next => walkWithin bound next

/-- The nodes of a tree in the order of a walk, each with what is above it. -/
def walk (tree : Tree) : List Cursor :=
  walkWithin tree.size (ofTree tree)

/-- The closest node of a given kind above the cursor, with what is above that. -/
def enclosing? (cursor : Cursor) (phrase : Phrase) : Option (Tree × List Tree) :=
  match cursor.ancestors.dropWhile fun tree => !tree.isPhrase phrase with
  | [] => none
  | tree :: above => some (tree, above)

end Cursor

end Hygiene.Python
