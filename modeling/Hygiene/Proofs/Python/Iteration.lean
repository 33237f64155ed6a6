import Hygiene.Proofs.Python.Enclosing
import Hygiene.Proofs.Python.Parts
import Mathlib.Logic.Function.Iterate

/-!
# Iterating over the nodes below a node

An iterator over the nodes below a node has a cursor that was created on the node, and a flag that
says whether it has come to the end (`NodeIterator`). Asked for an item, it gives the node that the
cursor stands on, and then moves the cursor: down where there is a child, and otherwise right,
climbing until there is a sibling. The cursor goes neither right nor up at the node that it was
created on (`Tether`), so climbing ends there at the latest, and this sets the flag.

The iterator gives the places below the node one by one in preorder, and nothing from then on
(`gives_preorder`). Below a node this is by induction on the tree: an iterator on a node gives the
places in its tree and is then where climbing leads to from the node (`yields_tree`), whatever stands
beside and above. Since no two places below a node have the same address, none is given twice
(`subtree_nodup`). On the root of a tree the items are those of a walk.
-/

set_option autoImplicit false

namespace Hygiene.Python

/-! ## Places below a node -/

namespace Cursor

/-- The places of siblings, from left to right. -/
def siblings : List Tree → List (Tree × List Tree) → List Cursor
  | [], _ => []
  | tree :: later, above => ⟨tree, later, above⟩ :: siblings later above

/-- The children of a node, from left to right. -/
def children (cursor : Cursor) : List Cursor :=
  siblings cursor.node.children ((cursor.node, cursor.later) :: cursor.above)

/-- The places in the tree of a node, in preorder. -/
def subtree (cursor : Cursor) : List Cursor :=
  positions cursor.node cursor.later cursor.above

theorem positionsAll_eq (trees : List Tree) (above : List (Tree × List Tree)) :
    positionsAll trees above = (siblings trees above).flatMap subtree := by
  induction trees with
  | nil => rfl
  | cons tree later ih => rw [positionsAll, siblings, List.flatMap_cons, ih, subtree]

/-- First comes the node, and then what is below each child from left to right. -/
theorem subtree_eq (cursor : Cursor) :
    cursor.subtree = cursor :: cursor.children.flatMap subtree := by
  obtain ⟨⟨kind, role, start, text, children⟩, later, above⟩ := cursor
  rw [subtree, positions, positionsAll_eq]
  rfl

theorem mem_subtree_self (cursor : Cursor) : cursor ∈ cursor.subtree := by
  rw [subtree_eq]
  exact List.mem_cons_self

/-! ### Addresses -/

/-- How many siblings a node and each node above it have to the right, innermost first. -/
def address (cursor : Cursor) : List Nat :=
  cursor.later.length :: cursor.above.map fun parent => parent.2.length

/-- A node above another one has an address that the other's ends with. -/
theorem address_of_around {cursor outer : Cursor} (outside : outer ∈ cursor.around) :
    outer.address <:+ cursor.above.map fun parent => parent.2.length := by
  obtain ⟨tree, later, above⟩ := cursor
  rw [around] at outside
  dsimp only at outside ⊢
  induction above with
  | nil => cases outside
  | cons parent above ih =>
    rw [List.map_cons]
    rcases List.mem_cons.mp outside with rfl | beyond
    · exact List.suffix_rfl
    · exact (ih beyond).trans (List.suffix_cons _ _)

theorem not_mem_around (cursor : Cursor) : cursor ∉ cursor.around := by
  intro inside
  have shorter := (address_of_around inside).length_le
  rw [address, List.length_cons] at shorter
  omega

/-- The address of a place in a tree ends with that of the tree. -/
theorem address_of_positions {tree : Tree} {later : List Tree} {above : List (Tree × List Tree)}
    {cursor : Cursor} (member : cursor ∈ positions tree later above) :
    (later.length :: above.map fun parent => parent.2.length) <:+ cursor.address := by
  rcases root_mem_around tree later above member with rfl | below
  · exact List.suffix_rfl
  · exact (address_of_around below).trans (List.suffix_cons _ _)

/-- The address of a place in one of several siblings ends with that of the sibling. -/
theorem address_of_siblings {trees : List Tree} {above : List (Tree × List Tree)}
    {cursor : Cursor} (member : cursor ∈ positionsAll trees above) :
    ∃ right < trees.length,
      (right :: above.map fun parent => parent.2.length) <:+ cursor.address := by
  induction trees with
  | nil => cases member
  | cons tree later ih =>
    rw [positionsAll] at member
    rcases List.mem_append.mp member with here | further
    · exact ⟨later.length, by simp, address_of_positions here⟩
    · obtain ⟨right, within, ends⟩ := ih further
      exact ⟨right, by rw [List.length_cons]; omega, ends⟩

/-- No place is in two siblings. -/
theorem positionsAll_nodup {trees : List Tree} {above : List (Tree × List Tree)}
    (inside : ∀ tree ∈ trees, ∀ later, (positions tree later above).Nodup) :
    (positionsAll trees above).Nodup := by
  induction trees with
  | nil => exact .nil
  | cons tree later ih =>
    rw [positionsAll, List.nodup_append]
    refine ⟨inside tree List.mem_cons_self later, ih fun other member => ?_, ?_⟩
    · exact inside other (List.mem_cons_of_mem _ member)
    · rintro cursor here _ further rfl
      -- The place would have as many siblings to the right as the tree, and fewer.
      obtain ⟨right, within, ends⟩ := address_of_siblings further
      have own := address_of_positions here
      have same := (List.suffix_of_suffix_length_le ends own (by simp)).eq_of_length (by simp)
      obtain ⟨rfl, -⟩ := List.cons.inj same
      omega

/-- No place is twice among the positions in a tree. -/
theorem positions_nodup (tree : Tree) (later : List Tree) (above : List (Tree × List Tree)) :
    (positions tree later above).Nodup := by
  induction tree using Tree.childInduction generalizing later above with
  | step tree ih =>
    obtain ⟨kind, role, start, text, children⟩ := tree
    rw [positions, List.nodup_cons]
    constructor
    · intro below
      exact not_mem_around _ (parent_mem_around children _ later above below)
    · apply positionsAll_nodup
      intro child member others
      exact ih child member others _

end Cursor

/-! ## The iterator -/

/-- A cursor that was created on a node: the place where it stands, and how far this is below the
node. -/
structure Tether where
  place : Cursor
  depth : Nat

namespace Tether

/-- The cursor on the node that it is created on. -/
def ofNode (place : Cursor) : Tether :=
  ⟨place, 0⟩

/-- The first child, if there is one. -/
def firstChild? (cursor : Tether) : Option Tether :=
  cursor.place.firstChild?.map fun child => ⟨child, cursor.depth + 1⟩

/-- The next sibling, if there is one below the node that the cursor was created on. -/
def nextSibling? (cursor : Tether) : Option Tether :=
  if cursor.depth = 0 then none
  else cursor.place.nextSibling?.map fun sibling => ⟨sibling, cursor.depth⟩

/-- The parent, unless the cursor stands on the node that it was created on. -/
def parent? (cursor : Tether) : Option Tether :=
  if cursor.depth = 0 then none
  else cursor.place.parent?.map fun parent => ⟨parent, cursor.depth - 1⟩

theorem parent_depth {cursor above : Tether} (parent : cursor.parent? = some above) :
    above.depth < cursor.depth := by
  rw [parent?] at parent
  split at parent
  · cases parent
  · obtain ⟨place, -, rfl⟩ := Option.map_eq_some_iff.mp parent
    dsimp only
    omega

end Tether

/-- An iterator over nodes: its cursor, and whether it has come to the end. -/
structure NodeIterator where
  cursor : Tether
  done : Bool

namespace NodeIterator

/-- The iterator over the nodes below a node. -/
def ofNode (place : Cursor) : NodeIterator :=
  ⟨.ofNode place, false⟩

/-- The iterator whose cursor has climbed until there is a sibling, or to the end. -/
def climb (cursor : Tether) : NodeIterator :=
  match cursor.nextSibling? with
  | some sibling => ⟨sibling, false⟩
  | none =>
    match _ : cursor.parent? with
    | some above => climb above
    | none => ⟨cursor, true⟩
termination_by cursor.depth
decreasing_by exact Tether.parent_depth ‹_›

/-- The next item, if there is one, and the iterator after it. -/
def next (iterator : NodeIterator) : Option Cursor × NodeIterator :=
  if iterator.done then (none, iterator)
  else
    (some iterator.cursor.place,
      match iterator.cursor.firstChild? with
      | some child => ⟨child, false⟩
      | none => climb iterator.cursor)

/-- The iterator after a number of items. -/
def after (iterator : NodeIterator) (count : Nat) : NodeIterator :=
  (fun iterator => iterator.next.2)^[count] iterator

/-- The item that an iterator gives when it has been asked for a number of items before. -/
def item? (iterator : NodeIterator) (count : Nat) : Option Cursor :=
  (iterator.after count).next.1

/-! ## What an iterator gives -/

/-- An iterator gives items one by one and is another one then. -/
inductive Yields : NodeIterator → List Cursor → NodeIterator → Prop
  | nil (iterator : NodeIterator) : Yields iterator [] iterator
  | cons {iterator last : NodeIterator} {item : Cursor} {items : List Cursor}
      (first : iterator.next.1 = some item) (further : Yields iterator.next.2 items last) :
      Yields iterator (item :: items) last

namespace Yields

variable {iterator middle last : NodeIterator} {items others : List Cursor}

theorem append (front : Yields iterator items middle) (back : Yields middle others last) :
    Yields iterator (items ++ others) last := by
  induction front with
  | nil => exact back
  | cons first _ ih => exact .cons first (ih back)

/-- An iterator at its end stays there. -/
theorem after_end (ended : iterator.done = true) (count : Nat) :
    iterator.after count = iterator := by
  induction count with
  | zero => rfl
  | succ count ih =>
    rw [after, Function.iterate_succ_apply', ← after, ih, next, if_pos ended]

/-- Nothing follows the items of an iterator that comes to its end with them. -/
theorem item_eq (yields : Yields iterator items last) (ended : last.done = true) (count : Nat) :
    iterator.item? count = items[count]? := by
  induction yields generalizing count with
  | nil iterator =>
    rw [item?, after_end ended, next, if_pos ended, List.getElem?_nil]
  | cons first _ ih =>
    cases count with
    | zero => exact first
    | succ count => exact ih ended count

/-- An iterator comes to its end with its last item. -/
theorem done_iff (yields : Yields iterator items last) (ended : last.done = true) (count : Nat) :
    (iterator.after count).done = true ↔ items.length ≤ count := by
  induction yields generalizing count with
  | nil iterator => simp [after_end ended, ended]
  | @cons iterator _ _ _ first _ ih =>
    cases count with
    | zero =>
      have active : iterator.done = false := by
        cases done : iterator.done with
        | false => rfl
        | true =>
          rw [next, if_pos done] at first
          cases first
      simp [after, active]
    | succ count =>
      rw [List.length_cons, Nat.add_le_add_iff_right]
      exact ih ended count

/-- The iterator is at its end after all of its items. -/
theorem after_eq (yields : Yields iterator items last) (ended : last.done = true) {count : Nat}
    (late : items.length ≤ count) : iterator.after count = last := by
  induction yields generalizing count with
  | nil iterator => exact after_end ended count
  | cons _ _ ih =>
    cases count with
    | zero => cases late
    | succ count => exact ih ended (Nat.le_of_succ_le_succ late)

end Yields

/-! ## Climbing -/

theorem climb_ofNode (place : Cursor) : climb (.ofNode place) = ⟨.ofNode place, true⟩ := by
  rw [climb]
  rfl

theorem climb_sibling (tree sibling : Tree) (later : List Tree)
    (above : List (Tree × List Tree)) (depth : Nat) :
    climb ⟨⟨tree, sibling :: later, above⟩, depth + 1⟩ =
      ⟨⟨⟨sibling, later, above⟩, depth + 1⟩, false⟩ := by
  rw [climb]
  rfl

theorem climb_parent (tree parent : Tree) (later : List Tree) (above : List (Tree × List Tree))
    (depth : Nat) :
    climb ⟨⟨tree, [], (parent, later) :: above⟩, depth + 1⟩ =
      climb ⟨⟨parent, later, above⟩, depth⟩ := by
  rw [climb]
  rfl

/-! ## Trees -/

/-- From a child on, an iterator gives the places in it and in its siblings to the right, and is
then where climbing leads to from the parent, when it gives the places in each of them. -/
theorem yields_siblings {parent : Tree} {later : List Tree} {above : List (Tree × List Tree)}
    {depth : Nat} (child : Tree) (others : List Tree)
    (inside : ∀ tree ∈ child :: others, ∀ siblings,
      Yields ⟨⟨⟨tree, siblings, (parent, later) :: above⟩, depth + 1⟩, false⟩
        (Cursor.positions tree siblings ((parent, later) :: above))
        (climb ⟨⟨tree, siblings, (parent, later) :: above⟩, depth + 1⟩)) :
    Yields ⟨⟨⟨child, others, (parent, later) :: above⟩, depth + 1⟩, false⟩
      (Cursor.positionsAll (child :: others) ((parent, later) :: above))
      (climb ⟨⟨parent, later, above⟩, depth⟩) := by
  induction others generalizing child with
  | nil =>
    have last := inside child List.mem_cons_self []
    rw [climb_parent] at last
    rw [Cursor.positionsAll, Cursor.positionsAll, List.append_nil]
    exact last
  | cons sibling others ih =>
    have first := inside child List.mem_cons_self (sibling :: others)
    rw [climb_sibling] at first
    rw [Cursor.positionsAll]
    apply first.append
    apply ih sibling
    intro tree member
    exact inside tree (List.mem_cons_of_mem _ member)

/-- From a node on, an iterator gives the places in its tree, and is then where climbing leads to
from the node. -/
theorem yields_tree (tree : Tree) (later : List Tree) (above : List (Tree × List Tree))
    (depth : Nat) :
    Yields ⟨⟨⟨tree, later, above⟩, depth⟩, false⟩ (Cursor.positions tree later above)
      (climb ⟨⟨tree, later, above⟩, depth⟩) := by
  induction tree using Tree.childInduction generalizing later above depth with
  | step tree ih =>
    obtain ⟨kind, role, start, text, children⟩ := tree
    rw [Cursor.positions]
    apply Yields.cons rfl
    cases children with
    | nil => exact .nil _
    | cons child others =>
      apply yields_siblings child others
      intro tree member siblings
      exact ih tree member siblings _ (depth + 1)

/-- **An iterator on a node gives the places below the node in preorder**, each once, and nothing
from then on. Its cursor never leaves the places below the node, and these are the nodes of the
tree around it that are the node or have it above them. On the root of a tree they are the nodes of
a walk. -/
theorem gives_preorder {tree : Tree} {place : Cursor} (stands : place ∈ Cursor.walk tree) :
    (∀ count, (ofNode place).item? count = place.subtree[count]?) ∧
      (∀ count, ((ofNode place).after count).done = true ↔ place.subtree.length ≤ count) ∧
      (∀ count, ((ofNode place).after count).cursor.place ∈ place.subtree) ∧
      place.subtree = place :: place.children.flatMap Cursor.subtree ∧
      place.subtree.map Cursor.node = place.node.preorder ∧
      place.subtree.Nodup ∧
      (∀ cursor, cursor ∈ place.subtree ↔
        cursor ∈ Cursor.walk tree ∧ (cursor = place ∨ place ∈ cursor.around)) ∧
      (Cursor.ofTree tree).subtree = Cursor.walk tree := by
  have yields : Yields (ofNode place) place.subtree ⟨.ofNode place, true⟩ := by
    have whole := yields_tree place.node place.later place.above 0
    rwa [← Tether.ofNode, climb_ofNode] at whole
  refine ⟨yields.item_eq rfl, yields.done_iff rfl, fun count => ?_, place.subtree_eq,
    Cursor.positions_map_node _ _ _, Cursor.positions_nodup _ _ _,
    fun cursor => Cursor.mem_positions_iff stands, (Cursor.walk_eq_positions tree).symm⟩
  rcases Nat.lt_or_ge count place.subtree.length with early | late
  · -- Before the end the cursor stands on the item that is given next.
    have item := yields.item_eq rfl count
    have active : ¬ ((ofNode place).after count).done = true := by
      rw [yields.done_iff rfl]
      omega
    rw [item?, next, if_neg active] at item
    exact List.mem_of_getElem? item.symm
  · rw [yields.after_eq rfl late]
    exact place.mem_subtree_self

/-- The arguments `(x)`. -/
def plainArguments : Tree :=
  .node (.phrase .argumentList) (some .arguments) ⟨0, 1⟩ "(x)".toList
    [Tree.mark ⟨0, 1⟩ "(", Tree.word none ⟨0, 2⟩ ['x'], Tree.mark ⟨0, 3⟩ ")"]

/-- The statement `f(x)`. -/
def plainCall : Tree :=
  .node (.phrase .expressionStatement) none ⟨0, 0⟩ "f(x)".toList
    [.node (.phrase .call) none ⟨0, 0⟩ "f(x)".toList
      [Tree.word (some .function) ⟨0, 0⟩ ['f'], plainArguments]]

/-- Where the arguments stand in the statement. -/
def argumentsPlace : Cursor :=
  ⟨plainArguments, [],
    [(.node (.phrase .call) none ⟨0, 0⟩ "f(x)".toList
      [Tree.word (some .function) ⟨0, 0⟩ ['f'], plainArguments], []), (plainCall, [])]⟩

/-- The arguments and the three nodes in them are given, and nothing else of the statement. -/
theorem gives_preorder_arguments :
    argumentsPlace ∈ Cursor.walk plainCall ∧
      (∀ count, (ofNode argumentsPlace).item? count = argumentsPlace.subtree[count]?) ∧
      ∀ count, ((ofNode argumentsPlace).after count).done = true ↔ 4 ≤ count := by
  have stands : argumentsPlace ∈ Cursor.walk plainCall :=
    List.mem_of_getElem? (i := 3) rfl
  have items := gives_preorder stands
  exact ⟨stands, items.1, items.2.1⟩

end NodeIterator

end Hygiene.Python
