import Hygiene.Proofs.Python.Generators
import Hygiene.Proofs.Python.Parentheses

/-!
# Redundant parentheses

To put parentheses around an expression adds the nodes of the parentheses to the walk, and nothing
else: what is passed in front of the expression, in it and behind it are the same nodes, each with
the same verdicts of all rules that do not see the parentheses (`check_parenthesized`). Two rules
may see them, and in one place each they do (`parentheses_hide`).

The walk through a tree is cut in three at a part of it: the nodes in front of the part and around
it (`Cursor.passed`), those in the part (`Cursor.below`) and those behind it (`Cursor.ahead`).
-/

set_option autoImplicit false

namespace Hygiene.Python

open List (Forall₂)

namespace Cursor

/-! ## Walks around a part -/

/-- The positions in siblings that have others to their right. -/
def positionsBefore : (siblings others : List Tree) → List (Tree × List Tree) → List Cursor
  | [], _, _ => []
  | tree :: siblings, others, above =>
    positions tree (siblings ++ others) above ++ positionsBefore siblings others above

/-- The positions in the tree of a cursor. -/
def below (cursor : Cursor) : List Cursor :=
  positions cursor.node cursor.later cursor.above

/-- The cursor on a part inside of phrases that stand beside and below others. -/
def inside : List Tree.Frame → Tree → List Tree → List (Tree × List Tree) → Cursor
  | [], part, later, above => ⟨part, later, above⟩
  | frame :: inner, part, later, above =>
    inside inner part frame.right ((frame.fill (Tree.Frame.fillAll inner part), later) :: above)

/-- The cursor on a part of the phrase that a cursor is on. -/
def under (cursor : Cursor) (frame : Tree.Frame) (part : Tree) : Cursor :=
  ⟨part, frame.right, (cursor.node, cursor.later) :: cursor.above⟩

/-- The positions around a part and to the left of it. -/
def passed : List Tree.Frame → Tree → List Tree → List (Tree × List Tree) → List Cursor
  | [], _, _, _ => []
  | frame :: inner, part, later, above =>
    let whole := frame.fill (Tree.Frame.fillAll inner part)
    ⟨whole, later, above⟩ ::
      (positionsBefore frame.left (Tree.Frame.fillAll inner part :: frame.right)
          ((whole, later) :: above) ++
        passed inner part frame.right ((whole, later) :: above))

/-- The positions to the right of a part. -/
def ahead : List Tree.Frame → Tree → List Tree → List (Tree × List Tree) → List Cursor
  | [], _, _, _ => []
  | frame :: inner, part, later, above =>
    let whole := frame.fill (Tree.Frame.fillAll inner part)
    ahead inner part frame.right ((whole, later) :: above) ++
      positionsAll frame.right ((whole, later) :: above)

theorem positions_eq (tree : Tree) (later : List Tree) (above : List (Tree × List Tree)) :
    positions tree later above =
      ⟨tree, later, above⟩ :: positionsAll tree.children ((tree, later) :: above) := by
  obtain ⟨kind, role, start, text, children⟩ := tree
  rw [positions]
  rfl

theorem positionsAll_append (siblings others : List Tree) (above : List (Tree × List Tree)) :
    positionsAll (siblings ++ others) above =
      positionsBefore siblings others above ++ positionsAll others above := by
  induction siblings with
  | nil => rfl
  | cons tree siblings ih =>
    rw [List.cons_append, positionsAll, ih, positionsBefore, List.append_assoc]

theorem positionsBefore_map_node (siblings others : List Tree)
    (above : List (Tree × List Tree)) :
    (positionsBefore siblings others above).map node = Tree.preorderAll siblings := by
  induction siblings with
  | nil => rfl
  | cons tree siblings ih =>
    rw [positionsBefore, List.map_append, positions_map_node, ih, Tree.preorderAll]

/-- The positions in a phrase are those in front of a part, in the part and behind it. -/
theorem positions_fill (frame : Tree.Frame) (part : Tree) (later : List Tree)
    (above : List (Tree × List Tree)) :
    positions (frame.fill part) later above =
      ⟨frame.fill part, later, above⟩ ::
        (positionsBefore frame.left (part :: frame.right) ((frame.fill part, later) :: above) ++
          (positions part frame.right ((frame.fill part, later) :: above) ++
            positionsAll frame.right ((frame.fill part, later) :: above))) := by
  rw [positions_eq, Tree.Frame.fill, Tree.children, positionsAll_append, positionsAll]

/-- **A walk passes the nodes in front of a part, those in the part and those behind it.** -/
theorem positions_fillAll (frames : List Tree.Frame) (part : Tree) (later : List Tree)
    (above : List (Tree × List Tree)) :
    positions (Tree.Frame.fillAll frames part) later above =
      passed frames part later above ++
        ((inside frames part later above).below ++ ahead frames part later above) := by
  induction frames generalizing later above with
  | nil => rw [passed, inside, ahead, List.append_nil, List.nil_append]; rfl
  | cons frame inner ih =>
    have whole : positions (Tree.Frame.fillAll (frame :: inner) part) later above = _ :=
      positions_fill frame (Tree.Frame.fillAll inner part) later above
    rw [ih] at whole
    simpa only [passed, inside, ahead, List.append_assoc, List.cons_append] using whole

/-- The positions in a phrase that a cursor is on. -/
theorem below_fill {cursor : Cursor} {frame : Tree.Frame} {part : Tree}
    (is : cursor.node = frame.fill part) :
    cursor.below =
      cursor ::
        (positionsBefore frame.left (part :: frame.right)
            ((cursor.node, cursor.later) :: cursor.above) ++
          ((cursor.under frame part).below ++
            positionsAll frame.right ((cursor.node, cursor.later) :: cursor.above))) := by
  obtain ⟨_, later, above⟩ := cursor
  cases is
  exact positions_fill frame part later above

theorem node_inside (frames : List Tree.Frame) (part : Tree) (later : List Tree)
    (above : List (Tree × List Tree)) : (inside frames part later above).node = part := by
  induction frames generalizing later above with
  | nil => rfl
  | cons frame inner ih => exact ih _ _

end Cursor

namespace Parentheses

variable {change : Parentheses} {around : List Tree.Frame}

/-! ## The same walk -/

mutual

/-- A tree below the same nodes is passed alike. -/
theorem positions_same : (tree : Tree) → (later others : List Tree) →
    (above beyond : List (Tree × List Tree)) →
    change.Outward around (above.map Prod.fst) (beyond.map Prod.fst) →
    Forall₂ (change.SameCursor around) (Cursor.positions tree later above)
      (Cursor.positions tree others beyond)
  | .node kind role start text children, later, others, above, beyond, outward => by
    rw [Cursor.positions, Cursor.positions]
    exact .cons ⟨.same _, outward⟩ (positionsAll_same children _ _ (.node (.same _) outward))

theorem positionsAll_same : (siblings : List Tree) → (above beyond : List (Tree × List Tree)) →
    change.Outward around (above.map Prod.fst) (beyond.map Prod.fst) →
    Forall₂ (change.SameCursor around) (Cursor.positionsAll siblings above)
      (Cursor.positionsAll siblings beyond)
  | [], _, _, _ => .nil
  | tree :: later, above, beyond, outward => by
    rw [Cursor.positionsAll, Cursor.positionsAll]
    exact List.rel_append (positions_same tree later later above beyond outward)
      (positionsAll_same later above beyond outward)

end

theorem positionsBefore_same (siblings later others : List Tree)
    {above beyond : List (Tree × List Tree)}
    (outward : change.Outward around (above.map Prod.fst) (beyond.map Prod.fst)) :
    Forall₂ (change.SameCursor around) (Cursor.positionsBefore siblings later above)
      (Cursor.positionsBefore siblings others beyond) := by
  induction siblings with
  | nil => exact .nil
  | cons tree siblings ih => exact List.rel_append (positions_same tree _ _ _ _ outward) ih

/-- The expression is passed alike with parentheses and without. -/
theorem positions_expression (later others : List Tree)
    {above beyond : List (Tree × List Tree)}
    (outward : change.Outward around (above.map Prod.fst) (beyond.map Prod.fst)) :
    Forall₂ (change.SameCursor around) (Cursor.positions change.expression later above)
      (Cursor.positions change.inner others beyond) := by
  rw [Cursor.positions_eq, Cursor.positions_eq]
  exact .cons ⟨.expression, outward⟩
    (positionsAll_same change.expression.children _ _ (.node .expression outward))

/-- Both walks pass the same nodes in front of the expression, in it and behind it. -/
theorem walk_same {outer : List Tree.Frame}
    (places : Tree.Frame.Surrounds outer (change.parent.fill change.expression))
    (within : outer ++ [change.parent] <:+ around) (later others : List Tree)
    {above beyond : List (Tree × List Tree)}
    (outward : change.Outward around (above.map Prod.fst) (beyond.map Prod.fst)) :
    Forall₂ (change.SameCursor around)
        (Cursor.passed (outer ++ [change.parent]) change.expression later above)
        (Cursor.passed (outer ++ [change.parent]) change.wrapped others beyond) ∧
      Forall₂ (change.SameCursor around)
        (Cursor.inside (outer ++ [change.parent]) change.expression later above).below
        ((Cursor.inside (outer ++ [change.parent]) change.wrapped others beyond).under
          change.pair change.inner).below ∧
      Forall₂ (change.SameCursor around)
        (Cursor.ahead (outer ++ [change.parent]) change.expression later above)
        (Cursor.ahead (outer ++ [change.parent]) change.wrapped others beyond) := by
  induction outer generalizing later others above beyond with
  | nil =>
    have node : change.SameNode around (change.parent.fill change.expression)
        (change.parent.fill change.wrapped) := .wrapped within .parent
    have parent : change.Outward around
        (change.parent.fill change.expression :: above.map Prod.fst)
        (change.parent.fill change.wrapped :: beyond.map Prod.fst) := .node node outward
    refine ⟨.cons ⟨node, outward⟩ (List.rel_append (positionsBefore_same _ _ _ parent) .nil), ?_,
      positionsAll_same change.parent.right _ _ parent⟩
    exact positions_expression _ _ (.parentheses outward within)
  | cons frame outer ih =>
    have node : change.SameNode around
        (frame.fill (Tree.Frame.fillAll (outer ++ [change.parent]) change.expression))
        (frame.fill (Tree.Frame.fillAll (outer ++ [change.parent]) change.wrapped)) :=
      .wrapped within (wrapped_fillAll places)
    have parent : change.Outward around (List.map Prod.fst ((_, later) :: above))
        (List.map Prod.fst ((_, others) :: beyond)) := .node node outward
    have below := (List.suffix_cons frame (outer ++ [change.parent])).trans within
    obtain ⟨front, middle, back⟩ := ih places.2 below frame.right frame.right parent
    exact ⟨.cons ⟨node, outward⟩ (List.rel_append (positionsBefore_same _ _ _ parent) front),
      middle, List.rel_append back (positionsAll_same frame.right _ _ parent)⟩

/-! ## Redundant parentheses -/

/-- Two cursors on the same node, with the same verdicts of the rules that do not see the
parentheses. -/
structure Agree (change : Parentheses) (around : List Tree.Frame) (first second : Cursor) :
    Prop where
  kind_eq : first.node.kind = second.node.kind
  start_eq : first.node.start = second.node.start
  check_eq (rule : Rule) (spare : ¬ change.Shows around rule) :
    rule.check first = rule.check second

theorem SameCursor.agree {first second : Cursor} (cursors : change.SameCursor around first second) :
    change.Agree around first second where
  kind_eq := cursors.node.kind_eq
  start_eq := cursors.node.start_eq
  check_eq _ spare := cursors.check spare

/-- The parentheses add their own nodes to a walk, and change no verdict on another node. The
phrases around the expression are given, outermost first. -/
structure Redundant (change : Parentheses) (around : List Tree.Frame) : Prop where
  /-- The walk without the parentheses. -/
  bare : Cursor.walk (Tree.Frame.fillAll around change.expression) =
    Cursor.passed around change.expression [] [] ++
      ((Cursor.inside around change.expression [] []).below ++
        Cursor.ahead around change.expression [] [])
  /-- The walk with the parentheses. -/
  enclosed : ∃ opening closing,
    Cursor.walk (Tree.Frame.fillAll around change.wrapped) =
        Cursor.passed around change.wrapped [] [] ++
          ((Cursor.inside around change.wrapped [] [] :: opening ++
              (((Cursor.inside around change.wrapped [] []).under change.pair change.inner).below ++
                closing)) ++
            Cursor.ahead around change.wrapped [] []) ∧
      opening.map Cursor.node = Tree.preorderAll change.pair.left ∧
      closing.map Cursor.node = Tree.preorderAll change.pair.right
  front : Forall₂ (change.Agree around) (Cursor.passed around change.expression [] [])
    (Cursor.passed around change.wrapped [] [])
  expression : Forall₂ (change.Agree around)
    (Cursor.inside around change.expression [] []).below
    ((Cursor.inside around change.wrapped [] []).under change.pair change.inner).below
  back : Forall₂ (change.Agree around) (Cursor.ahead around change.expression [] [])
    (Cursor.ahead around change.wrapped [] [])

/-- A walk passes the parentheses around the expression. -/
theorem walk_wrapped (change : Parentheses) (around : List Tree.Frame) :
    ∃ opening closing,
      Cursor.walk (Tree.Frame.fillAll around change.wrapped) =
          Cursor.passed around change.wrapped [] [] ++
            ((Cursor.inside around change.wrapped [] [] :: opening ++
                (((Cursor.inside around change.wrapped [] []).under change.pair
                  change.inner).below ++ closing)) ++
              Cursor.ahead around change.wrapped [] []) ∧
        opening.map Cursor.node = Tree.preorderAll change.pair.left ∧
        closing.map Cursor.node = Tree.preorderAll change.pair.right := by
  have whole := Cursor.positions_fillAll around change.wrapped [] []
  rw [← Cursor.walk_eq_positions,
    Cursor.below_fill (Cursor.node_inside around change.wrapped [] [])] at whole
  exact ⟨_, _, whole, Cursor.positionsBefore_map_node _ _ _, Cursor.positionsAll_map_node _ _⟩

/-- **Parentheses around an expression change no verdict on another node**, and none on the
expression, of all rules that do not see them. -/
theorem check_parenthesized (change : Parentheses) (outer : List Tree.Frame)
    (places : Tree.Frame.Surrounds outer (change.parent.fill change.expression)) :
    change.Redundant (outer ++ [change.parent]) := by
  obtain ⟨front, expression, back⟩ :=
    @walk_same change _ outer places (List.suffix_refl _) [] [] [] [] .root
  have agree : ∀ first second, change.SameCursor (outer ++ [change.parent]) first second →
      change.Agree (outer ++ [change.parent]) first second := fun _ _ cursors => cursors.agree
  exact
    { bare := by rw [Cursor.walk_eq_positions, Cursor.positions_fillAll]
      enclosed := change.walk_wrapped _
      front := front.imp agree
      expression := expression.imp agree
      back := back.imp agree }

/-! ## Three expressions -/

/-- A pair of parentheses around a part in a role. -/
def plainPair (role : Option Role) (line column length : Nat) : Tree.Frame where
  phrase := .parenthesizedExpression
  role := role
  start := ⟨line, column⟩
  before := ['(']
  after := [')']
  left := [Tree.mark ⟨line, column⟩ "("]
  right := [Tree.mark ⟨line, column + length + 1⟩ ")"]

theorem plainPair_idle {role : Option Role} {line column length : Nat} {tree : Tree}
    (member : tree ∈ (plainPair role line column length).left ++
      (plainPair role line column length).right) : tree.counts = false ∧ tree.children = [] := by
  rcases List.mem_cons.mp member with rfl | member
  · exact ⟨rfl, rfl⟩
  · cases List.mem_singleton.mp member
    exact ⟨rfl, rfl⟩

/-- The sum `… + x`. -/
def sumFrame : Tree.Frame where
  phrase := .binaryOperator
  role := none
  start := ⟨0, 0⟩
  before := []
  after := " + x".toList
  left := []
  right := [.node (.token (.mark "+")) (some .operator) ⟨0, 9⟩ ['+'] [],
    Tree.word (some .right) ⟨0, 11⟩ ['x']]

/-- The function of the call `range(9)`, put in parentheses. -/
def rangeParentheses : Parentheses where
  expression := Tree.word (some .function) ⟨0, 0⟩ "range".toList
  parent :=
    { phrase := .call
      role := some .left
      start := ⟨0, 0⟩
      before := []
      after := "(9)".toList
      left := []
      right := [.node (.phrase .argumentList) (some .arguments) ⟨0, 5⟩ "(9)".toList
        [Tree.mark ⟨0, 5⟩ "(", .node (.token .integer) none ⟨0, 6⟩ ['9'] [],
          Tree.mark ⟨0, 7⟩ ")"]] }
  pair := plainPair (some .function) 0 0 5
  counts := rfl
  place := .called rfl
  phrase_eq := rfl
  role_eq := rfl
  idle _ member := (plainPair_idle member).1
  leaf _ member := (plainPair_idle member).2

/-- The sum `range(9) + x` is reported as well when it is written `(range)(9) + x`. -/
theorem check_parenthesized_calledFunction :
    rangeParentheses.Redundant [sumFrame, rangeParentheses.parent] ∧
      Rule.safeIterator.check (.ofTree
        (Tree.Frame.fillAll [sumFrame, rangeParentheses.parent] rangeParentheses.wrapped)) =
          .violation "adding iterators is not allowed" := by
  have places : Tree.Frame.Surrounds [sumFrame]
      (rangeParentheses.parent.fill rangeParentheses.expression) :=
    ⟨{ word := rfl
       quoted := nofun
       row := nofun
       className := nofun
       bases := nofun
       parameters := nofun
       modules := nofun
       source := nofun }, trivial⟩
  have redundant := check_parenthesized rangeParentheses [sumFrame] places
  obtain ⟨sum, -⟩ := List.forall₂_cons.mp redundant.front
  exact ⟨redundant, (sum.check_eq .safeIterator nofun).symm⟩

/-- The comprehension in `set([x for x in y])`, put in parentheses. -/
def comprehensionParentheses : Parentheses where
  expression := .node (.phrase .listComprehension) none ⟨0, 4⟩ "[x for x in y]".toList
    [Tree.mark ⟨0, 4⟩ "[", Tree.word (some .body) ⟨0, 5⟩ ['x'],
      .node (.phrase .forInClause) none ⟨0, 7⟩ "for x in y".toList
        [Tree.mark ⟨0, 7⟩ "for", Tree.word (some .left) ⟨0, 11⟩ ['x'], Tree.mark ⟨0, 13⟩ "in",
          Tree.word (some .right) ⟨0, 16⟩ ['y']],
      Tree.mark ⟨0, 17⟩ "]"]
  parent :=
    { phrase := .argumentList
      role := some .arguments
      start := ⟨0, 3⟩
      before := ['(']
      after := [')']
      left := [Tree.mark ⟨0, 3⟩ "("]
      right := [Tree.mark ⟨0, 18⟩ ")"] }
  pair := plainPair none 0 4 14
  counts := rfl
  place := .argument rfl
  phrase_eq := rfl
  role_eq := rfl
  idle _ member := (plainPair_idle member).1
  leaf _ member := (plainPair_idle member).2

/-- The comparison `set… <= z`. -/
def inclusionFrames : List Tree.Frame :=
  [{ phrase := .comparisonOperator
     role := none
     start := ⟨0, 0⟩
     before := []
     after := " <= z".toList
     left := []
     right := [.node (.token (.mark "<=")) (some .operators) ⟨0, 20⟩ "<=".toList [],
       Tree.word none ⟨0, 23⟩ ['z']] },
    { phrase := .call
      role := none
      start := ⟨0, 0⟩
      before := "set".toList
      after := []
      left := [Tree.word (some .function) ⟨0, 0⟩ "set".toList]
      right := [] },
    comprehensionParentheses.parent]

/-- The decorator `@contextmanager`, put in parentheses. -/
def decoratorParentheses : Parentheses where
  expression := Tree.word none ⟨0, 1⟩ "contextmanager".toList
  parent :=
    { phrase := .decorator
      role := none
      start := ⟨0, 0⟩
      before := ['@']
      after := []
      left := [Tree.mark ⟨0, 0⟩ "@"]
      right := [] }
  pair := plainPair none 0 1 14
  counts := rfl
  place := .decorator rfl
  phrase_eq := rfl
  role_eq := rfl
  idle _ member := (plainPair_idle member).1
  leaf _ member := (plainPair_idle member).2

/-- A definition with a decorator, and the phrase for it. -/
def decoratedFrames : List Tree.Frame :=
  [{ phrase := .decoratedDefinition
     role := none
     start := ⟨0, 0⟩
     before := []
     after := '\n' :: (outerFunction "return" []).text
     left := []
     right := [outerFunction "return" []] },
    decoratorParentheses.parent]

/-- The place where the function with a decorator yields. -/
def yieldBelow (decorated : Tree) : Cursor :=
  ⟨yieldInner, [], [(yieldStatement, []), (outerBody "return" [], []),
    (outerFunction "return" [], []), (decorated, [])]⟩

/-- Parentheses around a comprehension hide that a set is built from it, and parentheses around a
decorator hide its name. -/
theorem parentheses_hide :
    (Rule.setComparison.check
          (.ofTree (Tree.Frame.fillAll inclusionFrames comprehensionParentheses.expression)) =
        .violation "use any() and all() over comprehended set comparisons" ∧
      Rule.setComparison.check
          (.ofTree (Tree.Frame.fillAll inclusionFrames comprehensionParentheses.wrapped)) =
        .clean) ∧
      Rule.safeYield.check
          (yieldBelow (Tree.Frame.fillAll decoratedFrames decoratorParentheses.expression)) =
        .clean ∧
      Rule.safeYield.check
          (yieldBelow (Tree.Frame.fillAll decoratedFrames decoratorParentheses.wrapped)) =
        .violation undecorated := by
  decide

end Parentheses

end Hygiene.Python
