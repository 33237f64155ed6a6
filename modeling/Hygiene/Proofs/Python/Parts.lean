import Hygiene.Python.Tree

/-!
# Parts of a phrase

The grammar says which parts a phrase has. Between them, comments and line continuations may stand
anywhere, and both are nodes with a name. A rule that leaves out the comments only sees the parts
and the line continuations (`namedChildren_eq_parts` says when these are the parts alone). Some
parts are names, which nothing stands inside of (`isWord`).

Trees are finite, so what holds of a tree whenever it holds of its children holds of every tree
(`childInduction`).
-/

set_option autoImplicit false

namespace Hygiene.Python

/-- Whether a part of a phrase is a name by itself. -/
def isWord : Phrase → Option Role → Bool
  | .functionDefinition, some .name => true
  | .aliasedImport, some .asName => true
  | .attributeAccess, some .member => true
  | _, _ => false

namespace Tree

/-- A child that the grammar asks for by name. Comments and line continuations may stand anywhere
beside such children. -/
def isPart (tree : Tree) : Bool :=
  tree.counts && !tree.isToken .lineContinuation

/-- The children that the grammar asks for by name. -/
def parts (tree : Tree) : List Tree :=
  tree.children.filter isPart

/-- No line is continued between the parts of a phrase. -/
def Unbroken (tree : Tree) : Prop :=
  ∀ child ∈ tree.children, child.isToken .lineContinuation = false

/-- Without line continuations, the children that count are the parts. -/
theorem namedChildren_eq_parts {tree : Tree} (unbroken : tree.Unbroken) :
    tree.namedChildren = tree.parts :=
  List.filter_congr fun child member => by
    rw [isPart, unbroken child member, Bool.not_false, Bool.and_true]

/-- A phrase counts. -/
theorem counts_of_isPhrase {tree : Tree} {phrase : Phrase} (is : tree.isPhrase phrase = true) :
    tree.counts = true := by
  rw [isPhrase, decide_eq_true_eq] at is
  rw [counts, isNamed, isToken, is]
  rfl

/-- What counts is no mark of punctuation and no comment. -/
theorem not_token_of_counts {tree : Tree} {token : Token} (counts : tree.counts = true)
    (idle : token.isNamed = false ∨ token = .comment) : tree.isToken token = false := by
  rw [Tree.counts, Bool.and_eq_true, Bool.not_eq_true'] at counts
  rcases idle with hidden | rfl
  · refine decide_eq_false fun same => ?_
    have named : Kind.isNamed tree.kind = true := counts.1
    rw [same, Kind.isNamed, hidden] at named
    cases named
  · exact counts.2

/-- A name at a position. -/
def word (role : Option Role) (start : Position) (text : Text) : Tree :=
  .node (.token .identifier) role start text []

/-- A keyword or a mark of punctuation at a position. -/
def mark (start : Position) (spelling : String) : Tree :=
  .node (.token (.mark spelling)) none start spelling.toList []

theorem isPhrase_inj {tree : Tree} {first second : Phrase} (is : tree.isPhrase first = true)
    (too : tree.isPhrase second = true) : first = second := by
  simp only [isPhrase, decide_eq_true_eq] at is too
  exact Kind.phrase.inj (is.symm.trans too)

theorem preorder_eq (tree : Tree) : tree.preorder = tree :: preorderAll tree.children := by
  cases tree
  rfl

theorem preorderAll_eq (trees : List Tree) : preorderAll trees = trees.flatMap preorder := by
  induction trees with
  | nil => rfl
  | cons tree others ih => rw [preorderAll, ih, List.flatMap_cons]

/-- What holds of a tree whenever it holds of its children holds of every tree. -/
theorem childInduction {motive : Tree → Prop}
    (step : ∀ tree, (∀ child ∈ tree.children, motive child) → motive tree) (tree : Tree) :
    motive tree :=
  step tree fun child member =>
    have smaller : sizeOf child < sizeOf tree := by
      obtain ⟨kind, role, start, text, children⟩ := tree
      have := List.sizeOf_lt_of_mem member
      simp only [Tree.children, Tree.node.sizeOf_spec] at this ⊢
      omega
    childInduction step child
termination_by sizeOf tree

end Tree

end Hygiene.Python
