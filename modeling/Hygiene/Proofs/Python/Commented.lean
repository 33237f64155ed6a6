import Hygiene.Proofs.Python.Interspersed
import Hygiene.Proofs.Python.Likeness
import Hygiene.Proofs.Python.Walk

/-!
# Trees with comments added

Comments can stand between any two children of a node. A tree with comments added has the nodes of
the tree without, in the same order, and what it has besides are the comments (`Commented`). The
positions may all be others, and so may the texts of phrases, since a phrase covers the comments in
it; but names and strings are the same.

What rules read of a node is the same with the comments. They look for parts by their role or among
those that count, and a comment has no role and does not count. The texts that they read are those
of names and strings, as far as the tree has them where the grammar asks for them
(`Tree.Grammatical`). So trees with and without comments resemble each other
(`Annotated.resembles`), and a walk passes the nodes of both in the same order, with the comments
between them (`Annotated.walk`).
-/

set_option autoImplicit false

namespace Hygiene.Python

open List (Forall₂)
open Hygiene.Pointwise

/-! ## Trees with comments added -/

/-- Whether no comment is added inside nodes of a kind: tokens, dotted names and strings keep their
texts. -/
def Kind.isSpelled : Kind → Bool
  | .token _ => true
  | .phrase found => found = .dottedName || found = .stringLiteral

namespace Tree

/-- Whether the part in a role, if there is one, keeps its text when comments are added. -/
def isSpelledIn (tree : Tree) (role : Role) : Bool :=
  (tree.child? role).all fun part => part.kind.isSpelled

/-- Whether the parts that rules read names from are in a phrase as the grammar has them: functions,
classes and members have identifiers for names, imports have dotted names and identifiers, an import
from a module names it with or without dots in front, and strings in a row are strings. -/
def isNamedAs (tree : Tree) : Phrase → Bool
  | .functionDefinition | .classDefinition => tree.isSpelledIn .name
  | .aliasedImport => tree.isSpelledIn .name && tree.isSpelledIn .asName
  | .attributeAccess => tree.isSpelledIn .member
  | .importFromStatement =>
    (tree.child? .moduleName).all fun module =>
      module.kind.isSpelled || module.isPhrase .relativeImport
  | .concatenatedString => tree.namedChildren.all fun part => part.kind.isSpelled
  | _ => true

/-- Whether a node has its names as the grammar asks for. -/
def isWellNamed (tree : Tree) : Bool :=
  match tree.kind with
  | .phrase found => tree.isNamedAs found
  | .token _ => true

/-- Every node of a tree has its names as the grammar asks for. -/
def Grammatical (tree : Tree) : Prop :=
  ∀ node ∈ tree.preorder, node.isWellNamed = true

instance (tree : Tree) : Decidable tree.Grammatical :=
  inferInstanceAs (Decidable (∀ node ∈ tree.preorder, node.isWellNamed = true))

/-- A comment beside the parts of a phrase, with no role there. -/
def IsAddedComment (tree : Tree) : Prop :=
  ∃ start text, tree = .node (.token .comment) none start text []

end Tree

/-- The second tree is the first with any number of comments added between the children of its
nodes. -/
inductive Commented : Tree → Tree → Prop
  | node (kind : Kind) (role : Option Role) {start moved : Position} {text other : Text}
      {children others : List Tree} (spelled : kind.isSpelled = true → text = other)
      (parts : Interspersed Commented Tree.IsAddedComment children others) :
      Commented (.node kind role start text children) (.node kind role moved other others)

namespace Commented

/-- No comment may be added at all. -/
theorem refl (tree : Tree) : Commented tree tree := by
  induction tree using Tree.childInduction with
  | step tree ih =>
    cases tree with
    | node kind role start text children =>
      exact .node kind role (fun _ => rfl) (.of_forall₂ (List.forall₂_same.mpr ih))

/-- A comment can be added between any two children. -/
theorem insert {kind : Kind} (phrase : kind.isSpelled = false) (role : Option Role)
    (start moved : Position) (text other : Text) (left right : List Tree) {comment : Tree}
    (added : comment.IsAddedComment) :
    Commented (.node kind role start text (left ++ right))
      (.node kind role moved other (left ++ comment :: right)) := by
  have same : ∀ trees, Interspersed Commented Tree.IsAddedComment trees trees := fun trees =>
    .of_forall₂ (List.forall₂_same.mpr fun tree _ => refl tree)
  apply node
  · intro spelled
    rw [phrase] at spelled
    cases spelled
  · exact (same left).append (.added added (same right))

end Commented

/-- A tree as the grammar has it, and the tree with comments added. -/
structure Annotated (first second : Tree) : Prop where
  grammatical : first.Grammatical
  commented : Commented first second

variable {first second : Tree}

namespace Tree

namespace IsAddedComment

variable {tree : Tree} (comment : tree.IsAddedComment)
include comment

theorem isToken : tree.isToken .comment = true := by
  obtain ⟨start, text, rfl⟩ := comment
  rfl

theorem counts_eq : tree.counts = false := by
  obtain ⟨start, text, rfl⟩ := comment
  rfl

theorem role_eq : tree.role = none := by
  obtain ⟨start, text, rfl⟩ := comment
  rfl

end IsAddedComment

/-- A tree is as the grammar has it when its root has its names and its children are so. -/
theorem grammatical_iff {tree : Tree} :
    tree.Grammatical ↔
      tree.isWellNamed = true ∧ ∀ child ∈ tree.children, child.Grammatical := by
  rw [Grammatical, preorder_eq, List.forall_mem_cons, preorderAll_eq]
  apply and_congr_right'
  constructor
  · intro all child member node inside
    exact all node (List.mem_flatMap.mpr ⟨child, member, inside⟩)
  · intro children node below
    obtain ⟨child, member, inside⟩ := List.mem_flatMap.mp below
    exact children child member node inside

namespace Grammatical

variable {tree : Tree} (grammatical : tree.Grammatical)
include grammatical

theorem isNamedAs {phrase : Phrase} (is : tree.isPhrase phrase = true) :
    tree.isNamedAs phrase = true := by
  have named := (grammatical_iff.mp grammatical).1
  rwa [Tree.isWellNamed, of_decide_eq_true is] at named

theorem child {part : Tree} (member : part ∈ tree.children) : part.Grammatical :=
  (grammatical_iff.mp grammatical).2 part member

end Grammatical

end Tree

namespace Annotated

variable (annotated : Annotated first second)
include annotated

theorem kind_eq : first.kind = second.kind := by
  cases annotated.commented
  rfl

theorem role_eq : first.role = second.role := by
  cases annotated.commented
  rfl

theorem isPhrase_eq (phrase : Phrase) : first.isPhrase phrase = second.isPhrase phrase := by
  rw [Tree.isPhrase, Tree.isPhrase, annotated.kind_eq]

theorem isToken_eq (token : Token) : first.isToken token = second.isToken token := by
  rw [Tree.isToken, Tree.isToken, annotated.kind_eq]

theorem counts_eq : first.counts = second.counts := by
  rw [Tree.counts, Tree.counts, Tree.isNamed, Tree.isNamed, annotated.kind_eq,
    annotated.isToken_eq]

/-- Names and strings keep their texts. -/
theorem text_eq (spelled : first.kind.isSpelled = true) : first.text = second.text := by
  cases annotated.commented with
  | node kind role same parts => exact same spelled

theorem text_eq_of_isToken {token : Token} (is : first.isToken token = true) :
    first.text = second.text := by
  apply annotated.text_eq
  rw [of_decide_eq_true is, Kind.isSpelled]

theorem text_eq_of_isPhrase {phrase : Phrase} (is : first.isPhrase phrase = true)
    (spelled : (Kind.phrase phrase).isSpelled = true) : first.text = second.text := by
  apply annotated.text_eq
  rwa [of_decide_eq_true is]

theorem children : Interspersed Annotated Tree.IsAddedComment first.children second.children := by
  have parts : Interspersed Commented Tree.IsAddedComment first.children second.children := by
    cases annotated.commented with
    | node kind role same parts => exact parts
  apply parts.imp_mem
  · intro child member other commented
    exact ⟨annotated.grammatical.child member, commented⟩
  · intro comment added
    exact added

theorem child (role : Role) :
    Option.Rel Annotated (first.child? role) (second.child? role) := by
  apply annotated.children.rel_find
  · intro child other part
    rw [part.role_eq]
  · intro comment added
    simp [added.role_eq]

theorem written : Forall₂ Annotated first.written second.written := by
  apply annotated.children.forall₂_filter
  · intro child other part
    rw [part.isToken_eq]
  · intro comment added
    rw [added.isToken]
    rfl

theorem namedChildren : Forall₂ Annotated first.namedChildren second.namedChildren := by
  apply annotated.children.forall₂_filter
  · intro child other part
    exact part.counts_eq
  · intro comment added
    exact added.counts_eq

/-- A part that keeps its text is read alike. -/
theorem child_text {role : Role} (spelled : first.isSpelledIn role = true) :
    (first.child? role).map Tree.text = (second.child? role).map Tree.text := by
  have parts := annotated.child role
  rw [Tree.isSpelledIn] at spelled
  generalize first.child? role = one at parts spelled
  generalize second.child? role = other at parts
  cases parts with
  | none => rfl
  | some part => exact congrArg some (part.text_eq spelled)

/-- What is inside parentheses has comments added. -/
theorem unparenthesized : Annotated first.unparenthesized second.unparenthesized := by
  induction first using Tree.childInduction generalizing second with
  | step first ih =>
    by_cases parenthesized : first.kind = .phrase .parenthesizedExpression
    · have inner : Interspersed
          (fun one other => Annotated one other ∧
            Annotated one.unparenthesized other.unparenthesized)
          Tree.IsAddedComment first.children second.children :=
        annotated.children.imp_mem
          (fun child member _ part => ⟨part, ih child member part⟩) fun _ added => added
      have found := inner.rel_find (p := Tree.counts) (q := Tree.counts)
        (fun _ _ both => both.1.counts_eq) fun _ added => added.counts_eq
      rw [Tree.unparenthesized_inside _ parenthesized,
        Tree.unparenthesized_inside _ (annotated.kind_eq ▸ parenthesized)]
      exact rel_getD found (fun _ _ both => both.2) annotated
    · rw [Tree.unparenthesized_self _ parenthesized,
        Tree.unparenthesized_self _ (annotated.kind_eq ▸ parenthesized)]
      exact annotated

end Annotated

/-- **Trees with and without comments resemble each other.** -/
theorem Annotated.resembles : Resemblance Annotated Annotated where
  kind_eq annotated := annotated.kind_eq
  written annotated := annotated.written
  child annotated role := annotated.child role
  role_eq annotated := annotated.role_eq
  counts_eq annotated := annotated.counts_eq
  beside annotated _ := annotated.kind_eq
  unparenthesized annotated := annotated.unparenthesized
  identifier annotated is := annotated.text_eq_of_isToken is
  word {first second} annotated phrase role is word := by
    apply annotated.child_text
    have named := annotated.grammatical.isNamedAs is
    unfold isWord at word
    split at word
    · rename_i name
      cases name
      exact named
    · rename_i asName
      cases asName
      exact (Bool.and_eq_true_iff.mp named).2
    · rename_i member
      cases member
      exact named
    · cases word
  flags annotated is := by
    rw [Judge.isTextPrefixed, Judge.isTextPrefixed, annotated.text_eq_of_isPhrase is rfl]
  row {first second} annotated is := by
    have named : (first.namedChildren.all fun part => part.kind.isSpelled) = true :=
      annotated.grammatical.isNamedAs is
    have parts := annotated.namedChildren
    generalize first.namedChildren = one at parts named
    generalize second.namedChildren = other at parts
    cases parts with
    | nil => rfl
    | cons part _ =>
      rw [List.head?_cons, List.head?_cons, Option.map_some, Option.map_some,
        Judge.isTextPrefixed, Judge.isTextPrefixed, part.text_eq]
      exact (List.all_eq_true.mp named) _ List.mem_cons_self

/-! ## Walks -/

/-- Cursors on a node and on the same node among added comments. -/
structure AnnotatedCursors (one other : Cursor) : Prop where
  node : Annotated one.node other.node
  ancestors : Forall₂ Annotated one.ancestors other.ancestors

/-- A cursor on an added comment. -/
def Cursor.OnAddedComment (cursor : Cursor) : Prop :=
  cursor.node.IsAddedComment

namespace Annotated

/-- Where each tree has the positions of the same tree before, and the positions of comments, so
have several trees, with comments added between them. -/
theorem positionsAll {trees others : List Tree} {above beyond : List (Tree × List Tree)}
    (inside : Interspersed
      (fun one other => ∀ later rest, Interspersed AnnotatedCursors Cursor.OnAddedComment
        (Cursor.positions one later above) (Cursor.positions other rest beyond))
      Tree.IsAddedComment trees others) :
    Interspersed AnnotatedCursors Cursor.OnAddedComment (Cursor.positionsAll trees above)
      (Cursor.positionsAll others beyond) := by
  induction inside with
  | nil => exact .nil
  | kept positions _ ih => exact (positions _ _).append ih
  | @added comment _ _ extra _ ih =>
    obtain ⟨start, text, rfl⟩ := extra
    exact .added ⟨start, text, rfl⟩ ih

/-- The positions in a tree are those before and the added comments. -/
theorem positions (annotated : Annotated first second) {above beyond : List (Tree × List Tree)}
    (ancestors : Forall₂ Annotated (above.map Prod.fst) (beyond.map Prod.fst))
    (later rest : List Tree) :
    Interspersed AnnotatedCursors Cursor.OnAddedComment (Cursor.positions first later above)
      (Cursor.positions second rest beyond) := by
  induction first using Tree.childInduction generalizing second above beyond later rest with
  | step first ih =>
    have parts := annotated.children
    obtain ⟨kind, role, start, text, children⟩ := first
    obtain ⟨also, part, moved, other, others⟩ := second
    rw [Cursor.positions, Cursor.positions]
    apply Interspersed.kept ⟨annotated, ancestors⟩
    apply positionsAll
    apply parts.imp_mem _ fun _ added => added
    intro child member also part later rest
    apply ih child member part
    exact .cons annotated ancestors

/-- **A walk passes the nodes of the tree, with the added comments between them.** -/
theorem walk (annotated : Annotated first second) :
    Interspersed AnnotatedCursors Cursor.OnAddedComment (Cursor.walk first)
      (Cursor.walk second) := by
  rw [Cursor.walk_eq_positions, Cursor.walk_eq_positions]
  exact annotated.positions .nil [] []

theorem preorder (annotated : Annotated first second) :
    Interspersed Annotated Tree.IsAddedComment first.preorder second.preorder := by
  rw [← Cursor.walk_map_node, ← Cursor.walk_map_node]
  exact annotated.walk.map (fun _ _ cursors => cursors.node) fun _ added => added

end Annotated

end Hygiene.Python
