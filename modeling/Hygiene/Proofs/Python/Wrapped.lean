import Hygiene.Proofs.Python.Resemblance
import Hygiene.Proofs.Python.Reworded

/-!
# Trees with parentheses around one expression

A phrase with a place left open for one part is a frame (`Tree.Frame`), and an expression in a tree
is a part inside of frames. Parentheses are a frame too, so to put them around an expression is to
put one more frame between the expression and those around it (`Parentheses`).

The two trees differ at every node around the expression, in its text and in one of its children
(`Wrapped`). A rule that comes to the expression from above finds the parentheses in its place, and
the expression behind them when it takes them off; so parts that take the same place are related in
a different way than the nodes that rules are offered (`SamePart`, `SameNode`). The two relations
keep what the rules on expressions read (`resembles`). A phrase that has no place for parentheses
has the same nodes for children (`SameNode.children_of_firm`).
-/

set_option autoImplicit false

namespace Hygiene.Python

open List (Forall₂)
open Hygiene.Pointwise

/-! ## Frames -/

/-- A phrase with a place left open for one part. -/
structure Tree.Frame where
  phrase : Phrase
  role : Option Role
  start : Position
  before : Text
  after : Text
  left : List Tree
  right : List Tree

namespace Tree.Frame

/-- The phrase with a part in its place. -/
def fill (frame : Tree.Frame) (part : Tree) : Tree :=
  .node (.phrase frame.phrase) frame.role frame.start (frame.before ++ part.text ++ frame.after)
    (frame.left ++ part :: frame.right)

/-- A part inside of phrases, outermost first. -/
def fillAll (frames : List Tree.Frame) (part : Tree) : Tree :=
  frames.foldr fill part

/-- What the grammar says of a part of a phrase that is no name and has an expression in it. -/
structure MaySurround (frame : Tree.Frame) (part : Tree) : Prop
    extends MayHold frame.phrase frame.before part where
  className : frame.phrase = .classDefinition → part.role ≠ some .name
  bases : frame.phrase = .classDefinition → part.role = some .superclasses →
    part.isPhrase .argumentList = true
  parameters : frame.phrase = .functionDefinition → part.role = some .parameters →
    part.isPhrase .parameters = true
  /-- There are no expressions in an import. -/
  modules : frame.phrase ≠ .importStatement
  source : frame.phrase ≠ .importFromStatement

/-- Each of the phrases around a part may have it where it stands. -/
def Surrounds : List Tree.Frame → Tree → Prop
  | [], _ => True
  | frame :: inner, part => frame.MaySurround (fillAll inner part) ∧ Surrounds inner part

theorem fillAll_concat (frames : List Tree.Frame) (frame : Tree.Frame) (part : Tree) :
    fillAll (frames ++ [frame]) part = fillAll frames (frame.fill part) := by
  rw [fillAll, List.foldr_append]
  rfl

variable (frame : Tree.Frame) {part other : Tree}

theorem isPhrase_fill (phrase : Phrase) :
    (frame.fill part).isPhrase phrase = decide (frame.phrase = phrase) := by
  simp [Tree.isPhrase, fill, Tree.kind]

theorem phrase_eq {phrase : Phrase} (is : (frame.fill part).isPhrase phrase = true) :
    frame.phrase = phrase := by
  rwa [isPhrase_fill, decide_eq_true_eq] at is

theorem counts_fill : (frame.fill part).counts = true := by
  have is : (frame.fill part).isPhrase frame.phrase = true := by simp [isPhrase_fill]
  exact Tree.counts_of_isPhrase is

/-- A part in another role can be exchanged. -/
theorem child_fill {role : Role} (apart : part.role ≠ some role) (also : other.role ≠ some role) :
    (frame.fill part).child? role = (frame.fill other).child? role := by
  rw [Tree.child?, Tree.child?, fill, fill, Tree.children, Tree.children, List.find?_append,
    List.find?_append, List.find?_cons_of_neg (by simpa using apart),
    List.find?_cons_of_neg (by simpa using also)]

/-- What is made of the part in a role does not depend on a part in another role. -/
theorem child_bind_fill {γ : Type} {role : Role} (roles : part.role = other.role)
    (f : Tree → Option γ) (same : part.role = some role → f part = f other) :
    ((frame.fill part).child? role).bind f = ((frame.fill other).child? role).bind f := by
  by_cases own : part.role = some role
  · have parts := forall₂_replace
      (S := fun one other => one.role = other.role ∧ f one = f other) (fun _ => ⟨rfl, rfl⟩)
      ⟨roles, same own⟩ frame.left frame.right
    exact bind_eq (rel_find parts fun _ _ both => by rw [both.1]) fun _ _ both => both.2
  · rw [frame.child_fill own (roles ▸ own)]

theorem child_map_fill {γ : Type} {role : Role} (roles : part.role = other.role) (f : Tree → γ)
    (same : part.role = some role → f part = f other) :
    ((frame.fill part).child? role).map f = ((frame.fill other).child? role).map f := by
  simpa only [Option.map_eq_bind] using
    frame.child_bind_fill roles (some ∘ f) fun own => congrArg some (same own)

theorem forall_fill {R : Tree → Tree → Prop} (refl : ∀ tree, R tree tree) (related : R part other) :
    Forall₂ R (frame.fill part).children (frame.fill other).children :=
  forall₂_replace refl related frame.left frame.right

end Tree.Frame

/-! ## Parentheses -/

/-- The parts that may stand in parentheses, by the phrase around them and the role of that
phrase: operands, the function and the arguments of a call, what an attribute is taken of, a
decorator, and what is assigned or returned. -/
inductive MayWrap : Phrase → Option Role → Tree → Prop where
  | operand {own : Option Role} {part : Tree}
      (side : part.role = some .left ∨ part.role = some .right) : MayWrap .binaryOperator own part
  | compared {own : Option Role} {part : Tree} (free : part.role = none) :
      MayWrap .comparisonOperator own part
  | called {own : Option Role} {part : Tree} (function : part.role = some .function) :
      MayWrap .call own part
  | generator {own : Option Role} {part : Tree} (arguments : part.role = some .arguments)
      (alone : part.isPhrase .generatorExpression = true) : MayWrap .call own part
  | argument {part : Tree} (free : part.role = none) :
      MayWrap .argumentList (some .arguments) part
  | receiver {own : Option Role} {part : Tree} (object : part.role = some .object) :
      MayWrap .attributeAccess own part
  | decorator {own : Option Role} {part : Tree} (free : part.role = none) :
      MayWrap .decorator own part
  | assigned {own : Option Role} {part : Tree} (right : part.role = some .right) :
      MayWrap .assignment own part
  | augmented {own : Option Role} {part : Tree} (right : part.role = some .right) :
      MayWrap .augmentedAssignment own part
  | returned {own : Option Role} {part : Tree} (free : part.role = none) :
      MayWrap .returnStatement own part

/-- Whether a phrase has a place for parentheses. -/
def hasPlace : Phrase → Bool
  | .binaryOperator | .comparisonOperator | .call | .argumentList | .attributeAccess | .decorator
  | .assignment | .augmentedAssignment | .returnStatement => true
  | _ => false

theorem MayWrap.hasPlace {phrase : Phrase} {own : Option Role} {part : Tree}
    (place : MayWrap phrase own part) : hasPlace phrase = true := by
  cases place <;> rfl

/-- What may stand in parentheses is no name. -/
theorem MayWrap.role_ne {phrase : Phrase} {own : Option Role} {part : Tree} {role : Role}
    (place : MayWrap phrase own part) (word : isWord phrase (some role) = true) :
    part.role ≠ some role := by
  intro same
  cases place with
  | receiver object =>
    cases object.symm.trans same
    cases word
  | _ => cases word

/-- What is the arguments of a call and may stand in parentheses is a generator. -/
theorem MayWrap.alone {phrase : Phrase} {own : Option Role} {part : Tree}
    (place : MayWrap phrase own part) (arguments : part.role = some .arguments) :
    part.isPhrase .generatorExpression = true := by
  cases place with
  | generator _ alone => exact alone
  | operand side =>
    rw [arguments] at side
    rcases side with side | side <;> cases side
  | compared other | called other | argument other | receiver other | decorator other
  | assigned other | augmented other | returned other => cases arguments.symm.trans other

/-- The tree in no role. -/
def Tree.roleless (tree : Tree) : Tree :=
  .node tree.kind none tree.start tree.text tree.children

/-- An expression, the phrase around it and the parentheses that are put in between. -/
structure Parentheses where
  expression : Tree
  parent : Tree.Frame
  /-- The parentheses around an open place, with the comments that stand in them. -/
  pair : Tree.Frame
  counts : expression.counts = true
  place : MayWrap parent.phrase parent.role expression
  phrase_eq : pair.phrase = .parenthesizedExpression
  role_eq : pair.role = expression.role
  idle : ∀ tree ∈ pair.left ++ pair.right, tree.counts = false
  leaf : ∀ tree ∈ pair.left ++ pair.right, tree.children = []

namespace Parentheses

variable (change : Parentheses)

/-- The expression as it stands inside the parentheses. -/
def inner : Tree :=
  change.expression.roleless

/-- The expression with the parentheses. -/
def wrapped : Tree :=
  change.pair.fill change.inner

/-- Two trees that differ in the parentheses. The frames are those around the expression. -/
inductive Wrapped : List Tree.Frame → Tree → Tree → Prop where
  | parent : Wrapped [change.parent] (change.parent.fill change.expression)
      (change.parent.fill change.wrapped)
  | inside {frames : List Tree.Frame} {first second : Tree} (part : Wrapped frames first second)
      (frame : Tree.Frame) (place : frame.MaySurround first) :
      Wrapped (frame :: frames) (frame.fill first) (frame.fill second)

/-- The same node of both trees. -/
inductive SameNode (around : List Tree.Frame) : Tree → Tree → Prop where
  | same (tree : Tree) : SameNode around tree tree
  | expression : SameNode around change.expression change.inner
  | wrapped {frames : List Tree.Frame} {first second : Tree} (within : frames <:+ around)
      (both : change.Wrapped frames first second) : SameNode around first second

/-- What takes the same place in both trees. -/
inductive SamePart (around : List Tree.Frame) : Tree → Tree → Prop where
  | same (tree : Tree) : SamePart around tree tree
  | parentheses : SamePart around change.expression change.wrapped
  | wrapped {frames : List Tree.Frame} {first second : Tree} (within : frames <:+ around)
      (both : change.Wrapped frames first second) : SamePart around first second

theorem kind_inner : change.inner.kind = change.expression.kind :=
  rfl

theorem text_inner : change.inner.text = change.expression.text :=
  rfl

theorem counts_inner : change.inner.counts = true :=
  change.counts

theorem children_inner : change.inner.children = change.expression.children :=
  rfl

theorem kind_wrapped : change.wrapped.kind = .phrase .parenthesizedExpression :=
  congrArg Kind.phrase change.phrase_eq

theorem role_wrapped : change.wrapped.role = change.expression.role :=
  change.role_eq

/-- The phrase around the expression has a place for parentheses. -/
theorem parent_ne {phrase : Phrase} (firm : hasPlace phrase = false) :
    change.parent.phrase ≠ phrase := by
  rintro rfl
  cases firm.symm.trans change.place.hasPlace

theorem isPhrase_parent {phrase : Phrase} (firm : hasPlace phrase = false) (part : Tree) :
    (change.parent.fill part).isPhrase phrase = false := by
  rw [Tree.Frame.isPhrase_fill, decide_eq_false_iff_not]
  exact change.parent_ne firm

theorem isPhrase_wrapped {phrase : Phrase} (other : phrase ≠ .parenthesizedExpression) :
    change.wrapped.isPhrase phrase = false := by
  rw [Tree.isPhrase, kind_wrapped]
  exact decide_eq_false fun same => other (Kind.phrase.inj same).symm

variable {change} {around frames : List Tree.Frame} {first second : Tree}

/-- An expression inside of phrases that may surround it, with the parentheses and without. -/
theorem wrapped_fillAll {outer : List Tree.Frame}
    (places : Tree.Frame.Surrounds outer (change.parent.fill change.expression)) :
    change.Wrapped (outer ++ [change.parent])
      (Tree.Frame.fillAll (outer ++ [change.parent]) change.expression)
      (Tree.Frame.fillAll (outer ++ [change.parent]) change.wrapped) := by
  induction outer with
  | nil => exact .parent
  | cons frame outer ih =>
    have place := places.1
    rw [← Tree.Frame.fillAll_concat] at place
    exact .inside (ih places.2) frame place

namespace Wrapped

variable (both : change.Wrapped frames first second)
include both

theorem first_eq : first = Tree.Frame.fillAll frames change.expression := by
  induction both with
  | parent => rfl
  | inside part frame place ih => exact congrArg frame.fill ih

theorem kind_eq : first.kind = second.kind := by
  cases both <;> rfl

theorem role_eq : first.role = second.role := by
  cases both <;> rfl

theorem start_eq : first.start = second.start := by
  cases both <;> rfl

theorem counts : first.counts = true ∧ second.counts = true := by
  cases both <;> exact ⟨Tree.Frame.counts_fill _, Tree.Frame.counts_fill _⟩

/-- Neither of the trees is a token. -/
theorem no_token {token : Token} :
    first.isToken token = false ∧ second.isToken token = false := by
  cases both <;> exact ⟨rfl, rfl⟩

theorem children (within : frames <:+ around) :
    Forall₂ (change.SamePart around) first.children second.children := by
  cases both with
  | parent => exact Tree.Frame.forall_fill _ .same .parentheses
  | inside part frame place =>
    exact Tree.Frame.forall_fill _ .same (.wrapped ((List.suffix_cons _ _).trans within) part)

theorem child_eq {phrase : Phrase} {role : Role} (is : first.isPhrase phrase = true)
    (word : isWord phrase (some role) = true) : first.child? role = second.child? role := by
  cases both with
  | parent =>
    replace is := Tree.Frame.phrase_eq _ is
    have apart := change.place.role_ne (is ▸ word)
    exact Tree.Frame.child_fill _ apart (change.role_wrapped ▸ apart)
  | @inside frames former latter part frame place =>
    replace is := Tree.Frame.phrase_eq _ is
    have apart : former.role ≠ some role := fun same => by
      rw [← is, ← same, place.word] at word
      cases word
    exact Tree.Frame.child_fill _ apart (part.role_eq ▸ apart)

/-- The flags of a string are the same in both trees. -/
theorem isTextPrefixed_eq (is : first.isPhrase .stringLiteral = true) :
    Judge.isTextPrefixed first = Judge.isTextPrefixed second := by
  cases both with
  | parent =>
    cases is.symm.trans (change.isPhrase_parent rfl _)
  | inside part frame place =>
    replace is := Tree.Frame.phrase_eq _ is
    exact Judge.isTextPrefixed_behind (place.quoted is) ..

/-- Whether strings in a row are text is the same in both trees. -/
theorem isTextPrefixed_head_eq (is : first.isPhrase .concatenatedString = true) :
    first.namedChildren.head?.map Judge.isTextPrefixed =
      second.namedChildren.head?.map Judge.isTextPrefixed := by
  cases both with
  | parent =>
    cases is.symm.trans (change.isPhrase_parent rfl _)
  | inside part frame place =>
    replace is := Tree.Frame.phrase_eq _ is
    have parts := frame.forall_fill
      (R := fun one other => one.counts = other.counts ∧
        (one.counts = true → Judge.isTextPrefixed one = Judge.isTextPrefixed other))
      (fun tree => ⟨rfl, fun _ => rfl⟩)
      ⟨part.counts.1.trans part.counts.2.symm,
        fun counts => part.isTextPrefixed_eq (place.row is counts)⟩
    simp only [Tree.namedChildren, List.head?_filter]
    exact map_eq (rel_find_and parts fun _ _ both => both.1) fun _ _ holds => holds.1.2 holds.2

/-- What is inside parentheses is the same node in both trees. -/
theorem unparenthesized (within : frames <:+ around) :
    change.SameNode around first.unparenthesized second.unparenthesized := by
  induction both with
  | parent =>
    have differs : change.parent.phrase ≠ .parenthesizedExpression := change.parent_ne rfl
    rw [Tree.unparenthesized_self, Tree.unparenthesized_self]
    · exact .wrapped within .parent
    all_goals exact fun same => differs (Kind.phrase.inj same)
  | inside part frame place ih =>
    have below := (List.suffix_cons _ _).trans within
    have both := frame.forall_fill
      (R := fun one other => one.counts = other.counts ∧
        change.SameNode around one.unparenthesized other.unparenthesized)
      (fun tree => ⟨rfl, .same _⟩) ⟨part.counts.1.trans part.counts.2.symm, ih below⟩
    have found := rel_find both fun _ _ both => both.1
    have whole := SameNode.wrapped within (.inside part frame place)
    by_cases parenthesized : frame.phrase = .parenthesizedExpression
    · rw [Tree.unparenthesized_inside, Tree.unparenthesized_inside]
      · exact rel_getD found (fun _ _ holds => holds.2) whole
      all_goals exact congrArg Kind.phrase parenthesized
    · rw [Tree.unparenthesized_self, Tree.unparenthesized_self]
      · exact whole
      all_goals exact fun same => parenthesized (Kind.phrase.inj same)

end Wrapped

/-! ### The expression -/

/-- What is inside the parentheses is the one child that counts. -/
theorem namedChildren_wrapped : change.wrapped.namedChildren = [change.inner] := by
  have idle : ∀ trees : List Tree, (∀ tree ∈ trees, tree ∈ change.pair.left ++ change.pair.right) →
      trees.filter Tree.counts = [] := fun trees within =>
    List.filter_eq_nil_iff.mpr fun tree member => by
      rw [change.idle tree (within tree member)]
      exact nofun
  rw [Tree.namedChildren, wrapped, Tree.Frame.fill, Tree.children, List.filter_append,
    idle _ fun _ => List.mem_append_left _, List.nil_append,
    List.filter_cons_of_pos change.counts_inner, idle _ fun _ => List.mem_append_right _]

/-- The parentheses give way to the expression. -/
theorem unparenthesized_wrapped :
    change.wrapped.unparenthesized = change.inner.unparenthesized := by
  have found : change.wrapped.children.find? Tree.counts = some change.inner := by
    rw [← List.head?_filter]
    exact congrArg List.head? namedChildren_wrapped
  rw [Tree.unparenthesized_inside _ change.kind_wrapped, found]
  rfl

theorem unparenthesized_expression :
    change.SameNode around change.expression.unparenthesized change.inner.unparenthesized := by
  by_cases is : change.expression.kind = .phrase .parenthesizedExpression
  · rw [Tree.unparenthesized_inside _ is,
      Tree.unparenthesized_inside _ (change.kind_inner.trans is), children_inner]
    cases change.expression.children.find? Tree.counts with
    | none => exact .expression
    | some first => exact .same _
  · rw [Tree.unparenthesized_self _ is,
      Tree.unparenthesized_self _ (fun same => is (change.kind_inner.symm.trans same))]
    exact .expression

/-! ### Nodes and parts -/

namespace SameNode

variable (node : change.SameNode around first second)
include node

theorem kind_eq : first.kind = second.kind := by
  cases node with
  | same => rfl
  | expression => exact change.kind_inner.symm
  | wrapped within both => exact both.kind_eq

theorem isPhrase_eq (phrase : Phrase) : first.isPhrase phrase = second.isPhrase phrase := by
  rw [Tree.isPhrase, Tree.isPhrase, node.kind_eq]

theorem start_eq : first.start = second.start := by
  cases node with
  | same => rfl
  | expression => rfl
  | wrapped within both => exact both.start_eq

theorem counts_eq : first.counts = second.counts := by
  rw [Tree.counts, Tree.counts, Tree.isNamed, Tree.isNamed, Tree.isToken, Tree.isToken,
    node.kind_eq]

theorem children : Forall₂ (change.SamePart around) first.children second.children := by
  cases node with
  | same => exact List.forall₂_same.mpr fun tree _ => .same tree
  | expression =>
    rw [children_inner]
    exact List.forall₂_same.mpr fun tree _ => .same tree
  | wrapped within both => exact both.children within

/-- The children of a phrase without a place for parentheses are the same nodes. -/
theorem children_of_firm {phrase : Phrase} (is : first.isPhrase phrase = true)
    (firm : hasPlace phrase = false) :
    Forall₂ (fun one other => change.SameNode around one other ∧ one.role = other.role)
      first.children second.children := by
  cases node with
  | same => exact List.forall₂_same.mpr fun tree _ => ⟨.same tree, rfl⟩
  | expression =>
    rw [children_inner]
    exact List.forall₂_same.mpr fun tree _ => ⟨.same tree, rfl⟩
  | wrapped within both =>
    cases both with
    | parent =>
      cases is.symm.trans (change.isPhrase_parent firm _)
    | inside part frame place =>
      exact frame.forall_fill (fun tree => ⟨.same tree, rfl⟩)
        ⟨.wrapped ((List.suffix_cons _ _).trans within) part, part.role_eq⟩

theorem namedChildren_of_firm {phrase : Phrase} (is : first.isPhrase phrase = true)
    (firm : hasPlace phrase = false) :
    Forall₂ (change.SameNode around) first.namedChildren second.namedChildren :=
  (forall₂_filter (node.children_of_firm is firm) fun _ _ both => both.1.counts_eq).imp
    fun _ _ both => both.1

end SameNode

namespace SamePart

variable (part : change.SamePart around first second)
include part

theorem role_eq : first.role = second.role := by
  cases part with
  | same => rfl
  | parentheses => exact change.role_wrapped.symm
  | wrapped within both => exact both.role_eq

theorem counts_eq : first.counts = second.counts := by
  cases part with
  | same => rfl
  | parentheses => exact change.counts.trans (Tree.Frame.counts_fill _).symm
  | wrapped within both => exact both.counts.1.trans both.counts.2.symm

theorem beside (idle : first.counts = false) : first.kind = second.kind := by
  cases part with
  | same => rfl
  | parentheses => cases idle.symm.trans change.counts
  | wrapped within both => exact both.kind_eq

end SamePart

/-- **Trees that differ in parentheses resemble each other.** -/
theorem resembles (change : Parentheses) (around : List Tree.Frame) :
    Resemblance (change.SameNode around) (change.SamePart around) where
  kind_eq node := node.kind_eq
  written node := Tree.written_of_children node.children (fun _ _ part => part.counts_eq)
    fun _ _ part => part.beside
  child node role := rel_find node.children fun _ _ part => by rw [part.role_eq]
  role_eq part := part.role_eq
  counts_eq part := part.counts_eq
  beside part := part.beside
  unparenthesized part := by
    cases part with
    | same => exact .same _
    | parentheses =>
      rw [unparenthesized_wrapped]
      exact unparenthesized_expression
    | wrapped within both => exact both.unparenthesized within
  identifier node is := by
    cases node with
    | same => rfl
    | expression => exact change.text_inner.symm
    | wrapped within both => cases both <;> cases is
  word node _ _ is word := by
    cases node with
    | same => rfl
    | expression => rw [Tree.child?, Tree.child?, children_inner]
    | wrapped within both => rw [both.child_eq is word]
  flags node is := by
    cases node with
    | same => rfl
    | expression => rw [Judge.isTextPrefixed, Judge.isTextPrefixed, text_inner]
    | wrapped within both => exact both.isTextPrefixed_eq is
  row node is := by
    cases node with
    | same => rfl
    | expression => rw [Tree.namedChildren, Tree.namedChildren, children_inner]
    | wrapped within both => exact both.isTextPrefixed_head_eq is

end Parentheses

end Hygiene.Python
