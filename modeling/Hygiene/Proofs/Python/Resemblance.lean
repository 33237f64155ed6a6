import Hygiene.Proofs.Python.Parts
import Hygiene.Proofs.Python.Pointwise
import Hygiene.Proofs.Text.Lines
import Hygiene.Python.Lint

/-!
# Verdicts on trees that resemble each other

The rules on expressions read little of a tree. They look for parts in their roles, look through
parentheses, and compare kinds, a few names and the flags of strings. Two trees that agree in this
get the same verdicts, however they differ otherwise.

What a rule needs of two nodes is more than what it needs of two parts in the same place, since a
rule takes the parentheses off a part before it reads its kind. A resemblance is therefore a pair
of relations, one on nodes and one on parts (`Resemblance`). The verdict on comparisons of sets
needs one thing more, that two calls build their sets alike (`setComparison_eq`), and the rules on
functions need the functions around both nodes (`safeRecursive_congr`, `safeYield_congr`).
-/

set_option autoImplicit false

namespace Hygiene.Python

open List (Forall₂)
open Hygiene.Pointwise

/-! ## What the rules read -/

namespace Tree

theorem firstUnparenthesized_eq (trees : List Tree) :
    firstUnparenthesized? trees = (trees.find? counts).map unparenthesized := by
  induction trees with
  | nil => rfl
  | cons tree others ih =>
    rw [firstUnparenthesized?, List.find?_cons]
    cases tree.counts with
    | true => rfl
    | false => exact ih

/-- The children that are no comments. -/
def written (tree : Tree) : List Tree :=
  tree.children.filter fun child => !child.isToken .comment

/-- Comments do not count. -/
theorem namedChildren_eq_filter_written (tree : Tree) :
    tree.namedChildren = tree.written.filter counts := by
  rw [namedChildren, written, List.filter_filter]
  apply List.filter_congr
  intro child _
  cases counts : child.counts with
  | true => simp [not_token_of_counts counts (.inr rfl)]
  | false => rfl

/-- A token other than a comment is looked for among the other children. -/
theorem any_written (tree : Tree) {token : Token} (other : token ≠ .comment) :
    (tree.children.any fun child => child.isToken token) =
      tree.written.any fun child => child.isToken token := by
  rw [written, List.any_filter]
  congr 1
  funext child
  cases is : child.isToken token with
  | false => simp
  | true =>
    rw [isToken, decide_eq_true_eq] at is
    simp [isToken, is, other]

/-- Parts that count alike, and are of the same kind when they do not, agree in being a comment or
a given mark of punctuation. -/
theorem isToken_eq_of_counts {first second : Tree} (counts : first.counts = second.counts)
    (beside : first.counts = false → first.kind = second.kind) {token : Token}
    (idle : token.isNamed = false ∨ token = .comment) :
    first.isToken token = second.isToken token := by
  cases own : first.counts with
  | false => rw [isToken, isToken, beside own]
  | true =>
    rw [not_token_of_counts own idle, not_token_of_counts (counts ▸ own) idle]

/-- Children in the same places are in the same places without the comments among them. -/
theorem written_of_children {Part : Tree → Tree → Prop} {first second : Tree}
    (children : Forall₂ Part first.children second.children)
    (counts : ∀ one other, Part one other → one.counts = other.counts)
    (beside : ∀ one other, Part one other → one.counts = false → one.kind = other.kind) :
    Forall₂ Part first.written second.written := by
  apply forall₂_filter children
  intro one other part
  rw [isToken_eq_of_counts (counts one other part) (beside one other part) (.inr rfl)]

/-- Inside parentheses is what is inside the first child that counts. -/
theorem unparenthesized_inside (tree : Tree) (is : tree.kind = .phrase .parenthesizedExpression) :
    tree.unparenthesized = ((tree.children.find? counts).map unparenthesized).getD tree := by
  obtain ⟨kind, role, start, text, children⟩ := tree
  rw [unparenthesized, firstUnparenthesized_eq, if_pos (by exact is)]
  rfl

/-- What is no expression in parentheses is itself inside them. -/
theorem unparenthesized_self (tree : Tree)
    (differs : tree.kind ≠ .phrase .parenthesizedExpression) : tree.unparenthesized = tree := by
  obtain ⟨kind, role, start, text, children⟩ := tree
  rw [unparenthesized, if_neg (by exact differs)]

end Tree

namespace Judge

/-- The flags of a string are those in front of its first quote, so what stands behind a quote
does not change them. -/
theorem isTextPrefixed_behind {before : Text} (quoted : ∃ c ∈ before, c = '\x27' ∨ c = '\x22')
    (kind : Kind) (role : Option Role) (start : Position) (inside other after : Text)
    (children others : List Tree) :
    isTextPrefixed (.node kind role start (before ++ inside ++ after) children) =
      isTextPrefixed (.node kind role start (before ++ other ++ after) others) := by
  obtain ⟨quote, member, quotes⟩ := quoted
  have stops : (quote ≠ '\x27' && quote ≠ '\x22') = false := by
    rcases quotes with rfl | rfl <;> rfl
  have flags : ∀ rest : Text, (before ++ rest).takeWhile (fun c => c ≠ '\x27' && c ≠ '\x22') =
      before.takeWhile fun c => c ≠ '\x27' && c ≠ '\x22' := fun rest =>
    Text.takeWhile_append_of_stops fun whole => by
      have goes := List.mem_takeWhile_imp (whole.symm ▸ member)
      rw [stops] at goes
      cases goes
  simp only [isTextPrefixed, Tree.text, List.append_assoc, flags]

/-- Whether the part in a role is text. -/
def isTextIn (tree : Tree) (role : Role) : Bool :=
  match tree.child? role with
  | some side => isTextLiteral side.unparenthesized
  | none => false

theorem addingStrings_def (tree : Tree) :
    addingStrings tree =
      if tree.isPhrase .binaryOperator && isTextIn tree .left && isTextIn tree .right then
        some "use parenthesis instead of addition for long strings"
      else none :=
  rfl

theorem isTextLiteral_def (tree : Tree) :
    isTextLiteral tree =
      if tree.isPhrase .stringLiteral then isTextPrefixed tree
      else if tree.isPhrase .concatenatedString then
        (tree.namedChildren.head?.map isTextPrefixed).getD false
      else false := by
  rw [isTextLiteral]
  cases tree.namedChildren <;> rfl

/-- Whether the part in a role is a call for an iterator. -/
def isIteratorIn (tree : Tree) (role : Role) : Bool :=
  ((tree.child? role).bind iteratorCall?).isSome

/-- Whether the operator of an expression is a plus. -/
def adds (tree : Tree) : Bool :=
  match tree.child? .operator with
  | some operator => operator.isToken (.mark "+")
  | none => false

theorem safeIterator_def (tree : Tree) :
    safeIterator tree =
      if tree.isPhrase .returnStatement then
        (tree.namedChildren.head?.bind iteratorCall?).map fun name =>
          "returning \x60" ++ String.ofList name ++
            "\x60 is not allowed, suggest using \x60yield from\x60 syntax " ++
            "or returning \x60zigopt.common.lists.safe_iterator\x60"
      else if tree.isPhrase .binaryOperator then
        if adds tree && (isIteratorIn tree .left || isIteratorIn tree .right) then
          some "adding iterators is not allowed"
        else none
      else none :=
  rfl

/-- Whether a tree is a comprehension that gives its elements one by one or in a list. -/
def isComprehension (tree : Tree) : Bool :=
  tree.isPhrase .generatorExpression || tree.isPhrase .listComprehension

/-- Whether arguments are a generator or have a comprehension among them. -/
def holdsComprehension (arguments : Tree) : Bool :=
  arguments.isPhrase .generatorExpression || arguments.namedChildren.any isComprehension

/-- Whether a call builds its result from a comprehension. -/
def buildsFrom (call : Tree) : Bool :=
  ((call.child? .arguments).map holdsComprehension).getD false

theorem isComprehendedSet_def (tree : Tree) :
    isComprehendedSet tree =
      if tree.unparenthesized.isPhrase .setComprehension then true
      else if tree.unparenthesized.calledName? = some "set".toList then
        buildsFrom tree.unparenthesized
      else false := by
  rw [isComprehendedSet, buildsFrom]
  cases tree.unparenthesized.child? .arguments <;> rfl

theorem calledDecorator_eq (trees : List Tree) :
    calledDecorator? trees =
      (trees.find? fun tree => tree.role = some .function).bind decoratorName? := by
  induction trees with
  | nil => rfl
  | cons tree others ih =>
    rw [calledDecorator?, List.find?_cons]
    by_cases function : tree.role = some .function
    · rw [if_pos function, decide_eq_true function]
      rfl
    · rw [if_neg function, decide_eq_false function]
      exact ih

theorem decoratorName_def (tree : Tree) :
    decoratorName? tree =
      if tree.kind = .phrase .attributeAccess then (tree.child? .member).map Tree.text
      else if tree.kind = .token .identifier then some tree.text
      else if tree.kind = .phrase .call then (tree.child? .function).bind decoratorName?
      else none := by
  obtain ⟨kind, role, start, text, children⟩ := tree
  rw [decoratorName?, calledDecorator_eq]
  rfl

/-- Whether a decorator is one for generators. -/
def isSafeDecorator (decorator : Tree) : Bool :=
  match decorator.namedChildren with
  | expression :: _ =>
    match decoratorName? expression with
    | some name => generatorDecorators.contains name
    | none => false
  | [] => false

theorem isSafeDecorator_def (decorator : Tree) :
    isSafeDecorator decorator =
      ((decorator.namedChildren.head?.bind decoratorName?).map generatorDecorators.contains).getD
        false := by
  rw [isSafeDecorator]
  cases decorator.namedChildren with
  | nil => rfl
  | cons expression others =>
    simp only [List.head?_cons, Option.bind_some]
    cases decoratorName? expression <;> rfl

theorem isProtected_cons (parent : Tree) (above : List Tree) :
    isProtected (parent :: above) =
      (parent.isPhrase .decoratedDefinition && parent.namedChildren.any fun decorator =>
        decorator.isPhrase .decorator && isSafeDecorator decorator) :=
  rfl

end Judge

/-! ## Resemblances -/

/-- Two relations, on nodes and on parts in the same place, that keep what the rules read. -/
structure Resemblance (Node Part : Tree → Tree → Prop) : Prop where
  kind_eq {first second : Tree} (node : Node first second) : first.kind = second.kind
  /-- The children are in the same places, comments left out. -/
  written {first second : Tree} (node : Node first second) :
    Forall₂ Part first.written second.written
  child {first second : Tree} (node : Node first second) (role : Role) :
    Option.Rel Part (first.child? role) (second.child? role)
  role_eq {first second : Tree} (part : Part first second) : first.role = second.role
  counts_eq {first second : Tree} (part : Part first second) : first.counts = second.counts
  /-- Punctuation is of the same kind. -/
  beside {first second : Tree} (part : Part first second) (idle : first.counts = false) :
    first.kind = second.kind
  unparenthesized {first second : Tree} (part : Part first second) :
    Node first.unparenthesized second.unparenthesized
  identifier {first second : Tree} (node : Node first second)
    (is : first.isToken .identifier = true) : first.text = second.text
  word {first second : Tree} (node : Node first second) {phrase : Phrase} {role : Role}
    (is : first.isPhrase phrase = true) (word : isWord phrase (some role) = true) :
    (first.child? role).map Tree.text = (second.child? role).map Tree.text
  flags {first second : Tree} (node : Node first second)
    (is : first.isPhrase .stringLiteral = true) :
    Judge.isTextPrefixed first = Judge.isTextPrefixed second
  row {first second : Tree} (node : Node first second)
    (is : first.isPhrase .concatenatedString = true) :
    first.namedChildren.head?.map Judge.isTextPrefixed =
      second.namedChildren.head?.map Judge.isTextPrefixed

namespace Resemblance

variable {Node Part : Tree → Tree → Prop} (resembles : Resemblance Node Part)
  {first second : Tree}
include resembles

/-! ### Nodes and parts -/

theorem isPhrase_eq (node : Node first second) (phrase : Phrase) :
    first.isPhrase phrase = second.isPhrase phrase := by
  rw [Tree.isPhrase, Tree.isPhrase, resembles.kind_eq node]

theorem isToken_eq (node : Node first second) (token : Token) :
    first.isToken token = second.isToken token := by
  rw [Tree.isToken, Tree.isToken, resembles.kind_eq node]

/-- Parts agree in being a given mark of punctuation. -/
theorem isToken_part_eq (part : Part first second) {token : Token}
    (idle : token.isNamed = false) : first.isToken token = second.isToken token :=
  Tree.isToken_eq_of_counts (resembles.counts_eq part) (resembles.beside part) (.inl idle)

theorem isNamed_eq (part : Part first second) : first.isNamed = second.isNamed := by
  cases counts : first.counts with
  | false => exact congrArg Kind.isNamed (resembles.beside part counts)
  | true =>
    have named : first.isNamed = true := (Bool.and_eq_true_iff.mp counts).1
    have also : second.isNamed = true :=
      (Bool.and_eq_true_iff.mp (resembles.counts_eq part ▸ counts)).1
    rw [named, also]

theorem namedChildren (node : Node first second) :
    Forall₂ Part first.namedChildren second.namedChildren := by
  rw [Tree.namedChildren_eq_filter_written, Tree.namedChildren_eq_filter_written]
  exact forall₂_filter (resembles.written node) fun _ _ part => resembles.counts_eq part

/-! ### Calls -/

theorem callee (node : Node first second) : Option.Rel Node first.callee? second.callee? := by
  rw [Tree.callee?, Tree.callee?, resembles.isPhrase_eq node]
  split
  · exact rel_map (resembles.child node .function) fun _ _ part => resembles.unparenthesized part
  · exact .none

theorem calledName_eq (node : Node first second) : first.calledName? = second.calledName? := by
  refine bind_eq (resembles.callee node) fun one other function => ?_
  rw [← resembles.isToken_eq function]
  split
  · rename_i is
    rw [resembles.identifier function is]
  · rfl

theorem methodCall (node : Node first second) :
    Option.Rel (fun one other => Part one.1 other.1 ∧ one.2 = other.2)
      first.methodCall? second.methodCall? := by
  refine rel_bind (resembles.callee node) fun former latter function => ?_
  rw [← resembles.isPhrase_eq function]
  split
  · rename_i is
    refine rel_bind (resembles.child function .object) fun receiver other part => ?_
    have named : ∀ (tree receiver : Tree), ((tree.child? .member).map fun method =>
        (receiver, method.text)) = ((tree.child? .member).map Tree.text).map (Prod.mk receiver) := by
      intro tree receiver
      rw [Option.map_map]
      rfl
    rw [named, named, resembles.word function is rfl]
    cases (latter.child? .member).map Tree.text with
    | none => exact .none
    | some method => exact .some ⟨part, rfl⟩
  · exact .none

theorem avoidDatetimeNow_eq (node : Node first second) :
    Judge.avoidDatetimeNow first = Judge.avoidDatetimeNow second := by
  rw [Judge.avoidDatetimeNow, Judge.avoidDatetimeNow]
  refine bind_eq (resembles.methodCall node) ?_
  rintro ⟨receiver, method⟩ ⟨other, _⟩ ⟨part, rfl⟩
  have inner := resembles.unparenthesized part
  have named : ∀ (tree : Tree) (f : Text → Option String),
      ((tree.child? .member).bind fun name => f name.text) =
        ((tree.child? .member).map Tree.text).bind f := by
    intro tree f
    rw [Option.bind_map]
    rfl
  dsimp only
  rw [← resembles.isPhrase_eq inner]
  cases access : receiver.unparenthesized.isPhrase .attributeAccess with
  | true =>
    rw [named _ fun name => if ["dt".toList, "datetime".toList].contains name then _ else _,
      named _ fun name => if ["dt".toList, "datetime".toList].contains name then _ else _,
      resembles.word inner access rfl]
  | false => simp only [Bool.and_false, Bool.false_eq_true, if_false]

theorem generatorExpression_eq (node : Node first second) :
    Judge.generatorExpression first = Judge.generatorExpression second := by
  rw [Judge.generatorExpression, Judge.generatorExpression, resembles.calledName_eq node]

theorem protobufMethods_eq (node : Node first second) :
    Judge.protobufMethods first = Judge.protobufMethods second := by
  refine bind_eq (resembles.methodCall node) ?_
  rintro ⟨receiver, method⟩ ⟨other, _⟩ ⟨-, rfl⟩
  rfl

/-! ### String literals -/

theorem isTextLiteral_eq (node : Node first second) :
    Judge.isTextLiteral first = Judge.isTextLiteral second := by
  rw [Judge.isTextLiteral_def, Judge.isTextLiteral_def, ← resembles.isPhrase_eq node,
    ← resembles.isPhrase_eq node]
  cases literal : first.isPhrase .stringLiteral with
  | true => exact resembles.flags node literal
  | false =>
    cases row : first.isPhrase .concatenatedString with
    | true => exact congrArg (Option.getD · false) (resembles.row node row)
    | false => rfl

theorem isTextIn_eq (node : Node first second) (role : Role) :
    Judge.isTextIn first role = Judge.isTextIn second role := by
  have side := resembles.child node role
  rw [Judge.isTextIn, Judge.isTextIn]
  generalize first.child? role = one at side
  generalize second.child? role = other at side
  cases side with
  | some side => exact resembles.isTextLiteral_eq (resembles.unparenthesized side)
  | none => rfl

theorem addingStrings_eq (node : Node first second) :
    Judge.addingStrings first = Judge.addingStrings second := by
  rw [Judge.addingStrings_def, Judge.addingStrings_def, resembles.isPhrase_eq node,
    resembles.isTextIn_eq node, resembles.isTextIn_eq node]

/-! ### One-shot iterators -/

theorem iteratorCall_eq (part : Part first second) :
    Judge.iteratorCall? first = Judge.iteratorCall? second := by
  rw [Judge.iteratorCall?, Judge.iteratorCall?,
    resembles.calledName_eq (resembles.unparenthesized part)]

theorem isIteratorIn_eq (node : Node first second) (role : Role) :
    Judge.isIteratorIn first role = Judge.isIteratorIn second role :=
  congrArg Option.isSome
    (bind_eq (resembles.child node role) fun _ _ side => resembles.iteratorCall_eq side)

theorem adds_eq (node : Node first second) : Judge.adds first = Judge.adds second := by
  have operators := resembles.child node .operator
  rw [Judge.adds, Judge.adds]
  generalize first.child? .operator = one at operators
  generalize second.child? .operator = other at operators
  cases operators with
  | some operator => exact resembles.isToken_part_eq operator (by decide)
  | none => rfl

theorem safeIterator_eq (node : Node first second) :
    Judge.safeIterator first = Judge.safeIterator second := by
  have returned : first.namedChildren.head?.bind Judge.iteratorCall? =
      second.namedChildren.head?.bind Judge.iteratorCall? :=
    bind_eq (rel_head (resembles.namedChildren node)) fun _ _ value =>
      resembles.iteratorCall_eq value
  rw [Judge.safeIterator_def, Judge.safeIterator_def, resembles.isPhrase_eq node,
    resembles.isPhrase_eq node, resembles.adds_eq node, resembles.isIteratorIn_eq node,
    resembles.isIteratorIn_eq node, returned]

/-! ### Comparisons of sets -/

/-- Operands are sets built element by element alike when the calls inside them are. -/
theorem isComprehendedSet_eq
    (builds : ∀ {one other : Tree}, Node one other → one.calledName? = some "set".toList →
      Judge.buildsFrom one = Judge.buildsFrom other)
    (part : Part first second) :
    Judge.isComprehendedSet first = Judge.isComprehendedSet second := by
  have inner := resembles.unparenthesized part
  rw [Judge.isComprehendedSet_def, Judge.isComprehendedSet_def, ← resembles.isPhrase_eq inner,
    ← resembles.calledName_eq inner]
  by_cases called : first.unparenthesized.calledName? = some "set".toList
  · rw [builds inner called]
  · rw [if_neg called, if_neg called]

theorem isInclusion_eq (part : Part first second) :
    Judge.isInclusion first = Judge.isInclusion second := by
  rw [Judge.isInclusion, Judge.isInclusion, resembles.isToken_part_eq part (by decide),
    resembles.isToken_part_eq part (by decide)]

theorem hasBuiltOperand_eq
    (builds : ∀ {one other : Tree}, Node one other → one.calledName? = some "set".toList →
      Judge.buildsFrom one = Judge.buildsFrom other)
    {passed before parts others : List Tree} (behind : Forall₂ Part passed before)
    (ahead : Forall₂ Part parts others) :
    Judge.hasBuiltOperand passed parts = Judge.hasBuiltOperand before others := by
  induction ahead generalizing passed before with
  | nil => rfl
  | @cons part other _ _ related further ih =>
    have named : ∀ {lefts rights : List Tree}, Forall₂ Part lefts rights →
        Option.Rel Part (lefts.find? Tree.isNamed) (rights.find? Tree.isNamed) :=
      fun both => rel_find both fun _ _ tree => resembles.isNamed_eq tree
    have operands := List.rel_filterMap (R := Option.Rel Part)
      (fun _ _ both => both) (.cons (named behind) (.cons (named further) .nil))
    have built := any_eq operands fun _ _ operand => resembles.isComprehendedSet_eq builds operand
    rw [Judge.hasBuiltOperand, Judge.hasBuiltOperand, ih (.cons related behind),
      resembles.isInclusion_eq related]
    exact congrArg (fun met => Judge.isInclusion other && met || _) built

/-- Comparisons of sets are judged alike when calls build their sets alike. -/
theorem setComparison_eq
    (builds : ∀ {one other : Tree}, Node one other → one.calledName? = some "set".toList →
      Judge.buildsFrom one = Judge.buildsFrom other)
    (node : Node first second) : Judge.setComparison first = Judge.setComparison second := by
  have parts := resembles.hasBuiltOperand_eq builds .nil (resembles.written node)
  rw [Tree.written, Tree.written] at parts
  rw [Judge.setComparison, Judge.setComparison, resembles.isPhrase_eq node, parts]

/-! ### Tuples with one element -/

theorem isSingleTuple_eq (part : Part first second) :
    Judge.isSingleTuple first = Judge.isSingleTuple second := by
  have inner := resembles.unparenthesized part
  simp only [Judge.isSingleTuple, resembles.isPhrase_eq inner,
    (resembles.namedChildren inner).length_eq]

theorem reportSingle_eq {value other : Option Tree} (part : Option.Rel Part value other) :
    Judge.reportSingle value = Judge.reportSingle other :=
  bind_eq part fun _ _ tree => by rw [resembles.isSingleTuple_eq tree]

theorem trailingComma_eq (node : Node first second) :
    Judge.trailingComma first = Judge.trailingComma second := by
  have declared := isNone_eq (resembles.child node .declaredType)
  have assigned := resembles.reportSingle_eq (resembles.child node .right)
  have values := resembles.namedChildren node
  have returned := resembles.reportSingle_eq (rel_head values)
  have comma : (first.children.any fun child => child.isToken (.mark ",")) =
      second.children.any fun child => child.isToken (.mark ",") := by
    have mark : Token.mark "," ≠ .comment := nofun
    rw [first.any_written mark, second.any_written mark]
    exact any_eq (resembles.written node) fun _ _ child =>
      resembles.isToken_part_eq child (by decide)
  simp only [Judge.trailingComma, resembles.isPhrase_eq node, declared, assigned, returned, comma]
  generalize first.namedChildren = some at values
  generalize second.namedChildren = others at values
  cases values with
  | nil => rfl
  | cons value more =>
    cases more with
    | nil => simp only [resembles.reportSingle_eq (.some value)]
    | cons => rfl

end Resemblance

/-! ## Rules on functions -/

namespace Judge

theorem parameterKind_congr {first second : Tree} (kind : first.kind = second.kind)
    (parts : Forall₂ (fun one other => one.kind = other.kind) first.namedChildren
      second.namedChildren) : parameterKind first = parameterKind second := by
  rw [parameterKind, parameterKind, Tree.isPhrase, Tree.isPhrase, kind]
  generalize first.namedChildren = one at parts
  generalize second.namedChildren = other at parts
  cases parts with
  | nil => rfl
  | cons part _ => simp only [part]

theorem ofParameters_congr {first second : Tree}
    (parameters : Forall₂ (fun one other => parameterKind one = parameterKind other)
      first.namedChildren second.namedChildren) :
    Signature.ofParameters first = Signature.ofParameters second :=
  congrArg Prod.fst (foldl_eq parameters (f := Signature.add) (g := Signature.add)
    (fun c parameter other same => by simp only [Signature.add, same]) _)

/-- Recursive calls are judged alike when the functions around them have the same name and
signature. -/
theorem safeRecursive_congr {first second : Cursor}
    (called : first.node.calledName? = second.node.calledName?)
    (passed : argumentCount first.node = argumentCount second.node)
    (functions : Option.Rel
      (fun one other : Tree × List Tree =>
        (one.1.child? .name).map Tree.text = (other.1.child? .name).map Tree.text ∧
        (one.1.child? .parameters).map Signature.ofParameters =
          (other.1.child? .parameters).map Signature.ofParameters)
      (first.enclosing? .functionDefinition) (second.enclosing? .functionDefinition)) :
    safeRecursive first = safeRecursive second := by
  rw [safeRecursive, safeRecursive, called, passed]
  generalize first.enclosing? .functionDefinition = function at functions
  generalize second.enclosing? .functionDefinition = also at functions
  cases functions with
  | none => rfl
  | @some function also both =>
    obtain ⟨function, _⟩ := function
    obtain ⟨also, _⟩ := also
    obtain ⟨names, signatures⟩ := both
    cases second.node.calledName? with
    | none => rfl
    | some called =>
      dsimp only at names signatures ⊢
      rw [names]
      cases listed : function.child? .parameters with
      | none =>
        rw [listed, Option.map_none, eq_comm, Option.map_eq_none_iff] at signatures
        rw [signatures]
      | some parameters =>
        rw [listed, Option.map_some, eq_comm, Option.map_eq_some_iff] at signatures
        obtain ⟨others, also, same⟩ := signatures
        simp only [also, same]

theorem isSafeDecorator_congr {first second : Tree}
    (names : first.namedChildren.head?.bind decoratorName? =
      second.namedChildren.head?.bind decoratorName?) :
    isSafeDecorator first = isSafeDecorator second := by
  rw [isSafeDecorator_def, isSafeDecorator_def, names]

/-- Generators are judged alike when the functions around them return values and are protected
alike. -/
theorem safeYield_congr {first second : Cursor}
    (yields : first.node.isPhrase .yieldExpression = second.node.isPhrase .yieldExpression)
    (functions : Option.Rel
      (fun one other : Tree × List Tree => returnsValue one.1 = returnsValue other.1 ∧
        isProtected one.2 = isProtected other.2)
      (first.enclosing? .functionDefinition) (second.enclosing? .functionDefinition)) :
    safeYield first = safeYield second := by
  rw [safeYield, safeYield, yields]
  split
  · refine bind_eq functions ?_
    rintro ⟨function, above⟩ ⟨also, beyond⟩ ⟨returns, protects⟩
    simp only [returns, protects]
  · rfl

end Judge

end Hygiene.Python
