import Hygiene.Proofs.Python.Enclosing
import Hygiene.Proofs.Python.Wrapped

/-!
# Verdicts on trees that differ in parentheses

What the rules say about a node does not depend on parentheses around an expression elsewhere, nor
on those around the node itself (`SameCursor.check`). There are two exceptions. A decorator is not
recognised in parentheses, nor is one whose function is (`Decorates`), and a set is not taken for
one that is built from a comprehension when the comprehension has parentheses of its own
(`BuildsSet`). In both places a rule reads the kind of a child as it stands.

For the rules on expressions this is a resemblance of trees. The rules on functions look at the
nodes above, where the second tree has the parentheses in addition (`Outward`).
-/

set_option autoImplicit false

namespace Hygiene.Python

open List (Forall₂)
open Hygiene.Pointwise

namespace Parentheses

/-! ## The exceptions -/

/-- The last name of a decorator is read in a part of it: calls only are around the part, and it
stands for the function in them. -/
def Names (part : Tree) : List Tree.Frame → Prop
  | [] => True
  | frame :: inner =>
    frame.phrase = .call ∧ (Tree.Frame.fillAll inner part).role = some .function ∧
      Names part inner

/-- The expression is a decorator or the function that a decorator calls. -/
def Decorates (change : Parentheses) (around : List Tree.Frame) : Prop :=
  ∃ decorator inner, decorator :: inner <:+ around ∧ decorator.phrase = .decorator ∧
    Names change.expression inner

/-- The expression is a comprehension that a set is built from. -/
def BuildsSet (change : Parentheses) (around : List Tree.Frame) : Prop :=
  (change.expression.isPhrase .generatorExpression = true ∨
      change.expression.isPhrase .listComprehension = true) ∧
    change.parent.role = some .arguments ∧
    ∃ call, [call, change.parent] <:+ around ∧
      (call.fill (change.parent.fill change.expression)).calledName? = some "set".toList

/-- The rules that may see the parentheses. -/
def Shows (change : Parentheses) (around : List Tree.Frame) : Rule → Prop
  | .safeYield => change.Decorates around
  | .setComparison => change.BuildsSet around
  | _ => False

variable {change : Parentheses} {around frames : List Tree.Frame} {first second : Tree}

/-! ## Arguments -/

theorem isComprehension_wrapped : Judge.isComprehension change.wrapped = false := by
  rw [Judge.isComprehension, change.isPhrase_wrapped (by decide),
    change.isPhrase_wrapped (by decide), Bool.or_false]

/-- Arguments of a call have a comprehension among them in both trees, or the expression is
itself one of the arguments and a comprehension. -/
theorem Wrapped.holdsComprehension_eq (both : change.Wrapped frames first second)
    (spare : frames = [change.parent] → Judge.isComprehension change.expression = false) :
    Judge.holdsComprehension first = Judge.holdsComprehension second := by
  have kinds := both.kind_eq
  have parts : Forall₂ (fun one other => one.counts = other.counts ∧
      Judge.isComprehension one = Judge.isComprehension other) first.children second.children := by
    cases both with
    | parent =>
      exact Tree.Frame.forall_fill _ (fun _ => ⟨rfl, rfl⟩)
        ⟨change.counts.trans (Tree.Frame.counts_fill _).symm,
          (spare rfl).trans isComprehension_wrapped.symm⟩
    | inside part frame place =>
      refine frame.forall_fill (fun _ => ⟨rfl, rfl⟩)
        ⟨part.counts.1.trans part.counts.2.symm, ?_⟩
      rw [Judge.isComprehension, Judge.isComprehension, Tree.isPhrase, Tree.isPhrase,
        Tree.isPhrase, Tree.isPhrase, part.kind_eq]
  rw [Judge.holdsComprehension, Judge.holdsComprehension, Tree.isPhrase, Tree.isPhrase, kinds,
    Tree.namedChildren, Tree.namedChildren,
    any_eq (forall₂_filter parts fun _ _ both => both.1) fun _ _ both => both.2]

/-- A generator is the arguments of a call as well with parentheses as without. -/
theorem holdsComprehension_wrapped (arguments : change.expression.role = some .arguments) :
    Judge.holdsComprehension change.expression = Judge.holdsComprehension change.wrapped := by
  have alone := change.place.alone arguments
  have inside : change.inner.isPhrase .generatorExpression = true := alone
  rw [Judge.holdsComprehension, Judge.holdsComprehension, namedChildren_wrapped, alone,
    List.any_cons, Judge.isComprehension, inside, Bool.true_or, Bool.true_or, Bool.true_or,
    Bool.or_true]

/-- Calls build their sets alike, but for those that build them from the expression. -/
theorem buildsFrom_eq (spare : ¬ change.BuildsSet around)
    (node : change.SameNode around first second)
    (called : first.calledName? = some "set".toList) :
    Judge.buildsFrom first = Judge.buildsFrom second := by
  cases node with
  | same => rfl
  | expression => rw [Judge.buildsFrom, Judge.buildsFrom, Tree.child?, Tree.child?, children_inner]
  | wrapped within both =>
    refine congrArg (Option.getD · false) ?_
    cases both with
    | parent =>
      exact change.parent.child_map_fill change.role_wrapped.symm _ holdsComprehension_wrapped
    | inside part frame place =>
      refine frame.child_map_fill part.role_eq _ fun arguments => part.holdsComprehension_eq ?_
      rintro rfl
      obtain rfl := part.first_eq
      refine Bool.eq_false_iff.mpr fun comprehension => spare ?_
      exact ⟨Bool.or_eq_true_iff.mp comprehension, arguments, frame, within, called⟩

theorem argumentCount_eq (node : change.SameNode around first second) :
    Judge.argumentCount first = Judge.argumentCount second := by
  have resembles := change.resembles around
  have found := rel_find_and node.children
    (p := fun tree => tree.role = some .arguments) (q := fun tree => tree.role = some .arguments)
    fun _ _ part => by rw [resembles.role_eq part]
  rw [Judge.argumentCount, Judge.argumentCount, Tree.child?, Tree.child?]
  generalize first.children.find? _ = one at found
  generalize second.children.find? _ = other at found
  cases found with
  | none => rfl
  | some both =>
    obtain ⟨part, arguments⟩ := both
    cases part with
    | same => rfl
    | parentheses =>
      have alone := change.place.alone (of_decide_eq_true arguments)
      have differs : change.wrapped.isPhrase .generatorExpression = false :=
        change.isPhrase_wrapped (by decide)
      simp only [alone, differs, namedChildren_wrapped, if_true, List.length_singleton, ite_self]
    | wrapped within both =>
      have node := SameNode.wrapped within both
      simp only [node.isPhrase_eq, (resembles.namedChildren node).length_eq]

/-! ## Functions -/

theorem parameterKind_eq (node : change.SameNode around first second) :
    Judge.parameterKind first = Judge.parameterKind second := by
  cases typed : first.isPhrase .typedParameter with
  | false =>
    have also := node.isPhrase_eq .typedParameter ▸ typed
    simp only [Judge.parameterKind, typed, also, Bool.false_eq_true, if_false, node.kind_eq]
  | true =>
    exact Judge.parameterKind_congr node.kind_eq
      ((node.namedChildren_of_firm typed rfl).imp fun _ _ part => part.kind_eq)

/-- The signature of a list of parameters does not depend on the parentheses in it. -/
theorem ofParameters_eq (node : change.SameNode around first second)
    (is : first.isPhrase .parameters = true) :
    Judge.Signature.ofParameters first = Judge.Signature.ofParameters second :=
  Judge.ofParameters_congr
    ((node.namedChildren_of_firm is rfl).imp fun _ _ part => parameterKind_eq part)

/-- A function has the same signature in both trees. -/
theorem signature_eq (node : change.SameNode around first second)
    (is : first.isPhrase .functionDefinition = true) :
    (first.child? .parameters).map Judge.Signature.ofParameters =
      (second.child? .parameters).map Judge.Signature.ofParameters := by
  cases node with
  | same => rfl
  | expression => rw [Tree.child?, Tree.child?, children_inner]
  | wrapped within both =>
    cases both with
    | parent =>
      cases is.symm.trans (change.isPhrase_parent rfl _)
    | inside part frame place =>
      replace is := Tree.Frame.phrase_eq _ is
      exact frame.child_map_fill part.role_eq _ fun listed =>
        ofParameters_eq (.wrapped ((List.suffix_cons _ _).trans within) part)
          (place.parameters is listed)

/-! ## Values that are returned -/

theorem returnsValue_eq_any (tree : Tree) :
    Judge.returnsValue tree =
      (tree.isPhrase .returnStatement && !tree.namedChildren.isEmpty ||
        tree.children.any Judge.returnsValue) := by
  obtain ⟨kind, role, start, text, children⟩ := tree
  rw [Judge.returnsValue, Tree.preorder, List.any_cons, Tree.preorderAll_eq, List.any_flatMap]
  rfl

theorem returnsValue_wrapped (change : Parentheses) :
    Judge.returnsValue change.wrapped = Judge.returnsValue change.expression := by
  have idle : ∀ trees : List Tree, (∀ tree ∈ trees, tree ∈ change.pair.left ++ change.pair.right) →
      trees.any Judge.returnsValue = false := fun trees within =>
    List.any_eq_false.mpr fun tree member => by
      have counts := change.idle tree (within tree member)
      have differs : tree.isPhrase .returnStatement = false :=
        Bool.eq_false_iff.mpr fun is => by
          cases counts.symm.trans (Tree.counts_of_isPhrase is)
      rw [returnsValue_eq_any, differs, change.leaf tree (within tree member)]
      exact nofun
  have differs : change.wrapped.isPhrase .returnStatement = false :=
    change.isPhrase_wrapped (by decide)
  have same : Judge.returnsValue change.inner = Judge.returnsValue change.expression := by
    rw [returnsValue_eq_any, returnsValue_eq_any change.expression]
    rfl
  rw [returnsValue_eq_any, differs, wrapped, Tree.Frame.fill, Tree.children, List.any_append,
    idle _ fun _ => List.mem_append_left _, List.any_cons, same,
    idle _ fun _ => List.mem_append_right _]
  simp

/-- A value is returned from both nodes or from none when this holds of their children. -/
theorem returnsValue_of_children (node : change.SameNode around first second)
    (parts : Forall₂ (fun one other => Judge.returnsValue one = Judge.returnsValue other)
      first.children second.children) :
    Judge.returnsValue first = Judge.returnsValue second := by
  rw [returnsValue_eq_any, returnsValue_eq_any second, node.isPhrase_eq,
    isEmpty_eq ((change.resembles around).namedChildren node), any_eq parts fun _ _ same => same]

theorem returnsValue_eq (node : change.SameNode around first second) :
    Judge.returnsValue first = Judge.returnsValue second := by
  cases node with
  | same => rfl
  | expression =>
    have node : change.SameNode around change.expression change.inner := .expression
    exact returnsValue_of_children node (List.forall₂_same.mpr fun _ _ => rfl)
  | wrapped within both =>
    induction both with
    | parent =>
      exact returnsValue_of_children (.wrapped within .parent)
        (change.parent.forall_fill (fun _ => rfl) change.returnsValue_wrapped.symm)
    | inside part frame place ih =>
      exact returnsValue_of_children (.wrapped within (.inside part frame place))
        (frame.forall_fill (fun _ => rfl) (ih ((List.suffix_cons _ _).trans within)))

/-! ## Decorators -/

/-- The last name of a phrase does not depend on a part that it is not read in. -/
theorem decoratorName_fill (frame : Tree.Frame) {part other : Tree} (roles : part.role = other.role)
    (word : frame.phrase = .attributeAccess → part.role ≠ some .member)
    (name : frame.phrase = .call → part.role = some .function →
      Judge.decoratorName? part = Judge.decoratorName? other) :
    Judge.decoratorName? (frame.fill part) = Judge.decoratorName? (frame.fill other) := by
  rw [Judge.decoratorName_def, Judge.decoratorName_def (frame.fill other)]
  have kinds : (frame.fill part).kind = (frame.fill other).kind := rfl
  rw [← kinds]
  split
  · rename_i access
    have apart := word (Kind.phrase.inj access)
    rw [frame.child_fill apart (roles ▸ apart)]
  · split
    · rename_i identifier
      cases identifier
    · split
      · rename_i call
        exact frame.child_bind_fill roles _ (name (Kind.phrase.inj call))
      · rfl

theorem Wrapped.decoratorName_eq (both : change.Wrapped frames first second)
    (spare : ¬ Names change.expression frames) :
    Judge.decoratorName? first = Judge.decoratorName? second := by
  induction both with
  | parent =>
    refine decoratorName_fill _ change.role_wrapped.symm
      (fun access => change.place.role_ne (access ▸ rfl)) fun call function => ?_
    exact absurd ⟨call, function, trivial⟩ spare
  | inside part frame place ih =>
    refine decoratorName_fill _ part.role_eq (fun access member => ?_) fun call function => ?_
    · have word := place.word
      rw [access, member] at word
      cases word
    · exact ih fun names => spare ⟨call, part.first_eq ▸ function, names⟩

/-- A decorator is one for generators in both trees, unless its name is in the expression. -/
theorem isSafeDecorator_eq (spare : ¬ change.Decorates around)
    (node : change.SameNode around first second) (is : first.isPhrase .decorator = true) :
    Judge.isSafeDecorator first = Judge.isSafeDecorator second := by
  cases node with
  | same => rfl
  | expression =>
    refine Judge.isSafeDecorator_congr ?_
    rw [Tree.namedChildren, Tree.namedChildren, children_inner]
  | wrapped within both =>
    cases both with
    | parent =>
      replace is := Tree.Frame.phrase_eq _ is
      exact absurd ⟨change.parent, [], within, is, trivial⟩ spare
    | inside part frame place =>
      replace is := Tree.Frame.phrase_eq _ is
      have names := part.decoratorName_eq fun names => spare ⟨frame, _, within, is, names⟩
      have parts := forall₂_filter (p := Tree.counts) (q := Tree.counts)
        (frame.forall_fill (R := fun one other => one.counts = other.counts ∧
          Judge.decoratorName? one = Judge.decoratorName? other)
          (fun _ => ⟨rfl, rfl⟩) ⟨part.counts.1.trans part.counts.2.symm, names⟩)
        fun _ _ both => both.1
      exact Judge.isSafeDecorator_congr (bind_eq (rel_head parts) fun _ _ both => both.2)

/-! ## What is above a node -/

/-- The nodes above the same node of both trees. In the second tree the parentheses may be one of
them. -/
inductive Outward (change : Parentheses) (around : List Tree.Frame) :
    List Tree → List Tree → Prop where
  | root : Outward change around [] []
  | node {first second : Tree} {above beyond : List Tree}
      (node : change.SameNode around first second) (further : Outward change around above beyond) :
      Outward change around (first :: above) (second :: beyond)
  | parentheses {above beyond : List Tree} (further : Outward change around above beyond)
      (within : [change.parent] <:+ around) :
      Outward change around (change.parent.fill change.expression :: above)
        (change.wrapped :: change.parent.fill change.wrapped :: beyond)

/-- Cursors on the same node of both trees. -/
structure SameCursor (change : Parentheses) (around : List Tree.Frame) (first second : Cursor) :
    Prop where
  node : change.SameNode around first.node second.node
  above : change.Outward around first.ancestors second.ancestors

/-- A function is protected in both trees, unless its decorator has the name in the expression. -/
theorem isProtected_eq (spare : ¬ change.Decorates around) {one other : List Tree}
    (above : change.Outward around one other) :
    Judge.isProtected one = Judge.isProtected other := by
  cases above with
  | root => rfl
  | @node first second _ _ node _ =>
    rw [Judge.isProtected_cons, Judge.isProtected_cons, ← node.isPhrase_eq]
    cases decorated : first.isPhrase .decoratedDefinition with
    | false => rfl
    | true =>
      refine congrArg (true && ·) (any_eq (node.namedChildren_of_firm decorated rfl)
        fun decorator other both => ?_)
      rw [← both.isPhrase_eq]
      cases is : decorator.isPhrase .decorator with
      | false => rfl
      | true => rw [isSafeDecorator_eq spare both is]
  | parentheses further within =>
    rw [Judge.isProtected_cons, Judge.isProtected_cons, change.isPhrase_parent rfl,
      change.isPhrase_wrapped (by decide), Bool.false_and, Bool.false_and]

/-- The closest function around a node is the same in both trees. -/
theorem enclosing {one other : Cursor} (cursors : change.SameCursor around one other) :
    Option.Rel
      (fun one other : Tree × List Tree => one.1.isPhrase .functionDefinition = true ∧
        change.SameNode around one.1 other.1 ∧ change.Outward around one.2 other.2)
      (one.enclosing? .functionDefinition) (other.enclosing? .functionDefinition) := by
  have above := cursors.above
  rw [Cursor.enclosing?, Cursor.enclosing?]
  generalize one.ancestors = ancestors at above
  generalize other.ancestors = others at above
  induction above with
  | root => exact .none
  | @node first second above beyond node further ih =>
    rw [List.dropWhile_cons, List.dropWhile_cons, ← node.isPhrase_eq]
    cases is : first.isPhrase .functionDefinition with
    | false => exact ih
    | true => exact .some ⟨is, node, further⟩
  | parentheses further within ih =>
    have also : change.wrapped.isPhrase .functionDefinition = false :=
      change.isPhrase_wrapped (by decide)
    rw [List.dropWhile_cons, List.dropWhile_cons, List.dropWhile_cons, change.isPhrase_parent rfl,
      change.isPhrase_parent rfl, also]
    exact ih

theorem safeRecursive_eq {one other : Cursor} (cursors : change.SameCursor around one other) :
    Judge.safeRecursive one = Judge.safeRecursive other := by
  refine Judge.safeRecursive_congr ((change.resembles around).calledName_eq cursors.node)
    (argumentCount_eq cursors.node) (rel_imp (enclosing cursors) ?_)
  rintro ⟨function, _⟩ ⟨also, _⟩ ⟨is, node, -⟩
  exact ⟨(change.resembles around).word node is rfl, signature_eq node is⟩

theorem safeYield_eq (spare : ¬ change.Decorates around) {one other : Cursor}
    (cursors : change.SameCursor around one other) :
    Judge.safeYield one = Judge.safeYield other := by
  refine Judge.safeYield_congr (cursors.node.isPhrase_eq _) (rel_imp (enclosing cursors) ?_)
  rintro ⟨function, above⟩ ⟨also, beyond⟩ ⟨-, node, further⟩
  exact ⟨returnsValue_eq node, isProtected_eq spare further⟩

/-! ## Imports and test suites -/

/-- An import is the same statement in both trees, since there are no expressions in it. -/
theorem import_cases (node : change.SameNode around first second) :
    first = second ∨ (first = change.expression ∧ second = change.inner) ∨
      first.isPhrase .importStatement = false ∧ first.isPhrase .importFromStatement = false := by
  cases node with
  | same => exact .inl rfl
  | expression => exact .inr (.inl ⟨rfl, rfl⟩)
  | wrapped within both =>
    refine .inr (.inr ?_)
    cases both with
    | parent => exact ⟨change.isPhrase_parent rfl _, change.isPhrase_parent rfl _⟩
    | inside part frame place =>
      rw [Tree.Frame.isPhrase_fill, Tree.Frame.isPhrase_fill, decide_eq_false_iff_not,
        decide_eq_false_iff_not]
      exact ⟨place.modules, place.source⟩

theorem forbidImportTestSuite_eq (node : change.SameNode around first second) :
    Judge.forbidImportTestSuite first = Judge.forbidImportTestSuite second := by
  rcases import_cases node with rfl | ⟨rfl, rfl⟩ | ⟨modules, source⟩
  · rfl
  · rfl
  · have none : Judge.importedNames first = Judge.importedNames second := by
      rw [Judge.importedNames, Judge.importedNames, ← node.isPhrase_eq, ← node.isPhrase_eq,
        modules, source]
      rfl
    rw [Judge.forbidImportTestSuite, Judge.forbidImportTestSuite, none]

theorem noImportLibsigoptCompute_eq (node : change.SameNode around first second) :
    Judge.noImportLibsigoptCompute first = Judge.noImportLibsigoptCompute second := by
  rcases import_cases node with rfl | ⟨rfl, rfl⟩ | ⟨modules, source⟩
  · rfl
  · rfl
  · have none : Judge.importsCompute first = Judge.importsCompute second := by
      rw [Judge.importsCompute, Judge.importsCompute, ← node.isPhrase_eq, ← node.isPhrase_eq,
        modules, source]
      rfl
    rw [Judge.noImportLibsigoptCompute, Judge.noImportLibsigoptCompute, none]

/-- A class has the same bases with a name in both trees. -/
theorem Wrapped.base_eq (both : change.Wrapped frames first second)
    (listed : first.isPhrase .argumentList = true) (bases : first.role = some .superclasses)
    (test : Text → Bool) :
    (first.namedChildren.find? fun base => base.isToken .identifier && test base.text).map
        Tree.text =
      (second.namedChildren.find? fun base => base.isToken .identifier && test base.text).map
        Tree.text := by
  cases both with
  | parent =>
    -- The arguments of a call are no bases of a class.
    replace listed := Tree.Frame.phrase_eq _ listed
    have place := change.place
    rw [listed, show change.parent.role = some .superclasses from bases] at place
    cases place
  | inside part frame place =>
    have parts := forall₂_filter (p := Tree.counts) (q := Tree.counts)
      (frame.forall_fill (R := fun one other => one.counts = other.counts ∧
        (one = other ∨ one.isToken .identifier = false ∧ other.isToken .identifier = false))
        (fun _ => ⟨rfl, .inl rfl⟩) ⟨part.counts.1.trans part.counts.2.symm, .inr part.no_token⟩)
      fun _ _ both => both.1
    refine map_eq (rel_find_and parts ?_) ?_
    · rintro one other ⟨-, rfl | ⟨former, latter⟩⟩
      · rfl
      · rw [former, latter]
        rfl
    · rintro one other ⟨⟨-, rfl | ⟨former, -⟩⟩, passes⟩
      · rfl
      · rw [former] at passes
        cases passes

theorem forbidTestSuiteInheritance_eq (node : change.SameNode around first second) :
    Judge.forbidTestSuiteInheritance first = Judge.forbidTestSuiteInheritance second := by
  cases node with
  | same => rfl
  | expression => rfl
  | wrapped within both =>
    rw [Judge.forbidTestSuiteInheritance, Judge.forbidTestSuiteInheritance]
    cases both with
    | parent =>
      rw [change.isPhrase_parent rfl, change.isPhrase_parent rfl]
      rfl
    | inside part frame place =>
      rw [Tree.Frame.isPhrase_fill, Tree.Frame.isPhrase_fill]
      split
      · rename_i is
        have apart := place.className (of_decide_eq_true is)
        rw [frame.child_fill apart (part.role_eq ▸ apart)]
        refine congrArg _ (funext fun name => ?_)
        split
        · refine frame.child_bind_fill part.role_eq _ fun bases => ?_
          have texts := part.base_eq (place.bases (of_decide_eq_true is) bases) bases
            Judge.suiteClassBeginning.isPrefixOf
          simpa only [Option.map_map, Function.comp_def] using congrArg (Option.map fun text =>
            "Inheriting the test suite " ++ String.ofList text ++
              " may cause it to get run twice. " ++ "Classes beginning with \x60" ++
              String.ofList Judge.suiteClassBeginning ++
              "\x60 are interpreted by pytest as test suites.") texts
        · rfl
      · rfl

/-! ## All rules -/

/-- **What a rule says about a node does not depend on parentheses**, unless it is one of those
that may see them. -/
theorem SameCursor.check {one other : Cursor} (cursors : change.SameCursor around one other)
    {rule : Rule} (spare : ¬ change.Shows around rule) : rule.check one = rule.check other := by
  have node := cursors.node
  have resembles := change.resembles around
  cases rule with
  | addingStrings => exact congrArg Verdict.ofMessage (resembles.addingStrings_eq node)
  | avoidDatetimeNow => exact congrArg Verdict.ofMessage (resembles.avoidDatetimeNow_eq node)
  | forbidImportTestSuite => exact congrArg Verdict.ofMessage (forbidImportTestSuite_eq node)
  | forbidTestSuiteInheritance =>
    exact congrArg Verdict.ofMessage (forbidTestSuiteInheritance_eq node)
  | generatorExpression => exact congrArg Verdict.ofMessage (resembles.generatorExpression_eq node)
  | noImportLibsigoptCompute => exact congrArg Verdict.ofMessage (noImportLibsigoptCompute_eq node)
  | protobufMethods => exact congrArg Verdict.ofMessage (resembles.protobufMethods_eq node)
  | safeIterator => exact congrArg Verdict.ofMessage (resembles.safeIterator_eq node)
  | safeRecursive => exact safeRecursive_eq cursors
  | safeYield => exact congrArg Verdict.ofMessage (safeYield_eq spare cursors)
  | setComparison =>
    exact congrArg Verdict.ofMessage (resembles.setComparison_eq (buildsFrom_eq spare) node)
  | trailingComma => exact congrArg Verdict.ofMessage (resembles.trailingComma_eq node)

end Parentheses

end Hygiene.Python
