import Hygiene.Proofs.Python.Commented
import Hygiene.Proofs.Python.Grammatical

/-!
# Comments do not change a verdict

Every rule says of a node among comments what it says of the node without them, wherever comments
were added to the tree, and no rule says anything of a comment (`check_commented`).

For the rules on expressions this is the resemblance of both trees. The rules on imports and test
suites read names besides, and names are the same on both sides, since they stand where the grammar
asks for them in every tree of a source (`grammatical_of_parse`). A function returns a value
somewhere inside it, and the nodes inside are the same but for comments.
-/

set_option autoImplicit false

namespace Hygiene.Python

open List (Forall₂)
open Hygiene.Pointwise

variable {first second : Tree}

/-! ## Imports and test suites -/

namespace Judge

theorem importsCompute_def (tree : Tree) :
    importsCompute tree =
      if tree.isPhrase .importStatement then
        (tree.namedChildren.filterMap moduleName?).contains computePackage
      else if tree.isPhrase .importFromStatement then
        ((sourceModule? tree).map Tree.text).any computePackage.isPrefixOf
      else false := by
  rw [importsCompute]
  cases sourceModule? tree <;> rfl

/-- Whether a base of a class is named like a test suite. -/
def isSuiteBase (base : Tree) : Bool :=
  base.isToken .identifier && suiteClassBeginning.isPrefixOf base.text

/-- What is reported of a class that inherits from a test suite. -/
def inheritanceMessage (base : Text) : String :=
  "Inheriting the test suite " ++ String.ofList base ++ " may cause it to get run twice. " ++
    "Classes beginning with \x60" ++ String.ofList suiteClassBeginning ++
    "\x60 are interpreted by pytest as test suites."

theorem forbidTestSuiteInheritance_def (tree : Tree) :
    forbidTestSuiteInheritance tree =
      if tree.isPhrase .classDefinition &&
          ((tree.child? .name).map Tree.text).any suiteClassBeginning.isPrefixOf then
        ((tree.child? .superclasses).bind fun bases =>
          (bases.namedChildren.find? isSuiteBase).map Tree.text).map inheritanceMessage
      else none := by
  rw [forbidTestSuiteInheritance]
  cases tree.isPhrase .classDefinition with
  | false => rfl
  | true =>
    cases tree.child? .name with
    | none => rfl
    | some name =>
      cases tree.child? .superclasses with
      | none => rfl
      | some bases =>
        simp only [if_true, Option.bind_some, Option.map_some, Option.any_some, Bool.true_and,
          Option.map_map]
        rfl

end Judge

namespace Annotated

variable (annotated : Annotated first second)
include annotated

/-- The names in an item of an import are the same. -/
theorem aliasedImport_texts (is : first.isPhrase .aliasedImport = true) :
    (first.child? .name).map Tree.text = (second.child? .name).map Tree.text ∧
      (first.child? .asName).map Tree.text = (second.child? .asName).map Tree.text := by
  have named := annotated.grammatical.isNamedAs is
  obtain ⟨name, asName⟩ := Bool.and_eq_true_iff.mp named
  exact ⟨annotated.child_text name, annotated.child_text asName⟩

theorem boundName_eq : Judge.boundName? first = Judge.boundName? second := by
  rw [Judge.boundName?, Judge.boundName?, ← annotated.isPhrase_eq, ← annotated.isPhrase_eq]
  split
  · rename_i aliased
    exact (annotated.aliasedImport_texts aliased).2
  · split
    · rename_i dotted
      rw [annotated.text_eq_of_isPhrase dotted rfl]
    · rfl

theorem moduleName_eq : Judge.moduleName? first = Judge.moduleName? second := by
  rw [Judge.moduleName?, Judge.moduleName?, ← annotated.isPhrase_eq, ← annotated.isPhrase_eq]
  split
  · rename_i aliased
    exact (annotated.aliasedImport_texts aliased).1
  · split
    · rename_i dotted
      rw [annotated.text_eq_of_isPhrase dotted rfl]
    · rfl

theorem importedNames_eq : Judge.importedNames first = Judge.importedNames second := by
  have items := annotated.namedChildren
  rw [Judge.importedNames, Judge.importedNames, annotated.isPhrase_eq, annotated.isPhrase_eq,
    filterMap_eq items fun _ _ item => item.boundName_eq,
    filterMap_eq (List.forall₂_drop 1 items) fun _ _ item => item.boundName_eq]

theorem forbidImportTestSuite_eq :
    Judge.forbidImportTestSuite first = Judge.forbidImportTestSuite second := by
  rw [Judge.forbidImportTestSuite, Judge.forbidImportTestSuite, annotated.importedNames_eq]

/-- The module of an import is named by the same text. -/
theorem sourceModule_text (is : first.isPhrase .importFromStatement = true) :
    (Judge.sourceModule? first).map Tree.text = (Judge.sourceModule? second).map Tree.text := by
  have named : ((first.child? .moduleName).all fun module =>
      module.kind.isSpelled || module.isPhrase .relativeImport) = true :=
    annotated.grammatical.isNamedAs is
  have modules := annotated.child .moduleName
  rw [Judge.sourceModule?, Judge.sourceModule?]
  generalize first.child? .moduleName = one at modules named
  generalize second.child? .moduleName = other at modules
  cases modules with
  | none => rfl
  | @some module also related =>
    rw [Option.bind_some, Option.bind_some, ← related.isPhrase_eq]
    cases relative : module.isPhrase .relativeImport with
    | true =>
      -- With dots in front, the module is the dotted name behind them.
      have found := rel_find_and related.namedChildren
        (p := fun part => part.isPhrase .dottedName) (q := fun part => part.isPhrase .dottedName)
        fun _ _ part => part.isPhrase_eq _
      exact map_eq found fun _ _ part => part.1.text_eq_of_isPhrase part.2 rfl
    | false =>
      have spelled : module.kind.isSpelled = true := by simpa [relative] using named
      exact congrArg some (related.text_eq spelled)

theorem importsCompute_eq : Judge.importsCompute first = Judge.importsCompute second := by
  rw [Judge.importsCompute_def, Judge.importsCompute_def, ← annotated.isPhrase_eq,
    ← annotated.isPhrase_eq,
    filterMap_eq annotated.namedChildren fun _ _ item => item.moduleName_eq]
  cases imports : first.isPhrase .importFromStatement with
  | true => rw [annotated.sourceModule_text imports]
  | false => rfl

/-- The first base that is a test suite has the same name. -/
theorem suiteBase_text :
    (first.namedChildren.find? Judge.isSuiteBase).map Tree.text =
      (second.namedChildren.find? Judge.isSuiteBase).map Tree.text := by
  have found := rel_find_and annotated.namedChildren (p := Judge.isSuiteBase)
    (q := Judge.isSuiteBase) fun base other both => by
      rw [Judge.isSuiteBase, Judge.isSuiteBase, ← both.isToken_eq]
      cases is : base.isToken .identifier with
      | true => rw [both.text_eq_of_isToken is]
      | false => rfl
  apply map_eq found
  rintro base other ⟨both, suite⟩
  exact both.text_eq_of_isToken (Bool.and_eq_true_iff.mp suite).1

theorem forbidTestSuiteInheritance_eq :
    Judge.forbidTestSuiteInheritance first = Judge.forbidTestSuiteInheritance second := by
  rw [Judge.forbidTestSuiteInheritance_def, Judge.forbidTestSuiteInheritance_def,
    ← annotated.isPhrase_eq]
  cases is : first.isPhrase .classDefinition with
  | false => rfl
  | true =>
    have named := annotated.grammatical.isNamedAs is
    have bases := bind_eq (annotated.child .superclasses)
      (f := fun bases => (bases.namedChildren.find? Judge.isSuiteBase).map Tree.text)
      (g := fun bases => (bases.namedChildren.find? Judge.isSuiteBase).map Tree.text)
      fun _ _ bases => bases.suiteBase_text
    rw [annotated.child_text named, bases]

end Annotated

/-! ## Functions that return values -/

theorem Annotated.returnsValue_eq (annotated : Annotated first second) :
    Judge.returnsValue first = Judge.returnsValue second := by
  apply annotated.preorder.any_eq
  · intro one other related
    rw [related.isPhrase_eq, isEmpty_eq related.namedChildren]
  · intro comment added
    obtain ⟨start, text, rfl⟩ := added
    rfl

/-! ## Verdicts -/

/-- Comments around a node do not change what a rule says about it. -/
theorem AnnotatedCursors.check {one other : Cursor} (cursors : AnnotatedCursors one other)
    (rule : Rule) : rule.check one = rule.check other := by
  have node := cursors.node
  have resembles := Annotated.resembles
  cases rule with
  | addingStrings => exact congrArg Verdict.ofMessage (resembles.addingStrings_eq node)
  | avoidDatetimeNow => exact congrArg Verdict.ofMessage (resembles.avoidDatetimeNow_eq node)
  | forbidImportTestSuite => exact congrArg Verdict.ofMessage node.forbidImportTestSuite_eq
  | forbidTestSuiteInheritance =>
    exact congrArg Verdict.ofMessage node.forbidTestSuiteInheritance_eq
  | generatorExpression =>
    exact congrArg Verdict.ofMessage (resembles.generatorExpression_eq node)
  | noImportLibsigoptCompute =>
    rw [Rule.check, Rule.check, Judge.noImportLibsigoptCompute, Judge.noImportLibsigoptCompute,
      node.importsCompute_eq]
  | protobufMethods => exact congrArg Verdict.ofMessage (resembles.protobufMethods_eq node)
  | safeIterator => exact congrArg Verdict.ofMessage (resembles.safeIterator_eq node)
  | safeRecursive => exact resembles.safeRecursive_eq node cursors.ancestors
  | safeYield =>
    exact congrArg Verdict.ofMessage
      (resembles.safeYield_eq (fun function => function.returnsValue_eq) node cursors.ancestors)
  | setComparison =>
    exact congrArg Verdict.ofMessage
      (resembles.setComparison_eq (fun call _ => resembles.buildsFrom_eq call) node)
  | trailingComma => exact congrArg Verdict.ofMessage (resembles.trailingComma_eq node)

/-- No rule says anything about a comment. -/
theorem check_comment {cursor : Cursor} (comment : cursor.node.isToken .comment = true)
    (rule : Rule) : rule.check cursor = .clean := by
  have phrase : ∀ phrase, cursor.node.isPhrase phrase = false := by
    intro phrase
    rw [Tree.isPhrase, of_decide_eq_true comment]
    rfl
  have callee : cursor.node.callee? = none := by
    rw [Tree.callee?, phrase]
    rfl
  have called : cursor.node.calledName? = none := by
    rw [Tree.calledName?, callee]
    rfl
  have method : cursor.node.methodCall? = none := by
    rw [Tree.methodCall?, callee]
    rfl
  cases rule <;>
    simp [Rule.check, Judge.addingStrings, Judge.avoidDatetimeNow, Judge.forbidImportTestSuite,
      Judge.importedNames, Judge.forbidTestSuiteInheritance, Judge.generatorExpression,
      Judge.noImportLibsigoptCompute, Judge.importsCompute, Judge.protobufMethods,
      Judge.safeIterator, Judge.safeRecursive, Judge.safeYield, Judge.setComparison,
      Judge.trailingComma, Verdict.ofMessage, phrase, called, method]

/-- **Comments do not change a verdict.** However many comments are added to a tree, a walk passes
the nodes of the tree without them in the same order, each in the same phrases, and every rule says
the same of each of them; besides, it passes the added comments only. No rule says anything of a
comment. Every tree that a source is read as has its names as this asks for. -/
theorem check_commented {first second : Tree} (grammatical : first.Grammatical)
    (commented : Commented first second) :
    Interspersed
        (fun one other => Commented one.node other.node ∧
          Forall₂ Commented one.ancestors other.ancestors ∧
          ∀ rule : Rule, rule.check one = rule.check other)
        Cursor.OnAddedComment (Cursor.walk first) (Cursor.walk second) ∧
      (∀ cursor : Cursor, cursor.node.isToken .comment = true →
        ∀ rule : Rule, rule.check cursor = .clean) ∧
        ∀ (source : Text) (tree : Tree), parse source = .ok tree → tree.Grammatical := by
  have annotated : Annotated first second := ⟨grammatical, commented⟩
  refine ⟨?_, ?_, ?_⟩
  · apply annotated.walk.imp_mem _ fun _ added => added
    intro one _ other cursors
    exact ⟨cursors.node.commented, cursors.ancestors.imp fun _ _ parent => parent.commented,
      cursors.check⟩
  · intro cursor comment rule
    exact check_comment comment rule
  · intro source tree parsed
    exact grammatical_of_parse parsed

/-- The import `from a import (TestB)`, with something behind its opening parenthesis. -/
def suiteImport (text : Text) (behind : List Tree) : Tree :=
  .node (.phrase .importFromStatement) none ⟨0, 0⟩ text
    ([Tree.mark ⟨0, 0⟩ "from",
      .node (.phrase .dottedName) (some .moduleName) ⟨0, 5⟩ ['a']
        [Tree.word none ⟨0, 5⟩ ['a']],
      Tree.mark ⟨0, 7⟩ "import", Tree.mark ⟨0, 14⟩ "("] ++ behind ++
      [.node (.phrase .dottedName) (some .name) ⟨1, 0⟩ "TestB".toList
        [Tree.word none ⟨1, 0⟩ "TestB".toList],
      Tree.mark ⟨1, 5⟩ ")"])

/-- The import on two lines. -/
def plainImport : Tree :=
  suiteImport "from a import (\nTestB)".toList []

/-- The import with a comment behind its opening parenthesis. -/
def commentedImport : Tree :=
  suiteImport "from a import (# b\nTestB)".toList
    [.node (.token .comment) none ⟨0, 15⟩ "# b".toList []]

/-- The comment in front of the imported name changes no verdict: the import of a test suite is
reported all the same. -/
theorem check_commented_import :
    plainImport.Grammatical ∧ Commented plainImport commentedImport ∧
      Interspersed
        (fun one other => Commented one.node other.node ∧
          Forall₂ Commented one.ancestors other.ancestors ∧
          ∀ rule : Rule, rule.check one = rule.check other)
        Cursor.OnAddedComment (Cursor.walk plainImport) (Cursor.walk commentedImport) ∧
      Rule.forbidImportTestSuite.check (.ofTree commentedImport) =
        .violation ("Importing the test suite TestB may cause it to get run twice. " ++
          "Imported objects beginning with \x60Test\x60 are interpreted by pytest as test " ++
          "suites.") := by
  have grammatical : plainImport.Grammatical := by
    decide
  have commented : Commented plainImport commentedImport :=
    Commented.insert rfl none _ _ _ _ [_, _, _, _] [_, _] ⟨_, _, rfl⟩
  refine ⟨grammatical, commented, (check_commented grammatical commented).1, ?_⟩
  decide

end Hygiene.Python
