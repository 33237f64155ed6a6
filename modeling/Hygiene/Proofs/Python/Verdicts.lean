import Hygiene.Proofs.Python.Likeness
import Hygiene.Proofs.Python.Reworded

/-!
# Verdicts on trees that differ in a comment

What a rule says about a node does not depend on how a comment is written (`AlikeCursors.check`),
with one exception: the message on an imported test suite quotes the name that is imported, as it
stands in the source, and where the grammar takes a comment for a part of a dotted name the
message quotes the comment too (`Verdict.Restated`).

The proofs follow the rules. A rule looks for shapes among the children of a node and of the nodes
around it, and what it finds there is alike on both sides. For the rules on expressions this is a
resemblance of trees (`Alike.resembles`).
-/

set_option autoImplicit false

namespace Hygiene.Python

open List (Forall₂)
open Hygiene.Pointwise

variable {change : Rewording} {around : List Phrase}

/-! ## Texts and messages -/

/-- Two texts are the same or quote a dotted name around the comment. -/
def Quoted (change : Rewording) (around : List Phrase) (first second : Text) : Prop :=
  first = second ∨ .dottedName ∈ around ∧ ∃ before after,
    first = before ++ change.old ++ after ∧ second = before ++ change.new ++ after

/-- Two messages are the same or quote a dotted name around the comment. -/
def Restated (change : Rewording) (around : List Phrase) (first second : String) : Prop :=
  first = second ∨ .dottedName ∈ around ∧ ∃ before after : String,
    first = before ++ .ofList change.old ++ after ∧ second = before ++ .ofList change.new ++ after

/-- Two verdicts of a rule are the same, or they are the messages on an imported test suite. -/
def Verdict.Restated (change : Rewording) (around : List Phrase) (rule : Rule)
    (first second : Verdict) : Prop :=
  first = second ∨ rule = .forbidImportTestSuite ∧ ∃ message other,
    first = .violation message ∧ second = .violation other ∧
      Python.Restated change around message other

theorem Quoted.isPrefixOf_eq {first second : Text} (quoted : Quoted change around first second)
    {beginning : Text} (plain : '#' ∉ beginning) :
    beginning.isPrefixOf first = beginning.isPrefixOf second := by
  obtain rfl | ⟨-, before, after, rfl, rfl⟩ := quoted
  · rfl
  · rw [isPrefixOf_append_mark plain before _ after change.oldMark,
      isPrefixOf_append_mark plain before _ after change.newMark]

/-- A message around a text. -/
theorem Quoted.restated {first second : Text} (quoted : Quoted change around first second)
    (front back : String) :
    Restated change around (front ++ .ofList first ++ back) (front ++ .ofList second ++ back) := by
  obtain rfl | ⟨dotted, before, after, rfl, rfl⟩ := quoted
  · exact .inl rfl
  · refine .inr ⟨dotted, front ++ .ofList before, .ofList after ++ back, ?_, ?_⟩ <;>
      simp only [String.ofList_append, String.append_assoc]

/-- A dotted name is the same on both sides, or it is around the comment. -/
theorem Alike.quoted {first second : Tree} (alike : Alike change around first second)
    (dotted : first.isPhrase .dottedName = true) :
    Quoted change around first.text second.text := by
  rcases alike with rfl | ⟨phrases, within, reworded⟩
  · exact .inl rfl
  · refine .inr ⟨?_, reworded.texts⟩
    cases reworded with
    | comment role => cases dotted
    | inside part phrase role start before after left right place =>
      obtain rfl : phrase = .dottedName := by simpa [Tree.isPhrase, Tree.kind] using dotted
      exact within.subset List.mem_cons_self

/-! ## Shapes -/

namespace Reworded

variable {first second : Tree}

/-- What is inside parentheses is alike. -/
theorem unparenthesized {phrases : List Phrase} (within : phrases <:+ around)
    (reworded : Reworded change phrases first second) :
    Alike change around first.unparenthesized second.unparenthesized := by
  induction reworded with
  | comment role => exact .inr ⟨_, within, .comment role⟩
  | inside part phrase role start before after left right place ih =>
    have whole := Reworded.inside part phrase role start before after left right place
    have inner := ih ((List.suffix_cons _ _).trans within)
    have both := forall₂_replace
      (S := fun one other => Alike change around one other ∧
        Alike change around one.unparenthesized other.unparenthesized)
      (fun tree => ⟨.refl tree, .refl _⟩)
      ⟨.inr ⟨_, (List.suffix_cons _ _).trans within, part⟩, inner⟩ left right
    have found := rel_find both fun _ _ alike => alike.1.counts_eq
    by_cases parenthesized : phrase = .parenthesizedExpression
    · rw [Tree.unparenthesized_inside, Tree.unparenthesized_inside]
      · exact rel_getD found (fun _ _ holds => holds.2) (.inr ⟨_, within, whole⟩)
      all_goals exact congrArg Kind.phrase parenthesized
    · rw [Tree.unparenthesized_self, Tree.unparenthesized_self]
      · exact .inr ⟨_, within, whole⟩
      all_goals exact fun same => parenthesized (Kind.phrase.inj same)

end Reworded

namespace Alike

variable {first second : Tree} (alike : Alike change around first second)
include alike

theorem unparenthesized :
    Alike change around first.unparenthesized second.unparenthesized := by
  rcases alike with rfl | ⟨phrases, within, reworded⟩
  · exact .refl _
  · exact reworded.unparenthesized within

end Alike

/-! ## Rules on expressions -/

namespace Judge

section

variable {first second : Tree} (alike : Alike change around first second)
include alike

/-- The flags of a string are the same on both sides. -/
theorem isTextPrefixed_eq (is : first.isPhrase .stringLiteral = true) :
    isTextPrefixed first = isTextPrefixed second := by
  rcases alike with rfl | ⟨phrases, -, reworded⟩
  · rfl
  · cases reworded with
    | comment role => cases is
    | inside part phrase role start before after left right place =>
      exact isTextPrefixed_behind (place.quoted (by simpa [Tree.isPhrase, Tree.kind] using is)) ..

/-- Whether strings in a row are text is the same on both sides. -/
theorem isTextPrefixed_head_eq (is : first.isPhrase .concatenatedString = true) :
    first.namedChildren.head?.map isTextPrefixed =
      second.namedChildren.head?.map isTextPrefixed := by
  rcases alike with rfl | ⟨phrases, within, reworded⟩
  · rfl
  · cases reworded with
    | comment role => cases is
    | @inside inner former latter part phrase role start before after left right place =>
      obtain rfl : phrase = .concatenatedString := by simpa [Tree.isPhrase, Tree.kind] using is
      have within : Alike change around former latter :=
        .inr ⟨_, (List.suffix_cons _ _).trans within, part⟩
      have parts := forall₂_replace
        (S := fun one other => one.counts = other.counts ∧
          (one.counts = true → isTextPrefixed one = isTextPrefixed other))
        (fun tree => ⟨rfl, fun _ => rfl⟩)
        ⟨within.counts_eq, fun counts => isTextPrefixed_eq within (place.row rfl counts)⟩
        left right
      simp only [Tree.namedChildren, Tree.children, List.head?_filter]
      exact map_eq (rel_find_and parts fun _ _ both => both.1) fun _ _ holds =>
        holds.1.2 holds.2

end

end Judge

/-- **Trees that differ in a comment resemble each other.** -/
theorem Alike.resembles (change : Rewording) (around : List Phrase) :
    Resemblance (Alike change around) (Alike change around) where
  kind_eq alike := alike.kind_eq
  written alike := Tree.written_of_children alike.children (fun _ _ part => part.counts_eq)
    fun _ _ part _ => part.kind_eq
  child alike role := alike.child role
  role_eq alike := alike.role_eq
  counts_eq alike := alike.counts_eq
  beside alike _ := alike.kind_eq
  unparenthesized alike := alike.unparenthesized
  identifier alike is := congrArg Tree.text (alike.eq_of_token is nofun)
  word alike _ _ is word := congrArg (Option.map Tree.text) (alike.child_eq is word)
  flags alike is := Judge.isTextPrefixed_eq alike is
  row alike is := Judge.isTextPrefixed_head_eq alike is

namespace Judge

section

variable {first second : Tree} (alike : Alike change around first second)
include alike

/-! ## Functions that return values -/

theorem returnsValue_eq : returnsValue first = returnsValue second := by
  refine any_eq alike.preorder fun one other related => ?_
  rw [related.isPhrase_eq, isEmpty_eq related.namedChildren]

/-! ## Rules on imports and test suites -/

/-! ### A package that is off limits -/

theorem moduleName_eq :
    (moduleName? first).map (computePackage == ·) =
      (moduleName? second).map (computePackage == ·) := by
  have plain : '#' ∉ computePackage := by decide
  rw [moduleName?, moduleName?, alike.isPhrase_eq, alike.isPhrase_eq]
  split
  · rw [Option.map_map, Option.map_map]
    exact map_eq (alike.child .name) fun _ _ name => name.text_beq_eq plain
  · split
    · exact congrArg some (alike.text_beq_eq plain)
    · rfl

theorem importsCompute_eq : importsCompute first = importsCompute second := by
  have tests : ∀ items : List Tree, (items.filterMap moduleName?).contains computePackage =
      (items.filterMap fun item => (moduleName? item).map (computePackage == ·)).any id := by
    intro items
    rw [← List.map_filterMap, List.any_map, List.contains_eq_any_beq]
    rfl
  have named := filterMap_eq alike.namedChildren fun _ _ item => moduleName_eq item
  have module := (Alike.resembles change around).sourceModule alike
  rw [importsCompute, importsCompute, alike.isPhrase_eq, alike.isPhrase_eq, tests, tests, named]
  generalize sourceModule? first = one at module
  generalize sourceModule? second = other at module
  cases module with
  | none => rfl
  | some module => simp only [module.isPrefixOf_eq (by decide : '#' ∉ computePackage)]

theorem noImportLibsigoptCompute_eq :
    noImportLibsigoptCompute first = noImportLibsigoptCompute second := by
  rw [noImportLibsigoptCompute, noImportLibsigoptCompute, importsCompute_eq alike]

/-! ### Test suites -/

theorem forbidTestSuiteInheritance_eq :
    forbidTestSuiteInheritance first = forbidTestSuiteInheritance second := by
  have plain : '#' ∉ suiteClassBeginning := by decide
  rw [forbidTestSuiteInheritance, forbidTestSuiteInheritance, alike.isPhrase_eq]
  split
  · refine bind_eq (alike.child .name) fun name other named => ?_
    rw [named.isPrefixOf_eq plain]
    split
    · refine bind_eq (alike.child .superclasses) fun bases others listed => ?_
      refine map_eq (rel_find_and listed.namedChildren fun _ _ base => ?_)
        fun base other found => ?_
      · rw [base.isToken_eq, base.isPrefixOf_eq plain]
      · obtain ⟨related, passes⟩ := found
        rw [related.eq_of_token (Bool.and_eq_true_iff.mp passes).1 nofun]
    · rfl
  · rfl

/-- The name that an item is bound to is the same on both sides, or it is a dotted name around the
comment. -/
theorem boundName :
    Option.Rel (Quoted change around) (boundName? first) (boundName? second) := by
  rw [boundName?, boundName?, ← alike.isPhrase_eq, ← alike.isPhrase_eq]
  split
  · rename_i aliased
    rw [alike.child_eq aliased rfl]
    cases second.child? .asName with
    | none => exact .none
    | some name => exact .some (.inl rfl)
  · split
    · rename_i dotted
      exact .some (alike.quoted dotted)
    · exact .none

theorem importedNames_quoted :
    Forall₂ (Quoted change around) (importedNames first) (importedNames second) := by
  have bound : ∀ {items others : List Tree}, Forall₂ (Alike change around) items others →
      Forall₂ (Quoted change around) (items.filterMap boundName?) (others.filterMap boundName?) :=
    fun both => List.rel_filterMap (fun _ _ item => boundName item) both
  rw [importedNames, importedNames, alike.isPhrase_eq, alike.isPhrase_eq]
  split
  · exact bound alike.namedChildren
  · split
    · exact bound (List.forall₂_drop 1 alike.namedChildren)
    · exact .nil

theorem forbidImportTestSuite_restated :
    Option.Rel (Restated change around) (forbidImportTestSuite first)
      (forbidImportTestSuite second) := by
  rw [forbidImportTestSuite, forbidImportTestSuite]
  have names := importedNames_quoted alike
  generalize importedNames first = one at names
  generalize importedNames second = other at names
  induction names with
  | nil => exact .none
  | @cons name other _ _ quoted further ih =>
    have beginnings : suiteBeginnings.find? (fun beginning => beginning.isPrefixOf name) =
        suiteBeginnings.find? fun beginning => beginning.isPrefixOf other := by
      simp only [suiteBeginnings, List.find?_cons, List.find?_nil,
        quoted.isPrefixOf_eq (by decide : '#' ∉ "Test".toList),
        quoted.isPrefixOf_eq (by decide : '#' ∉ "test_".toList)]
    rw [List.findSome?_cons, List.findSome?_cons, beginnings]
    cases suiteBeginnings.find? fun beginning => beginning.isPrefixOf other with
    | none => exact ih
    | some beginning =>
      have message := quoted.restated "Importing the test suite "
        (" may cause it to get run twice. " ++ "Imported objects beginning with \x60" ++
          String.ofList beginning ++ "\x60 are interpreted by pytest as test suites.")
      exact .some (by simpa only [String.append_assoc] using message)

end

end Judge

/-- **What a rule says about a node does not depend on how a comment is written**, but for a
message that quotes it. -/
theorem AlikeCursors.check {first second : Cursor} (alike : AlikeCursors change around first second)
    (rule : Rule) : Verdict.Restated change around rule (rule.check first) (rule.check second) := by
  have node := alike.node
  have resembles := Alike.resembles change around
  cases rule with
  | addingStrings => exact .inl (congrArg Verdict.ofMessage (resembles.addingStrings_eq node))
  | avoidDatetimeNow =>
    exact .inl (congrArg Verdict.ofMessage (resembles.avoidDatetimeNow_eq node))
  | forbidImportTestSuite =>
    have messages := Judge.forbidImportTestSuite_restated node
    rw [Rule.check, Rule.check]
    generalize Judge.forbidImportTestSuite first.node = one at messages
    generalize Judge.forbidImportTestSuite second.node = other at messages
    cases messages with
    | none => exact .inl rfl
    | some restated => exact .inr ⟨rfl, _, _, rfl, rfl, restated⟩
  | forbidTestSuiteInheritance =>
    exact .inl (congrArg Verdict.ofMessage (Judge.forbidTestSuiteInheritance_eq node))
  | generatorExpression =>
    exact .inl (congrArg Verdict.ofMessage (resembles.generatorExpression_eq node))
  | noImportLibsigoptCompute =>
    exact .inl (congrArg Verdict.ofMessage (Judge.noImportLibsigoptCompute_eq node))
  | protobufMethods => exact .inl (congrArg Verdict.ofMessage (resembles.protobufMethods_eq node))
  | safeIterator => exact .inl (congrArg Verdict.ofMessage (resembles.safeIterator_eq node))
  | safeRecursive => exact .inl (resembles.safeRecursive_eq node alike.ancestors)
  | safeYield =>
    exact .inl (congrArg Verdict.ofMessage
      (resembles.safeYield_eq (fun function => Judge.returnsValue_eq function) node
        alike.ancestors))
  | setComparison =>
    exact .inl (congrArg Verdict.ofMessage
      (resembles.setComparison_eq (fun call _ => resembles.buildsFrom_eq call) node))
  | trailingComma => exact .inl (congrArg Verdict.ofMessage (resembles.trailingComma_eq node))

end Hygiene.Python
