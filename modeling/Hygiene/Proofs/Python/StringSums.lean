import Hygiene.Proofs.Python.Parts
import Hygiene.Proofs.Python.Verdicts

/-!
# Operations on two string literals

A binary operation is reported when both of its operands are taken for text, whatever its operator
is (`check_addingStrings`). An operand is taken for text by what comes first in it: parentheses by
the first child that counts, a row of strings by the first of them, and a string by the flags in
front of its quotes.

That is the same as to be a text literal inside any number of parentheses, as long as no line
continuation stands in front of what the parentheses enclose and the strings of a row are all of
text or all of bytes (`takenForText_iff`). So a sum of two text literals is reported, but so is
every other operation on them (`remainder_reported`).
-/

set_option autoImplicit false

namespace Hygiene.Python

/-! ## Text literals -/

/-- The flags of a string stand in front of its first quote. -/
structure HasFlags (literal : Tree) (flags : Text) : Prop where
  unquoted : ∀ c ∈ flags, c ≠ '\x27' ∧ c ≠ '\x22'
  quoted : ∃ rest, literal.text = flags ++ rest ∧ ∀ c ∈ rest.head?, c = '\x27' ∨ c = '\x22'

/-- The flags of a string do not make it one of bytes. -/
def TextFlagged (literal : Tree) : Prop :=
  ∃ flags, HasFlags literal flags ∧ 'b' ∉ flags ∧ 'B' ∉ flags

/-- A string literal that is not of bytes, or several of them in a row. -/
inductive TextLiteral : Tree → Prop where
  | string {tree : Tree} (isString : tree.isPhrase .stringLiteral = true)
      (flagged : TextFlagged tree) : TextLiteral tree
  | row {tree : Tree} (isRow : tree.isPhrase .concatenatedString = true) (filled : tree.parts ≠ [])
      (texts : ∀ part ∈ tree.parts, part.isPhrase .stringLiteral = true ∧ TextFlagged part) :
      TextLiteral tree

/-- A tree stands inside any number of parentheses. -/
inductive Encloses : Tree → Tree → Prop where
  | self (tree : Tree) : Encloses tree tree
  | around {outer next inner : Tree}
      (parentheses : outer.isPhrase .parenthesizedExpression = true) (only : outer.parts = [next])
      (further : Encloses next inner) : Encloses outer inner

/-- An operand that is a text literal when its parentheses are taken off. -/
def IsText (operand : Tree) : Prop :=
  ∃ literal, Encloses operand literal ∧ TextLiteral literal

/-! ## What is taken for text -/

/-- A tree is taken for text by what comes first in it. -/
inductive TakenForText : Tree → Prop where
  | string {tree : Tree} (isString : tree.isPhrase .stringLiteral = true)
      (flagged : TextFlagged tree) : TakenForText tree
  | row {tree first : Tree} {others : List Tree}
      (isRow : tree.isPhrase .concatenatedString = true)
      (leads : tree.namedChildren = first :: others) (flagged : TextFlagged first) :
      TakenForText tree
  | around {outer first : Tree} {others : List Tree}
      (parentheses : outer.isPhrase .parenthesizedExpression = true)
      (leads : outer.namedChildren = first :: others) (inside : TakenForText first) :
      TakenForText outer

/-! ## Flags and rows -/

/-- A character that may stand among the flags of a string. -/
def isFlag (c : Char) : Bool :=
  c ≠ '\x27' && c ≠ '\x22'

theorem isFlag_eq_false_iff (c : Char) : isFlag c = false ↔ c = '\x27' ∨ c = '\x22' := by
  rw [isFlag]
  grind

/-- The flags of a string are what stands in front of its first quote. -/
theorem hasFlags_iff (literal : Tree) (flags : Text) :
    HasFlags literal flags ↔ flags = literal.text.takeWhile isFlag := by
  constructor
  · rintro ⟨unquoted, rest, whole, quoted⟩
    have stops : flags.takeWhile isFlag = flags → ∀ c ∈ rest.head?, isFlag c = false :=
      fun _ c leads => (isFlag_eq_false_iff c).mpr (quoted c leads)
    rw [whole, Text.takeWhile_append_of_stops stops, List.takeWhile_eq_self_iff.mpr]
    intro c member
    simpa [isFlag] using unquoted c member
  · rintro rfl
    refine ⟨fun c member => ?_, _, List.takeWhile_append_dropWhile.symm, fun c leads => ?_⟩
    · simpa [isFlag] using List.mem_takeWhile_imp member
    · have stops := List.head?_dropWhile_not isFlag literal.text
      rw [Option.mem_def.mp leads] at stops
      exact (isFlag_eq_false_iff c).mp stops

theorem isTextPrefixed_iff (literal : Tree) :
    Judge.isTextPrefixed literal = true ↔ TextFlagged literal := by
  have cut : Judge.isTextPrefixed literal =
      !(literal.text.takeWhile isFlag).any fun c => c = 'b' || c = 'B' := rfl
  have plain : Judge.isTextPrefixed literal = true ↔
      'b' ∉ literal.text.takeWhile isFlag ∧ 'B' ∉ literal.text.takeWhile isFlag := by
    rw [cut]
    grind
  simp only [plain, TextFlagged, hasFlags_iff, exists_eq_left]

theorem isTextLiteral_iff (tree : Tree) :
    Judge.isTextLiteral tree = true ↔
      (tree.isPhrase .stringLiteral = true ∧ TextFlagged tree) ∨
        (tree.isPhrase .concatenatedString = true ∧
          ∃ first others, tree.namedChildren = first :: others ∧ TextFlagged first) := by
  rw [Judge.isTextLiteral]
  cases isString : tree.isPhrase .stringLiteral with
  | true =>
    have differs : tree.isPhrase .concatenatedString ≠ true := fun isRow => by
      cases Tree.isPhrase_inj isString isRow
    simp [isTextPrefixed_iff, differs]
  | false =>
    cases isRow : tree.isPhrase .concatenatedString with
    | true => cases tree.namedChildren <;> simp [isTextPrefixed_iff]
    | false => simp

section

variable {tree first : Tree} {others : List Tree}

theorem takenForText_around (parentheses : tree.isPhrase .parenthesizedExpression = true)
    (leads : tree.namedChildren = first :: others) :
    TakenForText tree ↔ TakenForText first := by
  constructor
  · intro taken
    cases taken with
    | string isString => cases Tree.isPhrase_inj isString parentheses
    | row isRow => cases Tree.isPhrase_inj isRow parentheses
    | around _ other inside =>
      cases leads.symm.trans other
      exact inside
  · exact .around parentheses leads

theorem takenForText_row (isRow : tree.isPhrase .concatenatedString = true)
    (leads : tree.namedChildren = first :: others) :
    TakenForText tree ↔ TextFlagged first := by
  constructor
  · intro taken
    cases taken with
    | string isString => cases Tree.isPhrase_inj isString isRow
    | row _ other flagged =>
      cases leads.symm.trans other
      exact flagged
    | around parentheses => cases Tree.isPhrase_inj isRow parentheses
  · exact .row isRow leads

theorem isText_around (parentheses : tree.isPhrase .parenthesizedExpression = true)
    (only : tree.parts = [first]) : IsText tree ↔ IsText first := by
  constructor
  · rintro ⟨literal, encloses, text⟩
    cases encloses with
    | self =>
      cases text with
      | string isString => cases Tree.isPhrase_inj isString parentheses
      | row isRow => cases Tree.isPhrase_inj isRow parentheses
    | around _ other further =>
      cases only.symm.trans other
      exact ⟨literal, further, text⟩
  · rintro ⟨literal, encloses, text⟩
    exact ⟨literal, .around parentheses only encloses, text⟩

theorem isText_bare (bare : tree.isPhrase .parenthesizedExpression = false) :
    IsText tree ↔ TextLiteral tree := by
  constructor
  · rintro ⟨literal, encloses, text⟩
    cases encloses with
    | self => exact text
    | around parentheses => cases bare.symm.trans parentheses
  · exact fun text => ⟨tree, .self tree, text⟩

end

/-- A tree that has nothing in parentheses is taken for text when it is judged to be text. -/
theorem takenForText_hollow {tree : Tree}
    (hollow : tree.isPhrase .parenthesizedExpression = true → tree.namedChildren = []) :
    TakenForText tree ↔ Judge.isTextLiteral tree = true := by
  rw [isTextLiteral_iff]
  constructor
  · intro taken
    cases taken with
    | string isString flagged => exact .inl ⟨isString, flagged⟩
    | row isRow leads flagged => exact .inr ⟨isRow, _, _, leads, flagged⟩
    | around parentheses leads => cases leads.symm.trans (hollow parentheses)
  · rintro (⟨isString, flagged⟩ | ⟨isRow, first, others, leads, flagged⟩)
    · exact .string isString flagged
    · exact .row isRow leads flagged

/-- What is inside the parentheses of a tree is judged to be text when the tree is taken for it. -/
theorem isTextLiteral_unparenthesized_iff (tree : Tree) :
    Judge.isTextLiteral tree.unparenthesized = true ↔ TakenForText tree := by
  induction tree using Tree.childInduction with
  | step tree inside =>
    cases parentheses : tree.isPhrase .parenthesizedExpression with
    | true =>
      rw [Tree.unparenthesized_inside tree (of_decide_eq_true parentheses), ← List.head?_filter]
      change Judge.isTextLiteral ((tree.namedChildren.head?.map _).getD tree) = true ↔ _
      cases leads : tree.namedChildren with
      | nil => exact (takenForText_hollow fun _ => leads).symm
      | cons first others =>
        have member : first ∈ tree.children := List.mem_of_mem_filter (leads ▸ List.mem_cons_self)
        exact (inside first member).trans (takenForText_around parentheses leads).symm
    | false =>
      rw [Tree.unparenthesized_self tree (of_decide_eq_false parentheses)]
      exact (takenForText_hollow fun is => by cases parentheses.symm.trans is).symm

/-! ## Operands in the usual form -/

/-- An operand whose parentheses enclose one expression and nothing that counts in front of it,
and whose strings in a row are all of text or all of bytes. -/
inductive Regular : Tree → Prop where
  | around {outer first : Tree} {others : List Tree}
      (parentheses : outer.isPhrase .parenthesizedExpression = true)
      (leads : outer.namedChildren = first :: others) (only : outer.parts = [first])
      (inside : Regular first) : Regular outer
  | row {tree first : Tree} {others : List Tree}
      (isRow : tree.isPhrase .concatenatedString = true)
      (leads : tree.namedChildren = first :: others) (part : first ∈ tree.parts)
      (strings : ∀ part ∈ tree.parts, part.isPhrase .stringLiteral = true)
      (alike : ∀ part ∈ tree.parts, TextFlagged part ↔ TextFlagged first) : Regular tree
  | other {tree : Tree} (bare : tree.isPhrase .parenthesizedExpression = false)
      (noRow : tree.isPhrase .concatenatedString = false) : Regular tree

/-- An operand in the usual form is taken for text when it is a text literal inside any number of
parentheses. -/
theorem takenForText_iff {operand : Tree} (regular : Regular operand) :
    TakenForText operand ↔ IsText operand := by
  induction regular with
  | around parentheses leads only inside ih =>
    rw [takenForText_around parentheses leads, isText_around parentheses only, ih]
  | @row tree first others isRow leads part strings alike =>
    have bare : tree.isPhrase .parenthesizedExpression = false := by
      cases parentheses : tree.isPhrase .parenthesizedExpression with
      | true => cases Tree.isPhrase_inj isRow parentheses
      | false => rfl
    rw [takenForText_row isRow leads, isText_bare bare]
    constructor
    · intro flagged
      exact .row isRow (List.ne_nil_of_mem part) fun string member =>
        ⟨strings string member, (alike string member).mpr flagged⟩
    · intro text
      cases text with
      | string isString => cases Tree.isPhrase_inj isString isRow
      | row _ filled texts => exact (texts first part).2
  | @other tree bare noRow =>
    rw [isText_bare bare]
    constructor
    · intro taken
      cases taken with
      | string isString flagged => exact .string isString flagged
      | row isRow => cases noRow.symm.trans isRow
      | around parentheses => cases bare.symm.trans parentheses
    · intro text
      cases text with
      | string isString flagged => exact .string isString flagged
      | row isRow => cases noRow.symm.trans isRow

/-! ## The rule -/

/-- A binary operation with a left and a right operand of a given form. -/
structure Operation (Operand : Tree → Prop) (tree : Tree) : Prop where
  binary : tree.isPhrase .binaryOperator = true
  left : ∃ operand, tree.child? .left = some operand ∧ Operand operand
  right : ∃ operand, tree.child? .right = some operand ∧ Operand operand

/-- What follows for operands of a given form follows for the operation. -/
theorem Operation.imp {Given One Other : Tree → Prop} {tree : Tree} (given : Operation Given tree)
    (follows : ∀ operand, Given operand → One operand → Other operand)
    (operation : Operation One tree) : Operation Other tree := by
  obtain ⟨binary, ⟨left, isLeft, givenLeft⟩, right, isRight, givenRight⟩ := given
  obtain ⟨-, ⟨_, is, one⟩, _, too, another⟩ := operation
  cases isLeft.symm.trans is
  cases isRight.symm.trans too
  exact ⟨binary, ⟨left, isLeft, follows left givenLeft one⟩,
    right, isRight, follows right givenRight another⟩

theorem isTextIn_iff (tree : Tree) (role : Role) :
    Judge.isTextIn tree role = true ↔
      ∃ operand, tree.child? role = some operand ∧ TakenForText operand := by
  rw [Judge.isTextIn]
  cases tree.child? role with
  | none => simp
  | some operand => simp [isTextLiteral_unparenthesized_iff]

theorem operation_takenForText_iff (tree : Tree) :
    Operation TakenForText tree ↔
      (tree.isPhrase .binaryOperator && Judge.isTextIn tree .left &&
        Judge.isTextIn tree .right) = true := by
  rw [Bool.and_eq_true, Bool.and_eq_true, isTextIn_iff, isTextIn_iff, and_assoc]
  exact ⟨fun ⟨binary, left, right⟩ => ⟨binary, left, right⟩,
    fun ⟨binary, left, right⟩ => ⟨binary, left, right⟩⟩

/-- A sum of two text literals. -/
structure TextSum (tree : Tree) : Prop extends Operation IsText tree where
  adds : Judge.adds tree = true

/-- What is reported about an operation on two strings. -/
def longString : String := "use parenthesis instead of addition for long strings"

/-- **A binary operation is reported when both of its operands are taken for text, whatever its
operator is, and nothing else is.** Where the operands have the usual form, the operations that are
reported are those on two text literals, each in any number of parentheses. Among the sums these
are the sums of two text literals. -/
theorem check_addingStrings (cursor : Cursor) :
    (Rule.addingStrings.check cursor = .violation longString ↔
        Operation TakenForText cursor.node) ∧
      (Rule.addingStrings.check cursor = .clean ↔ ¬ Operation TakenForText cursor.node) ∧
      (Operation Regular cursor.node →
        (Rule.addingStrings.check cursor = .violation longString ↔ Operation IsText cursor.node) ∧
          (Judge.adds cursor.node = true →
            (Rule.addingStrings.check cursor = .violation longString ↔ TextSum cursor.node))) := by
  have verdict : Rule.addingStrings.check cursor = .ofMessage (Judge.addingStrings cursor.node) :=
    rfl
  have reported : Rule.addingStrings.check cursor = .violation longString ↔
      Operation TakenForText cursor.node := by
    rw [verdict, Judge.addingStrings_def, operation_takenForText_iff]
    split <;> simp_all [Verdict.ofMessage, longString]
  have passed : Rule.addingStrings.check cursor = .clean ↔
      ¬ Operation TakenForText cursor.node := by
    rw [verdict, Judge.addingStrings_def, operation_takenForText_iff]
    split <;> simp_all [Verdict.ofMessage]
  refine ⟨reported, passed, fun regular => ?_⟩
  have usual : Rule.addingStrings.check cursor = .violation longString ↔
      Operation IsText cursor.node := by
    refine reported.trans ⟨?_, ?_⟩
    · exact regular.imp fun operand form => (takenForText_iff form).mp
    · exact regular.imp fun operand form => (takenForText_iff form).mpr
  exact ⟨usual, fun adds =>
    usual.trans ⟨fun operation => ⟨operation, adds⟩, TextSum.toOperation⟩⟩

/-- A string literal in double quotes. -/
def stringLiteral (role : Option Role) (column : Nat) (flags content : Text) : Tree :=
  .node (.phrase .stringLiteral) role ⟨0, column⟩ (flags ++ '\x22' :: content ++ ['\x22'])
    [.node (.token .stringStart) none ⟨0, column⟩ (flags ++ ['\x22']) [],
      .node (.phrase .stringContent) none ⟨0, column + flags.length + 1⟩ content [],
      .node (.token .stringEnd) none ⟨0, column + flags.length + content.length + 1⟩ ['\x22'] []]

/-- The sum `("a") + f"b"`. -/
def parenthesizedSum : Tree :=
  .node (.phrase .binaryOperator) none ⟨0, 0⟩ "(\x22a\x22) + f\x22b\x22".toList
    [.node (.phrase .parenthesizedExpression) (some .left) ⟨0, 0⟩ "(\x22a\x22)".toList
        [.node (.token (.mark "(")) none ⟨0, 0⟩ ['('] [], stringLiteral none 1 [] ['a'],
          .node (.token (.mark ")")) none ⟨0, 4⟩ [')'] []],
      .node (.token (.mark "+")) (some .operator) ⟨0, 6⟩ ['+'] [],
      stringLiteral (some .right) 8 ['f'] ['b']]

/-- The operands have the usual form, and since the sum is reported they are text literals. -/
theorem check_addingStrings_parenthesized :
    Operation Regular parenthesizedSum ∧ Operation IsText parenthesizedSum := by
  have regular : Operation Regular parenthesizedSum :=
    ⟨rfl, ⟨_, rfl, .around rfl rfl rfl (.other rfl rfl)⟩, _, rfl, .other rfl rfl⟩
  have usual := ((check_addingStrings (.ofTree parenthesizedSum)).2.2 regular).1
  exact ⟨regular, usual.mp (by decide)⟩

/-- The operation `"a" % "b"`. -/
def remainder : Tree :=
  .node (.phrase .binaryOperator) none ⟨0, 0⟩ "\x22a\x22 % \x22b\x22".toList
    [stringLiteral (some .left) 0 [] ['a'],
      .node (.token (.mark "%")) (some .operator) ⟨0, 4⟩ ['%'] [],
      stringLiteral (some .right) 6 [] ['b']]

/-- The operation is reported although it is no sum. -/
theorem remainder_reported :
    Rule.addingStrings.check (.ofTree remainder) = .violation longString ∧
      ¬ TextSum remainder := by
  exact ⟨by decide, fun sum => absurd sum.adds (by decide)⟩

end Hygiene.Python
