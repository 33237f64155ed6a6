import Hygiene.Proofs.Python.Enclosing
import Hygiene.Proofs.Python.Parts
import Hygiene.Proofs.Python.Verdicts

/-!
# Generators and what they return

A `yield` belongs to the closest function around it. The rule says that this function mixes `yield`
with a value that is returned when such a value is returned anywhere below the function
(`returnsValue_iff`), and otherwise asks for a decorator whose last name is in the list
(`isProtected_iff`).

Climbing from a return statement to its function and walking down from the function do not come to
the same. What is returned below a function is returned by itself or by a function nested inside
it, and the rule counts both (`check_safeYield`). So a generator is reported for a value that only
a function inside it returns (`nestedReturn_reported`).
-/

set_option autoImplicit false

namespace Hygiene.Python

/-! ## Decorators -/

/-- The last name of a decorator, which is a name, an attribute or a call of either. -/
inductive FinalName : Tree → Text → Prop where
  | name {tree : Tree} (is : tree.isToken .identifier = true) : FinalName tree tree.text
  | member {tree member : Tree} (access : tree.isPhrase .attributeAccess = true)
      (named : tree.child? .member = some member) : FinalName tree member.text
  | called {tree function : Tree} {name : Text} (call : tree.isPhrase .call = true)
      (calls : tree.child? .function = some function) (final : FinalName function name) :
      FinalName tree name

theorem decoratorName_eq_some_iff (tree : Tree) (name : Text) :
    Judge.decoratorName? tree = some name ↔ FinalName tree name := by
  induction tree using Tree.childInduction generalizing name with
  | step tree inside =>
    rw [Judge.decoratorName_def]
    constructor
    · intro found
      split at found
      · rename_i access
        obtain ⟨member, named, rfl⟩ := Option.map_eq_some_iff.mp found
        exact .member (decide_eq_true access) named
      · split at found
        · rename_i identifier
          cases found
          exact .name (decide_eq_true identifier)
        · split at found
          · rename_i call
            obtain ⟨function, calls, final⟩ := Option.bind_eq_some_iff.mp found
            have below := List.mem_of_find?_eq_some calls
            exact .called (decide_eq_true call) calls ((inside function below name).mp final)
          · cases found
    · intro final
      cases final with
      | name is =>
        have kind := of_decide_eq_true is
        rw [if_neg (by rw [kind]; exact nofun), if_pos kind]
      | member access named => rw [if_pos (of_decide_eq_true access), named, Option.map_some]
      | called call calls final =>
        have kind := of_decide_eq_true call
        have below := List.mem_of_find?_eq_some calls
        rw [if_neg (by rw [kind]; exact nofun), if_neg (by rw [kind]; exact nofun), if_pos kind,
          calls]
        exact (inside _ below name).mpr final

/-- A function has a decorator with a last name. What comes first in the decorator, comments
apart, is what it applies. -/
inductive DecoratedBy (function : Cursor) (name : Text) : Prop where
  | decorator {definition : Cursor} {decorator expression : Tree} {others : List Tree}
      (above : function.parent? = some definition)
      (decorated : definition.node.isPhrase .decoratedDefinition = true)
      (listed : decorator ∈ definition.node.children)
      (is : decorator.isPhrase .decorator = true)
      (leads : decorator.namedChildren = expression :: others)
      (final : FinalName expression name) : DecoratedBy function name

/-- A function has a decorator for generators. -/
def Protected (function : Cursor) : Prop :=
  ∃ name ∈ Judge.generatorDecorators, DecoratedBy function name

theorem isSafeDecorator_iff (decorator : Tree) :
    Judge.isSafeDecorator decorator = true ↔
      ∃ expression others, decorator.namedChildren = expression :: others ∧
        ∃ name ∈ Judge.generatorDecorators, FinalName expression name := by
  rw [Judge.isSafeDecorator]
  cases decorator.namedChildren with
  | nil => simp
  | cons expression others =>
    simp only [List.cons.injEq, ← decoratorName_eq_some_iff]
    cases found : Judge.decoratorName? expression with
    | none => simp [found]
    | some name => simp [found]

/-- A function is protected when it has a decorator for generators. -/
theorem isProtected_iff (function : Cursor) :
    Judge.isProtected function.ancestors = true ↔ Protected function := by
  obtain ⟨tree, later, above⟩ := function
  cases above with
  | nil =>
    refine ⟨nofun, ?_⟩
    rintro ⟨name, -, ⟨above, -, -, -, -, -⟩⟩
    cases above
  | cons first above =>
    obtain ⟨definition, siblings⟩ := first
    rw [Cursor.ancestors, List.map_cons, Judge.isProtected_cons, Bool.and_eq_true,
      List.any_eq_true]
    constructor
    · rintro ⟨decorated, decorator, listed, passes⟩
      obtain ⟨is, safe⟩ := Bool.and_eq_true_iff.mp passes
      obtain ⟨expression, others, leads, name, known, final⟩ := (isSafeDecorator_iff _).mp safe
      have parent : Cursor.parent? ⟨tree, later, (definition, siblings) :: above⟩ =
          some ⟨definition, siblings, above⟩ := rfl
      exact ⟨name, known, .decorator parent decorated (List.mem_of_mem_filter listed) is leads
        final⟩
    · rintro ⟨name, known, ⟨parent, decorated, listed, is, leads, final⟩⟩
      cases parent
      have counts : Tree.counts _ = true := Tree.counts_of_isPhrase is
      exact ⟨decorated, _, List.mem_filter.mpr ⟨listed, counts⟩, Bool.and_eq_true_iff.mpr
        ⟨is, (isSafeDecorator_iff _).mpr ⟨_, _, leads, name, known, final⟩⟩⟩

/-! ## Values that are returned -/

/-- A return statement with a value, which is what follows the keyword, comments apart. -/
def ReturnsValue (tree : Tree) : Prop :=
  tree.isPhrase .returnStatement = true ∧ tree.namedChildren ≠ []

theorem returnsValue_node_iff (function : Tree) :
    Judge.returnsValue function = true ↔ ∃ tree ∈ function.preorder, ReturnsValue tree := by
  simp [Judge.returnsValue, ReturnsValue]

/-- **A function returns a value when a return statement below it has one.** -/
theorem returnsValue_iff {tree : Tree} {function : Cursor} (stands : function ∈ Cursor.walk tree)
    (is : function.node.isPhrase .functionDefinition = true) :
    Judge.returnsValue function.node = true ↔
      ∃ statement ∈ Cursor.walk tree, ReturnsValue statement.node ∧
        function ∈ statement.around := by
  rw [returnsValue_node_iff,
    ← Cursor.positions_map_node function.node function.later function.above]
  constructor
  · rintro ⟨_, member, returns⟩
    obtain ⟨statement, under, rfl⟩ := List.mem_map.mp member
    obtain ⟨within, rfl | above⟩ := (Cursor.mem_positions_iff stands).mp under
    · cases Tree.isPhrase_inj is returns.1
    · exact ⟨statement, within, returns, above⟩
  · rintro ⟨statement, within, returns, above⟩
    exact ⟨_, List.mem_map_of_mem ((Cursor.mem_positions_iff stands).mpr ⟨within, .inr above⟩),
      returns⟩

/-! ## The rule -/

/-- What is reported about a generator that returns a value. -/
def mixedReturn : String :=
  "Do not mix \x60return value\x60 and \x60yield\x60 in the same function"

/-- What is reported about a generator without a decorator. -/
def undecorated : String :=
  "Functions with \x60yield\x60 should be decorated with a \x60generator_to_X\x60 function"

theorem safeYield_of_closest {cursor function : Cursor}
    (yields : cursor.node.isPhrase .yieldExpression = true)
    (closest : cursor.closest? .functionDefinition = some function) :
    Rule.safeYield.check cursor =
      if Judge.returnsValue function.node then .violation mixedReturn
      else if Judge.isProtected function.ancestors then .clean
      else .violation undecorated := by
  have verdict : Rule.safeYield.check cursor = .ofMessage (Judge.safeYield cursor) := rfl
  rw [verdict, Judge.safeYield, if_pos yields, Cursor.enclosing_eq, closest, Option.map_some,
    Option.bind_some]
  dsimp only
  cases Judge.returnsValue function.node with
  | true => rfl
  | false => cases Judge.isProtected function.ancestors <;> rfl

theorem mixedReturn_ne_undecorated : mixedReturn ≠ undecorated := by decide

theorem safeYield_eq_mixedReturn_iff {cursor function : Cursor}
    (yields : cursor.node.isPhrase .yieldExpression = true)
    (closest : cursor.closest? .functionDefinition = some function) :
    Rule.safeYield.check cursor = .violation mixedReturn ↔
      Judge.returnsValue function.node = true := by
  rw [safeYield_of_closest yields closest]
  split
  · simpa
  · split <;> simp [*, mixedReturn_ne_undecorated.symm]

theorem safeYield_eq_undecorated_iff {cursor function : Cursor}
    (yields : cursor.node.isPhrase .yieldExpression = true)
    (closest : cursor.closest? .functionDefinition = some function) :
    Rule.safeYield.check cursor = .violation undecorated ↔
      ¬ Judge.returnsValue function.node = true ∧
        ¬ Judge.isProtected function.ancestors = true := by
  rw [safeYield_of_closest yields closest]
  split
  · simp [*, mixedReturn_ne_undecorated]
  · split <;> simp [*]

theorem safeYield_eq_clean_iff {cursor function : Cursor}
    (yields : cursor.node.isPhrase .yieldExpression = true)
    (closest : cursor.closest? .functionDefinition = some function) :
    Rule.safeYield.check cursor = .clean ↔
      ¬ Judge.returnsValue function.node = true ∧ Judge.isProtected function.ancestors = true := by
  rw [safeYield_of_closest yields closest]
  split
  · simp [*]
  · split <;> simp [*]

/-- A value is returned by a function or by one that is nested inside it. -/
def ReturnedWithin (tree : Tree) (function : Cursor) : Prop :=
  ∃ statement ∈ Cursor.walk tree, ReturnsValue statement.node ∧
    ∃ owner, statement.closest? .functionDefinition = some owner ∧
      (owner = function ∨ function ∈ owner.around)

/-- A value is returned by a function itself. -/
def ReturnedBy (tree : Tree) (function : Cursor) : Prop :=
  ∃ statement ∈ Cursor.walk tree, ReturnsValue statement.node ∧
    statement.closest? .functionDefinition = some function

/-- A function that is nested inside another one returns a value. -/
def ReturnedFromInside (tree : Tree) (function : Cursor) : Prop :=
  ∃ statement ∈ Cursor.walk tree, ReturnsValue statement.node ∧
    ∃ owner, statement.closest? .functionDefinition = some owner ∧ function ∈ owner.around

theorem returnedWithin_iff {tree : Tree} {function : Cursor} :
    ReturnedWithin tree function ↔ ReturnedBy tree function ∨ ReturnedFromInside tree function := by
  constructor
  · rintro ⟨statement, within, value, owner, owns, rfl | beyond⟩
    · exact .inl ⟨statement, within, value, owns⟩
    · exact .inr ⟨statement, within, value, owner, owns, beyond⟩
  · rintro (⟨statement, within, value, owns⟩ | ⟨statement, within, value, owner, owns, beyond⟩)
    · exact ⟨statement, within, value, function, owns, .inl rfl⟩
    · exact ⟨statement, within, value, owner, owns, .inr beyond⟩

theorem returnsValue_iff_returnedWithin {tree : Tree} {function : Cursor}
    (stands : function ∈ Cursor.walk tree)
    (is : function.node.isPhrase .functionDefinition = true) :
    Judge.returnsValue function.node = true ↔ ReturnedWithin tree function :=
  (returnsValue_iff stands is).trans (exists_congr fun _ => and_congr_right fun _ =>
    and_congr_right fun _ => Cursor.mem_around_iff_closest is)

/-- **A generator is reported for a value that it returns or that a function nested inside it
returns**, and otherwise for want of a decorator. Where no function inside it returns a value, this
is about the values that it returns itself. -/
theorem check_safeYield {tree : Tree} {cursor : Cursor} (stands : cursor ∈ Cursor.walk tree)
    (yields : cursor.node.isPhrase .yieldExpression = true) :
    (cursor.closest? .functionDefinition = none → Rule.safeYield.check cursor = .clean) ∧
      ∀ function, cursor.closest? .functionDefinition = some function →
        (Rule.safeYield.check cursor = .violation mixedReturn ↔ ReturnedWithin tree function) ∧
          (Rule.safeYield.check cursor = .violation undecorated ↔
            ¬ ReturnedWithin tree function ∧ ¬ Protected function) ∧
          (Rule.safeYield.check cursor = .clean ↔
            ¬ ReturnedWithin tree function ∧ Protected function) ∧
          (¬ ReturnedFromInside tree function →
            (ReturnedWithin tree function ↔ ReturnedBy tree function)) := by
  constructor
  · intro none
    have verdict : Rule.safeYield.check cursor = .ofMessage (Judge.safeYield cursor) := rfl
    rw [verdict, Judge.safeYield, if_pos yields, Cursor.enclosing_eq, none]
    rfl
  · intro function closest
    have is := (Cursor.closest_eq_some_iff.mp closest).1
    have inside := Cursor.mem_walk_of_around stands (List.mem_of_find?_eq_some closest)
    have returns := returnsValue_iff_returnedWithin inside is
    refine ⟨(safeYield_eq_mixedReturn_iff yields closest).trans returns, ?_, ?_, fun alone => ?_⟩
    · rw [safeYield_eq_undecorated_iff yields closest, returns, isProtected_iff]
    · rw [safeYield_eq_clean_iff yields closest, returns, isProtected_iff]
    · rw [returnedWithin_iff, or_iff_left alone]

/-- A return statement at the start of a line that is indented by four columns. -/
def innerReturn (text : String) (values : List Tree) : Tree :=
  .node (.phrase .returnStatement) none ⟨3, 4⟩ text.toList (Tree.mark ⟨3, 4⟩ "return" :: values)

/-- The parameters `()`. -/
def noParameters (line column : Nat) : Tree :=
  .node (.phrase .parameters) (some .parameters) ⟨line, column⟩ "()".toList
    [Tree.mark ⟨line, column⟩ "(", Tree.mark ⟨line, column + 1⟩ ")"]

/-- A function `g` whose body is a return statement. -/
def innerFunction (text : String) (values : List Tree) : Tree :=
  .node (.phrase .functionDefinition) none ⟨2, 2⟩ ("def g():\n    " ++ text).toList
    [Tree.mark ⟨2, 2⟩ "def", Tree.word (some .name) ⟨2, 6⟩ ['g'], noParameters 2 7,
      Tree.mark ⟨2, 9⟩ ":",
      .node (.phrase .block) (some .body) ⟨3, 4⟩ text.toList [innerReturn text values]]

/-- The expression `yield g`. -/
def yieldInner : Tree :=
  .node (.phrase .yieldExpression) none ⟨4, 2⟩ "yield g".toList
    [Tree.mark ⟨4, 2⟩ "yield", Tree.word none ⟨4, 8⟩ ['g']]

/-- The statement `yield g`. -/
def yieldStatement : Tree :=
  .node (.phrase .expressionStatement) none ⟨4, 2⟩ "yield g".toList [yieldInner]

/-- The body of a function that defines `g` and yields it. -/
def outerBody (text : String) (values : List Tree) : Tree :=
  .node (.phrase .block) (some .body) ⟨2, 2⟩
    ("def g():\n    " ++ text ++ "\n  yield g").toList
    [innerFunction text values, yieldStatement]

/-- A function `f` that defines `g` and yields it. -/
def outerFunction (text : String) (values : List Tree) : Tree :=
  .node (.phrase .functionDefinition) (some .definition) ⟨1, 0⟩
    ("def f():\n  def g():\n    " ++ text ++ "\n  yield g").toList
    [Tree.mark ⟨1, 0⟩ "def", Tree.word (some .name) ⟨1, 4⟩ ['f'], noParameters 1 5,
      Tree.mark ⟨1, 7⟩ ":",
      outerBody text values]

/-- The decorator `@contextmanager`. -/
def contextManager : Tree :=
  .node (.phrase .decorator) none ⟨0, 0⟩ "@contextmanager".toList
    [Tree.mark ⟨0, 0⟩ "@", Tree.word none ⟨0, 1⟩ "contextmanager".toList]

/-- The function `f` with its decorator. -/
def decoratedOuter (text : String) (values : List Tree) : Tree :=
  .node (.phrase .decoratedDefinition) none ⟨0, 0⟩
    ("@contextmanager\ndef f():\n  def g():\n    " ++ text ++ "\n  yield g").toList
    [contextManager, outerFunction text values]

/-- Where `f` stands. -/
def outerPlace (text : String) (values : List Tree) : Cursor :=
  ⟨outerFunction text values, [], [(decoratedOuter text values, [])]⟩

/-- Where `f` yields. -/
def yieldPlace (text : String) (values : List Tree) : Cursor :=
  ⟨yieldInner, [], [(yieldStatement, []), (outerBody text values, []),
    (outerFunction text values, []), (decoratedOuter text values, [])]⟩

/-- A generator with a decorator is clean when nothing below it returns a value. -/
theorem check_safeYield_bareInside :
    yieldPlace "return" [] ∈ Cursor.walk (decoratedOuter "return" []) ∧
      (yieldPlace "return" []).closest? .functionDefinition = some (outerPlace "return" []) ∧
      Rule.safeYield.check (yieldPlace "return" []) = .clean := by
  have stands : yieldPlace "return" [] ∈ Cursor.walk (decoratedOuter "return" []) :=
    List.mem_of_getElem? (i := 23) rfl
  have inside : outerPlace "return" [] ∈ Cursor.walk (decoratedOuter "return" []) :=
    List.mem_of_getElem? (i := 4) rfl
  have nothing : ¬ ReturnedWithin (decoratedOuter "return" []) (outerPlace "return" []) :=
    fun returned => nomatch (returnsValue_iff_returnedWithin inside rfl).mpr returned
  have protects : Protected (outerPlace "return" []) := (isProtected_iff _).mp rfl
  exact ⟨stands, rfl, ((check_safeYield stands rfl).2 _ rfl).2.2.1.mpr ⟨nothing, protects⟩⟩

/-- The value `1`. -/
def returnedOne : Tree :=
  .node (.token .integer) none ⟨3, 11⟩ ['1'] []

/-- The generator returns no value and has its decorator, and is reported. -/
theorem nestedReturn_reported :
    yieldPlace "return 1" [returnedOne] ∈ Cursor.walk (decoratedOuter "return 1" [returnedOne]) ∧
      (yieldPlace "return 1" [returnedOne]).closest? .functionDefinition =
        some (outerPlace "return 1" [returnedOne]) ∧
      ¬ ReturnedBy (decoratedOuter "return 1" [returnedOne])
        (outerPlace "return 1" [returnedOne]) ∧
      Rule.safeYield.check (yieldPlace "return 1" [returnedOne]) = .violation mixedReturn := by
  have elsewhere : ∀ statement ∈ Cursor.walk (decoratedOuter "return 1" [returnedOne]),
      statement.node.isPhrase .returnStatement = true →
        (statement.closest? .functionDefinition).map (fun owner => owner.node.start) ≠
          some ⟨1, 0⟩ := by
    decide
  refine ⟨List.mem_of_getElem? (i := 24) rfl, rfl, ?_, rfl⟩
  rintro ⟨statement, within, value, owns⟩
  exact elsewhere statement within value.1 (by rw [owns]; rfl)

end Hygiene.Python
