import Mathlib.Data.List.DropRight
import Mathlib.Tactic.MkIffOfInductiveProp
import Hygiene.Python.Lint
import Hygiene.Proofs.Python.Enclosing
import Hygiene.Proofs.Python.Parts

/-!
# Arguments of recursive calls

A recursion is a plain call of the closest function around it by its own name. It is refused when
the function collects arguments or has parameters that are passed by name only, and otherwise it is
reported when it does not pass as many arguments as the function has ordinary parameters behind its
last slash (`check_safeRecursive`).

The parameters are counted in one pass, in which a slash starts anew and a star leads all further
ones to another count. What the counts say about the parameters that were passed is kept by every
parameter (`Tallied.add`), whatever the order of the kinds.

The pass takes all children of the list that count. These are the parameters, unless a line is
continued inside the list, since line continuations count as well: a call that passes everything is
then reported (`brokenList_reported`).
-/

set_option autoImplicit false

open scoped List

namespace Hygiene.Python

/-! ## Lists of parameters -/

/-- The kinds of what stands in a list of parameters. -/
inductive ParameterSort where
  /-- A parameter with or without a default and a declared type. -/
  | ordinary
  /-- A parameter that collects what is passed by position. -/
  | rest
  /-- A parameter that collects what is passed by name. -/
  | namedRest
  | star
  | slash
  deriving DecidableEq

/-- What a parameter is without its declared type. -/
def undeclared (parameter : Tree) : Tree :=
  if parameter.isPhrase .typedParameter then parameter.namedChildren.headD parameter
  else parameter

/-- The kind of a parameter. -/
def sortOf (parameter : Tree) : ParameterSort :=
  if (undeclared parameter).isPhrase .listSplatPattern then .rest
  else if (undeclared parameter).isPhrase .dictionarySplatPattern then .namedRest
  else if (undeclared parameter).isPhrase .keywordSeparator then .star
  else if (undeclared parameter).isPhrase .positionalSeparator then .slash
  else .ordinary

/-- Some parameter is of a kind. -/
def Has (sort : ParameterSort) (parameters : List Tree) : Prop :=
  ∃ parameter ∈ parameters, sortOf parameter = sort

/-- Some ordinary parameter stands behind one of a kind. -/
def HasBehind (sort : ParameterSort) (parameters : List Tree) : Prop :=
  ∃ mark parameter, [mark, parameter] <+ parameters ∧ sortOf mark = sort ∧
    sortOf parameter = .ordinary

/-- The number of ordinary parameters behind the last slash, or of all of them when there is no
slash. -/
def positionalCount (parameters : List Tree) : Nat :=
  (parameters.rtakeWhile fun parameter => sortOf parameter ≠ .slash).countP
    fun parameter => sortOf parameter = .ordinary

/-! ## The pass over the parameters -/

theorem has_nil (sort : ParameterSort) : ¬ Has sort [] := by
  simp [Has]

theorem has_concat {sort : ParameterSort} {parameters : List Tree} {parameter : Tree} :
    Has sort (parameters ++ [parameter]) ↔ Has sort parameters ∨ sortOf parameter = sort := by
  simp [Has, or_and_right, exists_or]

theorem pair_sublist_concat {α : Type} {first second last : α} {items : List α} :
    [first, second] <+ items ++ [last] ↔
      [first, second] <+ items ∨ first ∈ items ∧ second = last := by
  rw [← List.reverse_sublist, List.reverse_append, List.reverse_singleton, List.singleton_append,
    List.reverse_cons, List.reverse_singleton, List.singleton_append]
  constructor
  · intro inside
    cases inside with
    | cons _ further =>
      exact .inl (List.reverse_sublist.mp (by simpa using further))
    | cons_cons _ further => exact .inr ⟨by simpa using further, rfl⟩
  · rintro (within | ⟨member, rfl⟩)
    · exact .cons _ (by simpa using List.reverse_sublist.mpr within)
    · exact .cons_cons _ (by simpa using member)

theorem hasBehind_nil (sort : ParameterSort) : ¬ HasBehind sort [] := by
  simp [HasBehind]

theorem hasBehind_concat {sort : ParameterSort} {parameters : List Tree} {parameter : Tree} :
    HasBehind sort (parameters ++ [parameter]) ↔
      HasBehind sort parameters ∨ Has sort parameters ∧ sortOf parameter = .ordinary := by
  constructor
  · rintro ⟨mark, other, inside, is, ordinary⟩
    rcases pair_sublist_concat.mp inside with within | ⟨member, rfl⟩
    · exact .inl ⟨mark, other, within, is, ordinary⟩
    · exact .inr ⟨⟨mark, member, is⟩, ordinary⟩
  · rintro (⟨mark, other, within, is, ordinary⟩ | ⟨⟨mark, member, is⟩, ordinary⟩)
    · exact ⟨mark, other, pair_sublist_concat.mpr (.inl within), is, ordinary⟩
    · exact ⟨mark, parameter, pair_sublist_concat.mpr (.inr ⟨member, rfl⟩), is, ordinary⟩

theorem positionalCount_slash (parameters : List Tree) {parameter : Tree}
    (slash : sortOf parameter = .slash) : positionalCount (parameters ++ [parameter]) = 0 := by
  rw [positionalCount, List.rtakeWhile_concat_neg _ _ _ (by simp [slash]), List.countP_nil]

theorem positionalCount_ordinary (parameters : List Tree) {parameter : Tree}
    (ordinary : sortOf parameter = .ordinary) :
    positionalCount (parameters ++ [parameter]) = positionalCount parameters + 1 := by
  rw [positionalCount, List.rtakeWhile_concat_pos _ _ _ (by simp [ordinary]), List.countP_append,
    List.countP_singleton, positionalCount, if_pos (by simp [ordinary])]

theorem positionalCount_other (parameters : List Tree) {parameter : Tree}
    (noSlash : sortOf parameter ≠ .slash) (other : sortOf parameter ≠ .ordinary) :
    positionalCount (parameters ++ [parameter]) = positionalCount parameters := by
  rw [positionalCount, List.rtakeWhile_concat_pos _ _ _ (by simp [noSlash]), List.countP_append,
    List.countP_singleton, positionalCount, if_neg (by simp [other]), Nat.add_zero]

/-- The kind of a parameter by the kind of what is left without its declared type. -/
def sortOfKind : Kind → ParameterSort
  | .phrase .listSplatPattern => .rest
  | .phrase .dictionarySplatPattern => .namedRest
  | .phrase .keywordSeparator => .star
  | .phrase .positionalSeparator => .slash
  | _ => .ordinary

theorem sortOf_eq (parameter : Tree) :
    sortOf parameter = sortOfKind (Judge.parameterKind parameter) := by
  have kind : ∀ phrase, (undeclared parameter).isPhrase phrase =
      decide (Judge.parameterKind parameter = .phrase phrase) ∨
        phrase = .typedParameter := by
    intro phrase
    rw [undeclared, Judge.parameterKind]
    cases typed : parameter.isPhrase .typedParameter with
    | false => exact .inl rfl
    | true =>
      cases parameter.namedChildren with
      | cons subject others => exact .inl rfl
      | nil =>
        by_cases same : phrase = .typedParameter
        · exact .inr same
        · refine .inl ?_
          rw [Tree.isPhrase, decide_eq_true_eq] at typed
          simp [Tree.isPhrase, typed, Ne.symm same]
  rw [sortOf, (kind .listSplatPattern).resolve_right (by decide),
    (kind .dictionarySplatPattern).resolve_right (by decide),
    (kind .keywordSeparator).resolve_right (by decide),
    (kind .positionalSeparator).resolve_right (by decide)]
  cases Judge.parameterKind parameter with
  | token token => rfl
  | phrase phrase => cases phrase <;> rfl

/-- The counts after a parameter of a kind. -/
def counted (signature : Judge.Signature) (afterStar : Bool) :
    ParameterSort → Judge.Signature × Bool
  | .rest => ({ signature with collectsPositional := true }, true)
  | .namedRest => ({ signature with collectsNamed := true }, afterStar)
  | .star => (signature, true)
  | .slash => ({ signature with positional := 0 }, afterStar)
  | .ordinary =>
    if afterStar then ({ signature with namedOnly := signature.namedOnly + 1 }, true)
    else ({ signature with positional := signature.positional + 1 }, false)

/-- What a parameter adds to the counts depends on its kind only. -/
theorem add_eq (signature : Judge.Signature) (afterStar : Bool) (parameter : Tree) :
    Judge.Signature.add (signature, afterStar) parameter =
      counted signature afterStar (sortOf parameter) := by
  rw [sortOf_eq]
  unfold Judge.Signature.add
  dsimp only
  cases Judge.parameterKind parameter with
  | token token => rfl
  | phrase phrase => cases phrase <;> rfl

/-- What the counts say about the parameters that were passed. -/
structure Tallied (parameters : List Tree) (signature : Judge.Signature) (afterStar : Bool) :
    Prop where
  rest : signature.collectsPositional = true ↔ Has .rest parameters
  namedRest : signature.collectsNamed = true ↔ Has .namedRest parameters
  star : afterStar = true ↔ Has .star parameters ∨ Has .rest parameters
  namedOnly : 0 < signature.namedOnly ↔ HasBehind .star parameters ∨ HasBehind .rest parameters
  /-- Behind a star, ordinary parameters are not counted as positional any more. -/
  positional : signature.namedOnly = 0 → signature.positional = positionalCount parameters

theorem Tallied.nil : Tallied [] ⟨0, false, false, 0⟩ false where
  rest := by simp [has_nil]
  namedRest := by simp [has_nil]
  star := by simp [has_nil]
  namedOnly := by simp [hasBehind_nil]
  positional _ := rfl

/-- **Every parameter keeps what the counts say.** -/
theorem Tallied.add {parameters : List Tree} {signature : Judge.Signature} {afterStar : Bool}
    (tallied : Tallied parameters signature afterStar) (parameter : Tree) :
    Tallied (parameters ++ [parameter]) (Judge.Signature.add (signature, afterStar) parameter).1
      (Judge.Signature.add (signature, afterStar) parameter).2 := by
  obtain ⟨rest, namedRest, star, namedOnly, positional⟩ := tallied
  rw [add_eq]
  constructor
  case rest =>
    rw [has_concat, ← rest]
    cases sortOf parameter <;> cases afterStar <;> simp [counted]
  case namedRest =>
    rw [has_concat, ← namedRest]
    cases sortOf parameter <;> cases afterStar <;> simp [counted]
  case star =>
    rw [has_concat, has_concat, or_or_or_comm, ← star]
    cases sortOf parameter <;> cases afterStar <;> simp [counted]
  case namedOnly =>
    rw [hasBehind_concat, hasBehind_concat, or_or_or_comm, ← or_and_right, ← star, ← namedOnly]
    cases sortOf parameter <;> cases afterStar <;> simp [counted]
  case positional =>
    cases sort : sortOf parameter with
    | slash => exact fun _ => (positionalCount_slash parameters sort).symm
    | ordinary =>
      rw [positionalCount_ordinary parameters sort]
      cases afterStar with
      | true => exact fun none => nomatch none
      | false => exact fun none => congrArg (· + 1) (positional none)
    | _ =>
      rw [positionalCount_other parameters (by simp [sort]) (by simp [sort])]
      exact positional

/-- **The counts of a list say what its parameters are.** -/
theorem tallied_foldl (parameters : List Tree) :
    Tallied parameters (parameters.foldl Judge.Signature.add (⟨0, false, false, 0⟩, false)).1
      (parameters.foldl Judge.Signature.add (⟨0, false, false, 0⟩, false)).2 := by
  induction parameters using List.reverseRecOn with
  | nil => exact .nil
  | append_singleton parameters parameter ih =>
    rw [List.foldl_concat]
    exact ih.add parameter

/-! ## The rule -/

/-- A plain call of the closest function around it by its own name. -/
structure Recursion (cursor function : Cursor) : Prop where
  closest : cursor.closest? .functionDefinition = some function
  calls : ∃ name, cursor.node.calledName? = some name ∧
    (function.node.child? .name).map Tree.text = some name

/-- The parameters of a function that can be called recursively: none that collects what is passed,
and none that is passed by name only. -/
@[mk_iff]
structure Supported (parameters : List Tree) : Prop where
  noRest : ¬ Has .rest parameters
  noNamedRest : ¬ Has .namedRest parameters
  noNamedOnly : ¬ HasBehind .star parameters

/-- What is reported about a recursion that leaves arguments out. -/
def missingArguments : String :=
  "Recursive call appears to be missing arguments. " ++
    "Specify all arguments for recursive calls."

/-- What is said of a recursion that passes a number of arguments to a function. -/
structure Judged (parameters : List Tree) (passed : Nat) (verdict : Verdict) : Prop where
  rest : verdict = .unsupported "Linting for recursive calls with *args is not supported" ↔
    Has .rest parameters
  namedRest : verdict = .unsupported "Linting for recursive calls with **kwargs is not supported" ↔
    ¬ Has .rest parameters ∧ Has .namedRest parameters
  namedOnly :
    verdict = .unsupported "Linting for recursive calls with keyword-only args is not supported" ↔
      ¬ Has .rest parameters ∧ ¬ Has .namedRest parameters ∧ HasBehind .star parameters
  missing : verdict = .violation missingArguments ↔
    Supported parameters ∧ passed ≠ positionalCount parameters
  complete : verdict = .clean ↔ Supported parameters ∧ passed = positionalCount parameters

/-- An ordinary parameter behind a collecting one needs the collecting one. -/
theorem HasBehind.has {sort : ParameterSort} {parameters : List Tree}
    (behind : HasBehind sort parameters) : Has sort parameters := by
  obtain ⟨mark, parameter, inside, is, -⟩ := behind
  exact ⟨mark, inside.subset List.mem_cons_self, is⟩

theorem Tallied.judged {parameters : List Tree} {signature : Judge.Signature} {afterStar : Bool}
    (tallied : Tallied parameters signature afterStar) (passed : Nat) :
    Judged parameters passed (Judge.judgeRecursion signature passed) := by
  obtain ⟨rest, namedRest, -, namedOnly, positional⟩ := tallied
  rw [Judge.judgeRecursion]
  by_cases collects : signature.collectsPositional = true
  · have has := rest.mp collects
    rw [if_pos collects]
    constructor <;> simp [supported_iff, has]
  · have noRest := mt rest.mpr collects
    rw [if_neg collects]
    by_cases collectsNamed : signature.collectsNamed = true
    · have has := namedRest.mp collectsNamed
      rw [if_pos collectsNamed]
      constructor <;> simp [supported_iff, noRest, has]
    · have noNamedRest := mt namedRest.mpr collectsNamed
      have behind : 0 < signature.namedOnly ↔ HasBehind .star parameters := by
        rw [namedOnly, or_iff_left fun behind => noRest behind.has]
      rw [if_neg collectsNamed]
      by_cases only : 0 < signature.namedOnly
      · have has := behind.mp only
        rw [if_pos only]
        constructor <;> simp [supported_iff, noRest, noNamedRest, has]
      · have supported : Supported parameters := ⟨noRest, noNamedRest, mt behind.mpr only⟩
        rw [if_neg only, positional (Nat.eq_zero_of_not_pos only)]
        by_cases all : passed = positionalCount parameters
        · rw [if_pos all]
          constructor <;> simp [supported, supported.noRest, supported.noNamedRest,
            supported.noNamedOnly, all]
        · rw [if_neg all]
          change Judged parameters passed (.violation missingArguments)
          constructor <;> simp [supported, supported.noRest, supported.noNamedRest,
            supported.noNamedOnly, all]

theorem judged_ofParameters (parameters : Tree) (passed : Nat) :
    Judged parameters.namedChildren passed
      (Judge.judgeRecursion (Judge.Signature.ofParameters parameters) passed) :=
  (tallied_foldl parameters.namedChildren).judged passed

/-- The arguments of a call. A generator can stand alone, and it is one argument then. -/
def argumentsOf (call : Tree) : List Tree :=
  match call.child? .arguments with
  | some arguments =>
    if arguments.isPhrase .generatorExpression then [arguments] else arguments.parts
  | none => []

theorem argumentCount_eq_length {call : Tree}
    (unbroken : ∀ arguments, call.child? .arguments = some arguments → arguments.Unbroken) :
    Judge.argumentCount call = (argumentsOf call).length := by
  rw [Judge.argumentCount, argumentsOf]
  cases listed : call.child? .arguments with
  | none => rfl
  | some arguments =>
    have whole := Tree.namedChildren_eq_parts (unbroken arguments listed)
    simp only [← whole, apply_ite List.length, List.length_singleton]

theorem safeRecursive_of_recursion {cursor function : Cursor} {parameters : Tree}
    (recursion : Recursion cursor function)
    (listed : function.node.child? .parameters = some parameters) :
    Rule.safeRecursive.check cursor =
      Judge.judgeRecursion (Judge.Signature.ofParameters parameters)
        (Judge.argumentCount cursor.node) := by
  obtain ⟨closest, name, called, own⟩ := recursion
  have verdict : Rule.safeRecursive.check cursor = Judge.safeRecursive cursor := rfl
  simp only [verdict, Judge.safeRecursive, called, Cursor.enclosing_eq, closest, Option.map_some,
    own, listed, if_true]

theorem safeRecursive_of_not_recursion {cursor : Cursor}
    (other : ∀ function, ¬ Recursion cursor function) :
    Rule.safeRecursive.check cursor = .clean := by
  have verdict : Rule.safeRecursive.check cursor = Judge.safeRecursive cursor := rfl
  rw [verdict, Judge.safeRecursive, Cursor.enclosing_eq]
  cases called : cursor.node.calledName? with
  | none => rfl
  | some name =>
    cases closest : cursor.closest? .functionDefinition with
    | none => rfl
    | some function =>
      have differs : (function.node.child? .name).map Tree.text ≠ some name := fun own =>
        other function ⟨closest, name, called, own⟩
      simp only [Option.map_some, if_neg differs]

/-- **A recursion is judged by the kinds of the parameters of its function.** The children that
count in the lists of parameters and arguments decide, and where no line is continued inside the
lists these are the parameters and the arguments. Other calls are never reported, such as a call in
a function of another name inside the one that is called. -/
theorem check_safeRecursive (cursor : Cursor) :
    (∀ function parameters, Recursion cursor function →
        function.node.child? .parameters = some parameters →
        Judged parameters.namedChildren (Judge.argumentCount cursor.node)
            (Rule.safeRecursive.check cursor) ∧
          (parameters.Unbroken →
            (∀ arguments, cursor.node.child? .arguments = some arguments → arguments.Unbroken) →
            Judged parameters.parts (argumentsOf cursor.node).length
              (Rule.safeRecursive.check cursor))) ∧
      ((∀ function, ¬ Recursion cursor function) → Rule.safeRecursive.check cursor = .clean) := by
  refine ⟨fun function parameters recursion listed => ?_, safeRecursive_of_not_recursion⟩
  rw [safeRecursive_of_recursion recursion listed]
  refine ⟨judged_ofParameters parameters _, fun unbroken whole => ?_⟩
  rw [argumentCount_eq_length whole, ← Tree.namedChildren_eq_parts unbroken]
  exact judged_ofParameters parameters _

/-! ## Two functions -/

/-- The call `f…` with a list of arguments. -/
def selfCall (line : Nat) (arguments : Tree) : Tree :=
  .node (.phrase .call) none ⟨line, 9⟩ ('f' :: arguments.text)
    [Tree.word (some .function) ⟨line, 9⟩ ['f'], arguments]

/-- The statement `return f…`. -/
def selfReturn (line : Nat) (arguments : Tree) : Tree :=
  .node (.phrase .returnStatement) none ⟨line, 2⟩ ("return f".toList ++ arguments.text)
    [Tree.mark ⟨line, 2⟩ "return", selfCall line arguments]

/-- The block with this statement only. -/
def selfBlock (line : Nat) (arguments : Tree) : Tree :=
  .node (.phrase .block) (some .body) ⟨line, 2⟩ ("return f".toList ++ arguments.text)
    [selfReturn line arguments]

/-- The function `def f…:` that returns `f…`, with its body on the line below the colon. -/
def selfFunction (colon : Position) (parameters arguments : Tree) : Tree :=
  .node (.phrase .functionDefinition) none ⟨0, 0⟩
    ("def f".toList ++ parameters.text ++ ":\n  return f".toList ++ arguments.text)
    [Tree.mark ⟨0, 0⟩ "def", Tree.word (some .name) ⟨0, 4⟩ ['f'], parameters,
      Tree.mark colon ":", selfBlock (colon.line + 1) arguments]

/-- The call in the function. -/
def selfCursor (colon : Position) (parameters arguments : Tree) : Cursor :=
  ⟨selfCall (colon.line + 1) arguments, [],
    [(selfReturn (colon.line + 1) arguments, []), (selfBlock (colon.line + 1) arguments, []),
      (selfFunction colon parameters arguments, [])]⟩

theorem recursion_selfCursor (colon : Position) (parameters arguments : Tree) :
    Recursion (selfCursor colon parameters arguments)
      ⟨selfFunction colon parameters arguments, [], []⟩ :=
  ⟨rfl, ['f'], rfl, rfl⟩

/-- Parameters without a star and none that collects what is passed can be called. -/
theorem supported_of_plain {parameters : List Tree}
    (plain : ∀ parameter ∈ parameters,
      sortOf parameter = .ordinary ∨ sortOf parameter = .slash) : Supported parameters := by
  have none : ∀ sort, sort ≠ .ordinary → sort ≠ .slash → ¬ Has sort parameters := by
    rintro sort noParameter noSlash ⟨parameter, member, rfl⟩
    exact (plain parameter member).elim noParameter noSlash
  exact ⟨none .rest nofun nofun, none .namedRest nofun nofun,
    fun behind => none .star nofun nofun behind.has⟩

/-- The parameters `(a, /, b: int, c=1)`. -/
def slashParameters : Tree :=
  .node (.phrase .parameters) (some .parameters) ⟨0, 5⟩ "(a, /, b: int, c=1)".toList
    [Tree.mark ⟨0, 5⟩ "(", Tree.word none ⟨0, 6⟩ ['a'], Tree.mark ⟨0, 7⟩ ",",
      .node (.phrase .positionalSeparator) none ⟨0, 9⟩ ['/'] [Tree.mark ⟨0, 9⟩ "/"],
      Tree.mark ⟨0, 10⟩ ",",
      .node (.phrase .typedParameter) none ⟨0, 12⟩ "b: int".toList
        [Tree.word none ⟨0, 12⟩ ['b'], Tree.mark ⟨0, 13⟩ ":",
          .node (.phrase .typeExpression) (some .declaredType) ⟨0, 15⟩ "int".toList
            [Tree.word none ⟨0, 15⟩ "int".toList]],
      Tree.mark ⟨0, 18⟩ ",",
      .node (.phrase .defaultParameter) none ⟨0, 20⟩ "c=1".toList
        [Tree.word (some .name) ⟨0, 20⟩ ['c'], Tree.mark ⟨0, 21⟩ "=",
          .node (.token .integer) (some .value) ⟨0, 22⟩ ['1'] []],
      Tree.mark ⟨0, 23⟩ ")"]

/-- The arguments `(b)`. -/
def oneArgument : Tree :=
  .node (.phrase .argumentList) (some .arguments) ⟨1, 10⟩ "(b)".toList
    [Tree.mark ⟨1, 10⟩ "(", Tree.word none ⟨1, 11⟩ ['b'], Tree.mark ⟨1, 12⟩ ")"]

/-- Two parameters stand behind the slash and one argument is passed, so the call is reported. -/
theorem check_safeRecursive_behindSlash :
    Recursion (selfCursor ⟨0, 24⟩ slashParameters oneArgument)
        ⟨selfFunction ⟨0, 24⟩ slashParameters oneArgument, [], []⟩ ∧
      Rule.safeRecursive.check (selfCursor ⟨0, 24⟩ slashParameters oneArgument) =
        .violation missingArguments := by
  have recursion := recursion_selfCursor ⟨0, 24⟩ slashParameters oneArgument
  have judged := ((check_safeRecursive _).1 _ slashParameters recursion rfl).1
  have supported : Supported slashParameters.namedChildren := supported_of_plain (by decide)
  exact ⟨recursion, judged.missing.mpr ⟨supported, by decide⟩⟩

/-- The parameters `(a, b)`, with the line continued behind the comma. -/
def brokenParameters : Tree :=
  .node (.phrase .parameters) (some .parameters) ⟨0, 5⟩ "(a, \\\n  b)".toList
    [Tree.mark ⟨0, 5⟩ "(", Tree.word none ⟨0, 6⟩ ['a'], Tree.mark ⟨0, 7⟩ ",",
      .node (.token .lineContinuation) none ⟨0, 9⟩ "\\\n".toList [],
      Tree.word none ⟨1, 2⟩ ['b'], Tree.mark ⟨1, 3⟩ ")"]

/-- The arguments `(a, b)`. -/
def bothArguments : Tree :=
  .node (.phrase .argumentList) (some .arguments) ⟨2, 10⟩ "(a, b)".toList
    [Tree.mark ⟨2, 10⟩ "(", Tree.word none ⟨2, 11⟩ ['a'], Tree.mark ⟨2, 12⟩ ",",
      Tree.word none ⟨2, 14⟩ ['b'], Tree.mark ⟨2, 15⟩ ")"]

/-- The call passes an argument for each of the two parameters, and is reported. -/
theorem brokenList_reported :
    Recursion (selfCursor ⟨1, 4⟩ brokenParameters bothArguments)
        ⟨selfFunction ⟨1, 4⟩ brokenParameters bothArguments, [], []⟩ ∧
      Supported brokenParameters.parts ∧
      (argumentsOf (selfCall 2 bothArguments)).length = positionalCount brokenParameters.parts ∧
      Rule.safeRecursive.check (selfCursor ⟨1, 4⟩ brokenParameters bothArguments) =
        .violation missingArguments :=
  ⟨recursion_selfCursor _ _ _, supported_of_plain (by decide), by decide, by decide⟩

end Hygiene.Python
