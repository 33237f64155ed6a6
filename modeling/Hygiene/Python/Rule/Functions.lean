import Hygiene.Python.Rule.Shapes

/-!
# Rules on functions

A recursive call has to pass every parameter of its function, and a generator
must not return a value and must be wrapped by a decorator that makes it safe.
Both rules look at the closest function around a node.
-/

set_option autoImplicit false

namespace Hygiene.Python.Judge

/-! ## Recursive calls -/

/-- The parameters of a function by kind: how many can be passed by position and by
name, whether there are collecting ones, and how many can be passed by name
only. -/
structure Signature where
  positional : Nat
  collectsPositional : Bool
  collectsNamed : Bool
  namedOnly : Nat
  deriving DecidableEq, Repr

/-- What a parameter is, without its declared type. -/
def parameterKind (parameter : Tree) : Kind :=
  if parameter.isPhrase .typedParameter then
    match parameter.namedChildren with
    | inner :: _ => inner.kind
    | [] => .token .identifier
  else parameter.kind

/-- Counts a parameter. The flag says whether a star was passed. -/
def Signature.add : Signature × Bool → Tree → Signature × Bool
  | (signature, afterStar), parameter =>
    match parameterKind parameter with
    | .phrase .listSplatPattern => ({ signature with collectsPositional := true }, true)
    | .phrase .dictionarySplatPattern => ({ signature with collectsNamed := true }, afterStar)
    | .phrase .keywordSeparator => (signature, true)
    | .phrase .positionalSeparator => ({ signature with positional := 0 }, afterStar)
    | _ =>
      if afterStar then ({ signature with namedOnly := signature.namedOnly + 1 }, true)
      else ({ signature with positional := signature.positional + 1 }, false)

/-- The signature of a list of parameters. -/
def Signature.ofParameters (parameters : Tree) : Signature :=
  (parameters.namedChildren.foldl Signature.add (⟨0, false, false, 0⟩, false)).1

/-- The number of arguments of a call. A generator that stands alone is one. -/
def argumentCount (call : Tree) : Nat :=
  match call.child? .arguments with
  | some arguments =>
    if arguments.isPhrase .generatorExpression then 1 else arguments.namedChildren.length
  | none => 0

/-- Judges the number of arguments of a recursive call. -/
def judgeRecursion (signature : Signature) (passed : Nat) : Verdict :=
  if signature.collectsPositional then
    .unsupported "Linting for recursive calls with *args is not supported"
  else if signature.collectsNamed then
    .unsupported "Linting for recursive calls with **kwargs is not supported"
  else if 0 < signature.namedOnly then
    .unsupported "Linting for recursive calls with keyword-only args is not supported"
  else if passed = signature.positional then .clean
  else .violation ("Recursive call appears to be missing arguments. " ++
    "Specify all arguments for recursive calls.")

/-- Reports recursive calls that leave arguments out. -/
def safeRecursive (cursor : Cursor) : Verdict :=
  match cursor.node.calledName?, cursor.enclosing? .functionDefinition with
  | some called, some (function, _) =>
    if (function.child? .name).map Tree.text = some called then
      match function.child? .parameters with
      | some parameters =>
        judgeRecursion (Signature.ofParameters parameters) (argumentCount cursor.node)
      | none => .clean
    else .clean
  | _, _ => .clean

/-! ## Generators -/

/-- The decorators that make a generator safe to call more than once, or that drive
its control flow. -/
def generatorDecorators : List Text :=
  ["generator_to_list".toList, "generator_to_dict".toList,
    "generator_to_safe_iterator".toList, "unsafe_generator".toList,
    "contextmanager".toList, "fixture".toList, "hookimpl".toList]

mutual

/-- The last name of a decorator, be it a name, an attribute or a call of either. -/
def decoratorName? : Tree → Option Text
  | .node kind role start text children =>
    if kind = .phrase .attributeAccess then
      ((Tree.node kind role start text children).child? .member).map Tree.text
    else if kind = .token .identifier then some text
    else if kind = .phrase .call then calledDecorator? children
    else none

/-- The last name of the function that a decorator calls. -/
def calledDecorator? : List Tree → Option Text
  | [] => none
  | tree :: others =>
    if tree.role = some .function then decoratorName? tree else calledDecorator? others

end

/-- Whether some return statement inside a function has a value. -/
def returnsValue (function : Tree) : Bool :=
  function.preorder.any fun tree =>
    tree.isPhrase .returnStatement && !tree.namedChildren.isEmpty

/-- Whether a function, given what is above it, has a decorator for generators. -/
def isProtected (above : List Tree) : Bool :=
  match above with
  | [] => false
  | parent :: _ =>
    parent.isPhrase .decoratedDefinition &&
      parent.namedChildren.any fun decorator =>
        decorator.isPhrase .decorator &&
          match decorator.namedChildren with
          | expression :: _ =>
            match decoratorName? expression with
            | some name => generatorDecorators.contains name
            | none => false
          | [] => false

/-- Reports generators that return a value or that no decorator makes safe. -/
def safeYield (cursor : Cursor) : Option String :=
  if cursor.node.isPhrase .yieldExpression then
    (cursor.enclosing? .functionDefinition).bind fun (function, above) =>
      if returnsValue function then
        some "Do not mix \x60return value\x60 and \x60yield\x60 in the same function"
      else if isProtected above then none
      else some "Functions with \x60yield\x60 should be decorated with a \x60generator_to_X\x60 function"
  else none

end Hygiene.Python.Judge
