import Hygiene.Python.Rule.Shapes

/-!
# Rules on expressions

Adding string literals, comparing sets that were built for the comparison, tuples
with one element that a comma makes, one-shot iterators, and calls that have
something better in their place.
-/

set_option autoImplicit false

namespace Hygiene.Python.Judge

/-! ## String literals -/

/-- Whether a literal has no flag that makes it a literal of bytes. -/
def isTextPrefixed (literal : Tree) : Bool :=
  let flags := literal.text.takeWhile fun c => c ≠ '\x27' && c ≠ '\x22'
  !flags.any fun c => c = 'b' || c = 'B'

/-- A string literal, or several in a row, that is not of bytes. -/
def isTextLiteral (tree : Tree) : Bool :=
  if tree.isPhrase .stringLiteral then isTextPrefixed tree
  else if tree.isPhrase .concatenatedString then
    match tree.namedChildren with
    | [] => false
    | first :: _ => isTextPrefixed first
  else false

/-- Reports a sum of two string literals. -/
def addingStrings (tree : Tree) : Option String :=
  let isText (role : Role) : Bool :=
    match tree.child? role with
    | some side => isTextLiteral side.unparenthesized
    | none => false
  if tree.isPhrase .binaryOperator && isText .left && isText .right then
    some "use parenthesis instead of addition for long strings"
  else none

/-! ## Calls -/

/-- Reports `dt.now()` and its like where the module is spelled with a prefix. -/
def avoidDatetimeNow (tree : Tree) : Option String :=
  tree.methodCall?.bind fun (receiver, method) =>
    let module := receiver.unparenthesized
    if ["now".toList, "utcnow".toList].contains method && module.isPhrase .attributeAccess then
      (module.child? .member).bind fun name =>
        if ["dt".toList, "datetime".toList].contains name.text then
          some ("Prefer \x60current_datetime\x60 to \x60datetime." ++ String.ofList method ++
            "\x60 to ensure consistent use of UTC timezone")
        else none
    else none

/-- Reports calls of `map` and `filter`. -/
def generatorExpression (tree : Tree) : Option String :=
  tree.calledName?.bind fun name =>
    if ["map".toList, "filter".toList].contains name then
      some ("use generator expression over the " ++ String.ofList name ++ " function")
    else none

/-- Reports the methods of messages that copy without a check. -/
def protobufMethods (tree : Tree) : Option String :=
  tree.methodCall?.bind fun (_, method) =>
    if ["MergeFrom".toList, "CopyFrom".toList].contains method then
      some ("Do not call \x60" ++ String.ofList method ++
        "\x60 on protobufs - prefer the safer \x60" ++ String.ofList method ++ "\x60 in zigopt.protobuf.lib\x60")
    else none

/-! ## One-shot iterators -/

/-- The functions that return iterators which can be used only once. -/
def iterators : List Text :=
  ["range".toList, "zip".toList, "map".toList, "filter".toList]

/-- The name of the function whose iterator an expression is. -/
def iteratorCall? (tree : Tree) : Option Text :=
  tree.unparenthesized.calledName?.bind fun name =>
    if iterators.contains name then some name else none

/-- Reports iterators that are returned or added. -/
def safeIterator (tree : Tree) : Option String :=
  if tree.isPhrase .returnStatement then
    (tree.namedChildren.head?.bind iteratorCall?).map fun name =>
      "returning \x60" ++ String.ofList name ++
        "\x60 is not allowed, suggest using \x60yield from\x60 syntax " ++
        "or returning \x60zigopt.common.lists.safe_iterator\x60"
  else if tree.isPhrase .binaryOperator then
    let adds := match tree.child? .operator with
      | some operator => operator.isToken (.mark "+")
      | none => false
    let isIterator (role : Role) : Bool := ((tree.child? role).bind iteratorCall?).isSome
    if adds && (isIterator .left || isIterator .right) then
      some "adding iterators is not allowed"
    else none
  else none

/-! ## Comparisons of sets -/

/-- A set that is built element by element: a set comprehension, or a call of `set`
on a comprehension. -/
def isComprehendedSet (tree : Tree) : Bool :=
  let inner := tree.unparenthesized
  if inner.isPhrase .setComprehension then true
  else if inner.calledName? = some "set".toList then
    match inner.child? .arguments with
    | some arguments =>
      arguments.isPhrase .generatorExpression ||
        arguments.namedChildren.any fun argument =>
          argument.isPhrase .generatorExpression || argument.isPhrase .listComprehension
    | none => false
  else false

/-- Whether a token compares sets by inclusion. -/
def isInclusion (tree : Tree) : Bool :=
  tree.isToken (.mark "<=") || tree.isToken (.mark ">=")

/-- Whether some inclusion among the parts of a comparison stands beside a set that
was built for it. The parts passed already come first, nearest first. -/
def hasBuiltOperand : (passed parts : List Tree) → Bool
  | _, [] => false
  | passed, part :: parts =>
    let operands := [passed.find? Tree.isNamed, parts.find? Tree.isNamed].filterMap id
    (isInclusion part && operands.any isComprehendedSet) ||
      hasBuiltOperand (part :: passed) parts

/-- Reports inclusions of sets that are built for the comparison. -/
def setComparison (tree : Tree) : Option String :=
  if tree.isPhrase .comparisonOperator &&
      hasBuiltOperand [] (tree.children.filter fun child => !child.isToken .comment) then
    some "use any() and all() over comprehended set comparisons"
  else none

/-! ## Tuples with one element -/

/-- A tuple of one element, with parentheses or without. -/
def isSingleTuple (tree : Tree) : Bool :=
  let inner := tree.unparenthesized
  (inner.isPhrase .tupleLiteral || inner.isPhrase .expressionList) &&
    inner.namedChildren.length = 1

/-- The message on a tuple with one element. -/
def singleTupleMessage : String := "Prefer \x60tuple\x60 for single-element tuples"

/-- The message, when a value is a tuple with one element. -/
def reportSingle (value : Option Tree) : Option String :=
  value.bind fun tree => if isSingleTuple tree then some singleTupleMessage else none

/-- Reports tuples with one element that a comma makes. Assignments with a declared
type are left alone. -/
def trailingComma (tree : Tree) : Option String :=
  if tree.isPhrase .assignment then
    if (tree.child? .declaredType).isNone then reportSingle (tree.child? .right) else none
  else if tree.isPhrase .augmentedAssignment then reportSingle (tree.child? .right)
  else if tree.isPhrase .returnStatement || tree.isPhrase .yieldExpression then
    reportSingle tree.namedChildren.head?
  else if tree.isPhrase .expressionStatement then
    match tree.namedChildren with
    | [value] =>
      if tree.children.any fun child => child.isToken (.mark ",") then some singleTupleMessage
      else reportSingle (some value)
    | _ => none
  else none

end Hygiene.Python.Judge
