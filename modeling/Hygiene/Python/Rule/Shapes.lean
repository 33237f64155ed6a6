import Hygiene.Python.Cursor
import Hygiene.Text.Blank

/-!
# Shapes that several rules look for

What stands inside parentheses, the name of the function that is called, the
receiver and the name of a method call.
-/

set_option autoImplicit false

namespace Hygiene.Python

namespace Tree

mutual

/-- The tree inside any number of parentheses. -/
def unparenthesized : Tree → Tree
  | .node kind role start text children =>
    if kind = .phrase .parenthesizedExpression then
      (firstUnparenthesized? children).getD (.node kind role start text children)
    else .node kind role start text children

/-- The first tree with a name that is no comment, without parentheses. -/
def firstUnparenthesized? : List Tree → Option Tree
  | [] => none
  | tree :: others =>
    if tree.counts then some (unparenthesized tree) else firstUnparenthesized? others

end

/-- The function that a call calls, without parentheses. -/
def callee? (tree : Tree) : Option Tree :=
  if tree.isPhrase .call then (tree.child? .function).map unparenthesized else none

/-- The name of a function that is called by its name. -/
def calledName? (tree : Tree) : Option Text :=
  tree.callee?.bind fun function =>
    if function.isToken .identifier then some function.text else none

/-- The receiver and the name of a method that is called. -/
def methodCall? (tree : Tree) : Option (Tree × Text) :=
  tree.callee?.bind fun function =>
    if function.isPhrase .attributeAccess then
      (function.child? .object).bind fun receiver =>
        (function.child? .member).map fun method => (receiver, method.text)
    else none

end Tree

/-- What a rule says about a node. -/
inductive Verdict where
  /-- Nothing to report. -/
  | clean
  /-- A violation with its message. -/
  | violation (message : String)
  /-- A construct that the rule refuses to judge. -/
  | unsupported (reason : String)
  deriving DecidableEq, Repr

/-- The verdict that reports a message, if there is one. -/
def Verdict.ofMessage : Option String → Verdict
  | none => .clean
  | some message => .violation message

end Hygiene.Python
