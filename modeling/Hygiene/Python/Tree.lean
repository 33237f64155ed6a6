import Hygiene.Python.Kind
import Hygiene.Text.Basic

/-!
# Syntax trees

A node has a kind, perhaps a role in the node above, the position where it
begins, the text that it covers, and its children from left to right. Children
are phrases, tokens and comments; only those with a name matter to most rules,
and comments matter to none.
-/

set_option autoImplicit false

namespace Hygiene.Python

/-- A line, counted from zero, and a column in encoded bytes. -/
structure Position where
  line : Nat
  column : Nat
  deriving DecidableEq, Repr, Inhabited

/-- A syntax tree. -/
inductive Tree where
  | node (kind : Kind) (role : Option Role) (start : Position) (text : Text)
      (children : List Tree)
  deriving Inhabited

namespace Tree

/-- The kind of the root. -/
def kind : Tree → Kind
  | node kind _ _ _ _ => kind

/-- The role of the root in the node above it. -/
def role : Tree → Option Role
  | node _ role _ _ _ => role

/-- The position where the tree begins. -/
def start : Tree → Position
  | node _ _ start _ _ => start

/-- The text that the tree covers. -/
def text : Tree → Text
  | node _ _ _ text _ => text

/-- The children of the root. -/
def children : Tree → List Tree
  | node _ _ _ _ children => children

/-- Whether the root is a phrase of a given kind. -/
def isPhrase (tree : Tree) (phrase : Phrase) : Bool :=
  tree.kind = .phrase phrase

/-- Whether the root is a given token. -/
def isToken (tree : Tree) (token : Token) : Bool :=
  tree.kind = .token token

/-- Whether the root has a name. -/
def isNamed (tree : Tree) : Bool :=
  tree.kind.isNamed

/-- Whether the root has a name and is no comment. -/
def counts (tree : Tree) : Bool :=
  tree.isNamed && !tree.isToken .comment

/-- The children with a name, without the comments. -/
def namedChildren (tree : Tree) : List Tree :=
  tree.children.filter counts

/-- The first child with a given role. -/
def child? (tree : Tree) (role : Role) : Option Tree :=
  tree.children.find? fun child => child.role = some role

/-- The line of the tree, counted from one. -/
def line (tree : Tree) : Nat :=
  tree.start.line + 1

mutual

/-- The nodes of a tree: the root, and then those of each child from left to right. -/
def preorder : Tree → List Tree
  | node kind role start text children =>
    node kind role start text children :: preorderAll children

/-- The nodes of several trees, one tree after the other. -/
def preorderAll : List Tree → List Tree
  | [] => []
  | tree :: others => preorder tree ++ preorderAll others

end

mutual

/-- The number of nodes of a tree. -/
def size : Tree → Nat
  | node _ _ _ _ children => 1 + sizeAll children

/-- The number of nodes of several trees. -/
def sizeAll : List Tree → Nat
  | [] => 0
  | tree :: others => size tree + sizeAll others

end

end Tree

end Hygiene.Python
