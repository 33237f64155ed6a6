import Hygiene.Python.Rule
import Hygiene.Python.Rule.Expressions
import Hygiene.Python.Rule.Imports
import Hygiene.Python.Rule.Functions
import Hygiene.Python.Source

/-!
# Linting a source

Every node with a name is offered to every rule that is on. A comment can switch
rules off from its own line to the end of the file; it cannot switch them on
again. The findings are sorted by position, and findings at one position keep the
order of the walk and, at one node, of the rules.
-/

set_option autoImplicit false

namespace Hygiene.Python

/-- A violation of a rule. Lines count from one, columns from zero in encoded
bytes. -/
structure Finding where
  line : Nat
  column : Nat
  rule : Rule
  message : String
  deriving DecidableEq, Repr

/-- A reason why a source cannot be linted, with the line where it stands. -/
structure Refusal where
  line : Nat
  reason : String
  deriving DecidableEq, Repr

/-- What a rule says about a node. -/
def Rule.check (rule : Rule) (cursor : Cursor) : Verdict :=
  match rule with
  | .addingStrings => .ofMessage (Judge.addingStrings cursor.node)
  | .avoidDatetimeNow => .ofMessage (Judge.avoidDatetimeNow cursor.node)
  | .forbidImportTestSuite => .ofMessage (Judge.forbidImportTestSuite cursor.node)
  | .forbidTestSuiteInheritance => .ofMessage (Judge.forbidTestSuiteInheritance cursor.node)
  | .generatorExpression => .ofMessage (Judge.generatorExpression cursor.node)
  | .noImportLibsigoptCompute => .ofMessage (Judge.noImportLibsigoptCompute cursor.node)
  | .protobufMethods => .ofMessage (Judge.protobufMethods cursor.node)
  | .safeIterator => .ofMessage (Judge.safeIterator cursor.node)
  | .safeRecursive => Judge.safeRecursive cursor
  | .safeYield => .ofMessage (Judge.safeYield cursor)
  | .setComparison => .ofMessage (Judge.setComparison cursor.node)
  | .trailingComma => .ofMessage (Judge.trailingComma cursor.node)

/-! ## Comments that switch rules off -/

/-- What a comment says before the names of the rules that it switches off. -/
def disableMarker : Text := "sigoptlint: disable=".toList

/-- What a comment says that means to switch rules on again. -/
def enableMarker : Text := "sigoptlint: enable=".toList

/-- The names of the rules that a comment switches off. -/
def disabledBy (comment : Text) : List Text :=
  match Text.splitAround? comment disableMarker with
  | some (_, listed) => (listed.fields (· = ',')).map Text.trim
  | none => []

/-- The line from which each name is switched off, as far as it is in the list
already: the first line wins. -/
def addDisabled (line : Nat) (known : List (Text × Nat)) (name : Text) : List (Text × Nat) :=
  if known.any fun entry => entry.1 = name then known else known ++ [(name, line)]

/-- The names that the comments of a tree switch off, each with its line. -/
def disabledNames (comments : List Tree) : Except Refusal (List (Text × Nat)) :=
  comments.foldlM
    (fun known comment =>
      if comment.text.holds enableMarker then
        .error ⟨comment.line, "Re-enabling sigoptlint disables is not supported"⟩
      else .ok ((disabledBy comment.text).foldl (addDisabled comment.line) known))
    []

/-- Whether a rule is switched off on a line. -/
def isDisabled (disabled : List (Text × Nat)) (line : Nat) (rule : Rule) : Bool :=
  match disabled.find? fun entry => entry.1 = rule.name with
  | some (_, first) => first ≤ line
  | none => false

/-! ## Judging a tree -/

/-- The findings of some rules on a node. -/
def judgeNode (rules : List Rule) (disabled : List (Text × Nat)) (cursor : Cursor) :
    Except Refusal (List Finding) :=
  let line := cursor.node.line
  (rules.filter fun rule => !isDisabled disabled line rule).foldlM
    (fun findings rule =>
      match rule.check cursor with
      | .clean => .ok findings
      | .violation message =>
        .ok (findings ++ [⟨line, cursor.node.start.column, rule, message⟩])
      | .unsupported reason => .error ⟨line, reason⟩)
    []

/-- Whether a finding stands before another one or at the same position. -/
def Finding.notAfter (first second : Finding) : Bool :=
  first.line < second.line || (first.line = second.line && first.column ≤ second.column)

/-- The findings of some rules on a tree, sorted by position. -/
def judgeTree (rules : List Rule) (tree : Tree) : Except Refusal (List Finding) := do
  let disabled ← disabledNames (tree.preorder.filter fun node => node.isToken .comment)
  let cursors := (Cursor.walk tree).filter fun cursor => cursor.node.isNamed
  let findings ← cursors.mapM (judgeNode rules disabled)
  return findings.flatten.mergeSort Finding.notAfter

/-- The findings of some rules on a source. -/
def lint (rules : List Rule) (source : Text) : Except Refusal (List Finding) :=
  match parse source with
  | .ok tree => judgeTree rules tree
  | .error line => .error ⟨line, "invalid syntax"⟩

/-- The line in which a finding is shown. -/
def Finding.display (path : Path) (finding : Finding) : String :=
  s!"{path.display}:{finding.line}:{finding.column}: {finding.message}"

/-- The error that a refusal is for a file. -/
def Refusal.error (path : Path) (refusal : Refusal) : Error :=
  .lint path refusal.line refusal.reason

end Hygiene.Python
