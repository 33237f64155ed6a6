import Hygiene.Error
import Hygiene.Text.Blank

/-!
# Rules

A rule has a name, by which it is switched on and off. Some rules are on unless
they are ignored. A selection is the default rules with those that are included,
without those that are ignored; so ignoring a rule wins over including it.
Names are given in lists, and each entry of a list can hold several names between
commas.
-/

set_option autoImplicit false

namespace Hygiene.Python

/-- The rules, in the order of their names. -/
inductive Rule where
  | addingStrings
  | avoidDatetimeNow
  | forbidImportTestSuite
  | forbidTestSuiteInheritance
  | generatorExpression
  | noImportLibsigoptCompute
  | protobufMethods
  | safeIterator
  | safeRecursive
  | safeYield
  | setComparison
  | trailingComma
  deriving DecidableEq, Repr

namespace Rule

/-- All rules, in the order of their names. -/
def all : List Rule :=
  [addingStrings, avoidDatetimeNow, forbidImportTestSuite, forbidTestSuiteInheritance,
    generatorExpression, noImportLibsigoptCompute, protobufMethods, safeIterator,
    safeRecursive, safeYield, setComparison, trailingComma]

/-- The rules that are on by default. -/
def defaultEnabled : List Rule :=
  [addingStrings, forbidImportTestSuite, forbidTestSuiteInheritance, safeRecursive,
    setComparison, trailingComma]

/-- The name of a rule. -/
def name : Rule → Text
  | addingStrings => "AddingStringsRule".toList
  | avoidDatetimeNow => "AvoidDatetimeNowRule".toList
  | forbidImportTestSuite => "ForbidImportTestSuiteRule".toList
  | forbidTestSuiteInheritance => "ForbidTestSuiteInheritanceRule".toList
  | generatorExpression => "GeneratorExpressionRule".toList
  | noImportLibsigoptCompute => "NoImportLibsigoptComputeRule".toList
  | protobufMethods => "ProtobufMethodsRule".toList
  | safeIterator => "SafeIteratorRule".toList
  | safeRecursive => "SafeRecursiveRule".toList
  | safeYield => "SafeYieldRule".toList
  | setComparison => "SetComparisonRule".toList
  | trailingComma => "TrailingCommaRule".toList

/-- The rule with a given name. -/
def ofName? (name : Text) : Option Rule :=
  all.find? fun rule => rule.name = name

/-- What is said of a name that no rule has. -/
def unknownMessage (name : Text) : String :=
  "unknown python lint rule \x60" ++ String.ofList name ++ "\x60"

/-- The names in a list of entries: what stands between the commas, without blanks
around it, as far as anything does. -/
def names (entries : List Text) : List Text :=
  ((entries.flatMap fun entry => entry.fields (· = ',')).map Text.trim).filter
    fun name => !name.isEmpty

/-- The selected rules, in the order of their names. A name to include that no rule
has is an error; such a name to ignore changes nothing. -/
def select (included ignored : List Text) : Except Error (List Rule) :=
  match (names included).find? fun name => (ofName? name).isNone with
  | some unknown => .error (.argument (unknownMessage unknown))
  | none =>
    let on := (names included).filterMap ofName?
    let off := (names ignored).filterMap ofName?
    .ok (all.filter fun rule =>
      (defaultEnabled.contains rule || on.contains rule) && !off.contains rule)

/-- The names to ignore that no rule has. -/
def unknownIgnored (ignored : List Text) : List Text :=
  (names ignored).filter fun name => (ofName? name).isNone

end Rule

end Hygiene.Python
