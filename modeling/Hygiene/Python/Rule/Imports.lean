import Hygiene.Python.Rule.Shapes

/-!
# Rules on imports and test suites

A test suite that is imported or inherited from is run twice, and a package that
is off limits must not be imported.
-/

set_option autoImplicit false

namespace Hygiene.Python.Judge

/-! ## Test suites -/

/-- The name that an imported item is bound to. -/
def boundName? (item : Tree) : Option Text :=
  if item.isPhrase .aliasedImport then (item.child? .asName).map Tree.text
  else if item.isPhrase .dottedName then some item.text
  else none

/-- The names that an import statement binds. In an import from a module the first
part is the module. -/
def importedNames (tree : Tree) : List Text :=
  if tree.isPhrase .importStatement then tree.namedChildren.filterMap boundName?
  else if tree.isPhrase .importFromStatement then
    (tree.namedChildren.drop 1).filterMap boundName?
  else []

/-- The beginnings of the names that are taken for test suites. -/
def suiteBeginnings : List Text := ["Test".toList, "test_".toList]

/-- The beginning of a class that is taken for a test suite. -/
def suiteClassBeginning : Text := "Test".toList

/-- Reports the first imported name that is taken for a test suite. -/
def forbidImportTestSuite (tree : Tree) : Option String :=
  (importedNames tree).findSome? fun name =>
    (suiteBeginnings.find? fun beginning => beginning.isPrefixOf name).map fun beginning =>
      "Importing the test suite " ++ String.ofList name ++ " may cause it to get run twice. " ++
        "Imported objects beginning with \x60" ++ String.ofList beginning ++
        "\x60 are interpreted by pytest as test suites."

/-- Reports a test suite that inherits from another one. -/
def forbidTestSuiteInheritance (tree : Tree) : Option String :=
  if tree.isPhrase .classDefinition then
    (tree.child? .name).bind fun name =>
      if suiteClassBeginning.isPrefixOf name.text then
        (tree.child? .superclasses).bind fun bases =>
          (bases.namedChildren.find? fun base =>
            base.isToken .identifier && suiteClassBeginning.isPrefixOf base.text).map fun base =>
              "Inheriting the test suite " ++ String.ofList base.text ++
                " may cause it to get run twice. " ++ "Classes beginning with \x60" ++
                String.ofList suiteClassBeginning ++
                "\x60 are interpreted by pytest as test suites."
      else none
  else none

/-! ## A package that is off limits -/

/-- The package that must not be imported. -/
def computePackage : Text := "libsigopt.compute".toList

/-- The module that an imported item names. -/
def moduleName? (item : Tree) : Option Text :=
  if item.isPhrase .aliasedImport then (item.child? .name).map Tree.text
  else if item.isPhrase .dottedName then some item.text
  else none

/-- The module that an import from a module names, without the dots in front. -/
def sourceModule? (tree : Tree) : Option Tree :=
  (tree.child? .moduleName).bind fun module =>
    if module.isPhrase .relativeImport then
      module.namedChildren.find? fun part => part.isPhrase .dottedName
    else some module

/-- Whether an import statement imports the package. -/
def importsCompute (tree : Tree) : Bool :=
  if tree.isPhrase .importStatement then
    (tree.namedChildren.filterMap moduleName?).contains computePackage
  else if tree.isPhrase .importFromStatement then
    match sourceModule? tree with
    | some module => computePackage.isPrefixOf module.text
    | none => false
  else false

/-- Reports imports of the package. -/
def noImportLibsigoptCompute (tree : Tree) : Option String :=
  if importsCompute tree then
    some ("Should not import from libsigopt.compute, consider moving the class/method to " ++
      "libsigopt.aux or libsigopt.views")
  else none

end Hygiene.Python.Judge
