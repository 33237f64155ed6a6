import Hygiene.Python.Lint
import Hygiene.Proofs.Python.Parts
import Hygiene.Proofs.Text.Fields
import Hygiene.Proofs.Text.Search

/-!
# Imports of a package that is off limits

An absolute import names modules, and a module is told by its path: the names between the dots. It
lies in the package when the path of the package begins its own. The rule compares spellings
instead, and not in the same way in the two forms of an import (`check_noImportLibsigoptCompute`).

In an import of modules the spelling must be that of the package, so the modules inside the package
are passed. In an import from a module the spelling must only begin like that of the package. This
takes in all modules of the package, but also those whose second name merely begins with the same
letters (`isPrefix_join_iff`). Both differences from the law of paths are real
(`packageByPath_missed`).
-/

set_option autoImplicit false

namespace Hygiene.Python

/-! ## Modules and their paths -/

/-- The names of a module, from the outermost package inwards. -/
def modulePath (module : Tree) : List Text :=
  module.parts.map Tree.text

/-- A module that is spelled with nothing beside its names and the dots between them. -/
structure Compact (module : Tree) : Prop where
  plain : ∀ name ∈ modulePath module, '.' ∉ name
  spelled : module.text = Text.join ['.'] (modulePath module)

/-- The path of the package that is off limits. -/
def packagePath : List Text := ["libsigopt".toList, "compute".toList]

/-- A module is the package or lies in it. -/
def InPackage (module : Tree) : Prop :=
  packagePath <+: modulePath module

/-- The second name of a module begins with that of the package and goes on. -/
def Lookalike (module : Tree) : Prop :=
  ∃ ending others, ending ≠ [] ∧
    modulePath module = "libsigopt".toList :: ("compute".toList ++ ending) :: others

/-- The module that an item of an import stands for. -/
inductive Names (item : Tree) : Tree → Prop where
  | plain (dotted : item.isPhrase .dottedName = true) : Names item item
  | renamed {module : Tree} (aliased : item.isPhrase .aliasedImport = true)
      (named : item.child? .name = some module) : Names item module

/-- An absolute import: of modules, or from a module that is named without dots in front. -/
inductive AbsoluteImport (tree : Tree) : Prop where
  | modules (statement : tree.isPhrase .importStatement = true)
  | source {module : Tree} (statement : tree.isPhrase .importFromStatement = true)
      (named : tree.child? .moduleName = some module)
      (absolute : module.isPhrase .relativeImport = false)

/-- The modules that an absolute import names. -/
inductive ImportsModule (tree : Tree) : Tree → Prop where
  | item {item module : Tree} (statement : tree.isPhrase .importStatement = true)
      (listed : item ∈ tree.children) (names : Names item module) : ImportsModule tree module
  | source {module : Tree} (statement : tree.isPhrase .importFromStatement = true)
      (named : tree.child? .moduleName = some module)
      (absolute : module.isPhrase .relativeImport = false) : ImportsModule tree module

/-- What the rule takes for the package. -/
def TakenForPackage (tree module : Tree) : Prop :=
  if tree.isPhrase .importStatement then module.text = Judge.computePackage
  else Judge.computePackage <+: module.text

/-! ## Spellings -/

theorem computePackage_eq :
    Judge.computePackage = "libsigopt".toList ++ '.' :: "compute".toList :=
  rfl

/-- What begins a text with a mark in it agrees with it up to the mark and behind it. -/
theorem isPrefix_marked_iff {c : Char} {left right other behind : Text} (plain : c ∉ left)
    (bare : c ∉ other) :
    left ++ c :: right <+: other ++ c :: behind ↔ left = other ∧ right <+: behind := by
  induction left generalizing other with
  | nil =>
    cases other with
    | nil => simp
    | cons d other =>
      have apart : c ≠ d := (List.ne_and_not_mem_of_not_mem_cons bare).1
      simp [apart]
  | cons d left ih =>
    have ⟨apart, plain⟩ := List.ne_and_not_mem_of_not_mem_cons plain
    cases other with
    | nil => simp [apart.symm]
    | cons e other =>
      have bare := (List.ne_and_not_mem_of_not_mem_cons bare).2
      simp only [List.cons_append, List.cons_prefix_cons, List.cons.injEq, ih plain bare, and_assoc]

/-- A word begins a joined text when it begins the first text. -/
theorem isPrefix_join_cons_iff {c : Char} {word : Text} (plain : c ∉ word) (text : Text)
    (others : List Text) : word <+: Text.join [c] (text :: others) ↔ word <+: text := by
  cases others with
  | nil => rw [Text.join_singleton]
  | cons other later =>
    rw [Text.join_cons_cons, List.append_assoc, List.singleton_append]
    exact ⟨Text.isPrefix_of_append_cons plain, fun begins => begins.trans (List.prefix_append _ _)⟩

/-- A spelling begins with a package in another one when its path begins with theirs, or when its
second name goes on behind the name of the package. -/
theorem isPrefix_join_iff {outer inner : Text} (bare : '.' ∉ outer) (dotless : '.' ∉ inner)
    {path : List Text} (plain : ∀ name ∈ path, '.' ∉ name) :
    outer ++ '.' :: inner <+: Text.join ['.'] path ↔
      [outer, inner] <+: path ∨
        ∃ ending others, ending ≠ [] ∧ path = outer :: (inner ++ ending) :: others := by
  match path with
  | [] => simp [Text.join]
  | [only] =>
    have apart : ¬ outer ++ '.' :: inner <+: only := fun begins =>
      plain only List.mem_cons_self (begins.subset (by simp))
    simp [Text.join_singleton, apart]
  | first :: second :: others =>
    rw [Text.join_cons_cons, List.append_assoc, List.singleton_append,
      isPrefix_marked_iff bare (plain first List.mem_cons_self), isPrefix_join_cons_iff dotless]
    constructor
    · rintro ⟨rfl, ending, rfl⟩
      by_cases whole : ending = []
      · subst whole
        exact .inl ⟨others, by simp⟩
      · exact .inr ⟨ending, others, whole, rfl⟩
    · rintro (⟨rest, same⟩ | ⟨ending, rest, -, same⟩)
      · simp only [List.cons_append, List.nil_append, List.cons.injEq] at same
        exact ⟨same.1, same.2.1 ▸ List.prefix_refl _⟩
      · simp only [List.cons.injEq] at same
        exact ⟨same.1.symm, ending, same.2.1.symm⟩

namespace Compact

variable {module : Tree} (compact : Compact module)
include compact

theorem text_eq_iff : module.text = Judge.computePackage ↔ modulePath module = packagePath := by
  rw [compact.spelled]
  constructor
  · intro same
    have filled : modulePath module ≠ [] := fun none => by
      rw [none] at same
      cases same
    rw [← Text.fields_join filled compact.plain, same]
    decide
  · intro same
    rw [same]
    rfl

theorem isPrefix_text_iff :
    Judge.computePackage <+: module.text ↔ InPackage module ∨ Lookalike module := by
  rw [compact.spelled, computePackage_eq]
  exact isPrefix_join_iff (by decide) (by decide) compact.plain

end Compact

/-! ## The rule -/

theorem moduleName_eq_some_iff (item : Tree) (name : Text) :
    Judge.moduleName? item = some name ↔ ∃ module, Names item module ∧ module.text = name := by
  rw [Judge.moduleName?]
  constructor
  · intro found
    split at found
    · rename_i aliased
      obtain ⟨module, named, rfl⟩ := Option.map_eq_some_iff.mp found
      exact ⟨module, .renamed aliased named, rfl⟩
    · split at found
      · rename_i dotted
        exact ⟨item, .plain dotted, Option.some.inj found⟩
      · cases found
  · rintro ⟨module, names, rfl⟩
    cases names with
    | plain dotted =>
      have differs : item.isPhrase .aliasedImport ≠ true := fun aliased => by
        cases Tree.isPhrase_inj aliased dotted
      rw [if_neg differs, if_pos dotted]
    | renamed aliased named => rw [if_pos aliased, named, Option.map_some]

theorem Names.counts {item module : Tree} (names : Names item module) : item.counts = true := by
  cases names with
  | plain dotted => exact Tree.counts_of_isPhrase dotted
  | renamed aliased => exact Tree.counts_of_isPhrase aliased

theorem importsCompute_iff {tree : Tree} (absolute : AbsoluteImport tree) :
    Judge.importsCompute tree = true ↔
      ∃ module, ImportsModule tree module ∧ TakenForPackage tree module := by
  rw [Judge.importsCompute]
  cases statement : tree.isPhrase .importStatement with
  | true =>
    simp only [if_true, List.contains_iff_mem, List.mem_filterMap, moduleName_eq_some_iff,
      TakenForPackage, statement]
    constructor
    · rintro ⟨item, listed, module, names, same⟩
      exact ⟨module, .item statement (List.mem_of_mem_filter listed) names, same⟩
    · rintro ⟨module, imports, same⟩
      cases imports with
      | item _ listed names =>
        exact ⟨_, List.mem_filter.mpr ⟨listed, names.counts⟩, module, names, same⟩
      | source other => cases Tree.isPhrase_inj statement other
  | false =>
    cases absolute with
    | modules other => cases statement.symm.trans other
    | @source module other named absolute =>
      have found : Judge.sourceModule? tree = some module := by
        rw [Judge.sourceModule?, named, Option.bind_some, absolute]
        rfl
      simp only [Bool.false_eq_true, if_false, if_pos other, found, TakenForPackage, statement,
        List.isPrefixOf_iff_prefix]
      constructor
      · exact fun begins => ⟨module, .source other named absolute, begins⟩
      · rintro ⟨also, imports, begins⟩
        cases imports with
        | item is => cases statement.symm.trans is
        | source _ too =>
          cases named.symm.trans too
          exact begins

/-- What is reported about an import of the package. -/
def offLimits : String :=
  "Should not import from libsigopt.compute, consider moving the class/method to " ++
    "libsigopt.aux or libsigopt.views"

/-- **An absolute import is reported when some module in it is taken for the package.** An import of
modules takes the package alone for it, and leaves out what lies inside. An import from a module
takes everything in the package for it, and also what looks alike. -/
theorem check_noImportLibsigoptCompute {cursor : Cursor} (absolute : AbsoluteImport cursor.node) :
    (Rule.noImportLibsigoptCompute.check cursor = .violation offLimits ↔
        ∃ module, ImportsModule cursor.node module ∧ TakenForPackage cursor.node module) ∧
      (Rule.noImportLibsigoptCompute.check cursor = .clean ↔
        ¬ ∃ module, ImportsModule cursor.node module ∧ TakenForPackage cursor.node module) ∧
      ∀ module, ImportsModule cursor.node module → Compact module →
        (cursor.node.isPhrase .importStatement = true →
            (TakenForPackage cursor.node module ↔ modulePath module = packagePath)) ∧
          (cursor.node.isPhrase .importFromStatement = true →
            (TakenForPackage cursor.node module ↔ InPackage module ∨ Lookalike module)) := by
  have verdict : Rule.noImportLibsigoptCompute.check cursor =
      .ofMessage (if Judge.importsCompute cursor.node then some offLimits else none) := rfl
  rw [verdict, ← importsCompute_iff absolute]
  refine ⟨?_, ?_, fun module _ compact => ⟨fun statement => ?_, fun statement => ?_⟩⟩
  · cases Judge.importsCompute cursor.node <;> simp [Verdict.ofMessage]
  · cases Judge.importsCompute cursor.node <;> simp [Verdict.ofMessage]
  · rw [TakenForPackage, if_pos statement]
    exact compact.text_eq_iff
  · have differs : cursor.node.isPhrase .importStatement ≠ true := fun other => by
      cases Tree.isPhrase_inj statement other
    rw [TakenForPackage, if_neg differs]
    exact compact.isPrefix_text_iff

/-! ## Two imports -/

/-- Names with dots between them, as they stand from a column on. -/
def dottedParts (column : Nat) : List Text → List Tree
  | [] => []
  | [name] => [Tree.word none ⟨0, column⟩ name]
  | name :: others =>
    Tree.word none ⟨0, column⟩ name ::
      Tree.mark ⟨0, column + name.length⟩ "." ::
        dottedParts (column + name.length + 1) others

/-- A module that is spelled without blanks. -/
def dottedName (role : Option Role) (column : Nat) (names : List Text) : Tree :=
  .node (.phrase .dottedName) role ⟨0, column⟩ (Text.join ['.'] names) (dottedParts column names)

theorem modulePath_dottedName (role : Option Role) (column : Nat) (names : List Text) :
    modulePath (dottedName role column names) = names := by
  have parts : ((dottedParts column names).filter Tree.isPart).map Tree.text = names := by
    induction column, names using dottedParts.induct with
    | case1 column => rfl
    | case2 column name => rfl
    | case3 column name others more ih =>
      obtain ⟨other, later, rfl⟩ := List.exists_cons_of_ne_nil more
      exact congrArg (name :: ·) ih
  exact parts

theorem compact_dottedName (role : Option Role) (column : Nat) {names : List Text}
    (plain : ∀ name ∈ names, '.' ∉ name) : Compact (dottedName role column names) where
  plain := by rwa [modulePath_dottedName]
  spelled := by rw [modulePath_dottedName]; rfl

/-- The import `import numpy as np, libsigopt.compute as c`. -/
def renamingImport : Tree :=
  .node (.phrase .importStatement) none ⟨0, 0⟩ "import numpy as np, libsigopt.compute as c".toList
    [Tree.mark ⟨0, 0⟩ "import",
      .node (.phrase .aliasedImport) (some .name) ⟨0, 7⟩ "numpy as np".toList
        [dottedName (some .name) 7 ["numpy".toList],
          Tree.mark ⟨0, 13⟩ "as",
          Tree.word (some .asName) ⟨0, 16⟩ "np".toList],
      Tree.mark ⟨0, 18⟩ ",",
      .node (.phrase .aliasedImport) (some .name) ⟨0, 20⟩ "libsigopt.compute as c".toList
        [dottedName (some .name) 20 packagePath,
          Tree.mark ⟨0, 38⟩ "as",
          Tree.word (some .asName) ⟨0, 41⟩ ['c']]]

/-- The second module of the import is the package, so the import is reported. -/
theorem check_noImportLibsigoptCompute_renamed :
    AbsoluteImport renamingImport ∧
      Rule.noImportLibsigoptCompute.check (.ofTree renamingImport) = .violation offLimits := by
  have absolute : AbsoluteImport renamingImport := .modules rfl
  have imports : ImportsModule renamingImport (dottedName (some .name) 20 packagePath) :=
    .item rfl (.tail _ (.tail _ (.tail _ (.head _)))) (.renamed rfl rfl)
  have compact : Compact (dottedName (some .name) 20 packagePath) :=
    compact_dottedName _ _ (by decide)
  have law := @check_noImportLibsigoptCompute (.ofTree renamingImport) absolute
  have taken := ((law.2.2 _ imports compact).1 rfl).mpr (modulePath_dottedName _ _ _)
  exact ⟨absolute, law.1.mpr ⟨_, imports, taken⟩⟩

/-- The import `import libsigopt.compute.domain`. -/
def submoduleImport : Tree :=
  .node (.phrase .importStatement) none ⟨0, 0⟩ "import libsigopt.compute.domain".toList
    [Tree.mark ⟨0, 0⟩ "import",
      dottedName (some .name) 7 (packagePath ++ ["domain".toList])]

/-- The import `from libsigopt.computer import x`. -/
def lookalikeImport : Tree :=
  .node (.phrase .importFromStatement) none ⟨0, 0⟩ "from libsigopt.computer import x".toList
    [Tree.mark ⟨0, 0⟩ "from",
      dottedName (some .moduleName) 5 ["libsigopt".toList, "computer".toList],
      Tree.mark ⟨0, 24⟩ "import",
      dottedName (some .name) 31 [['x']]]

/-- A module of the package is imported and not reported, and an import is reported although its
module is not in the package. -/
theorem packageByPath_missed :
    ((∃ module, ImportsModule submoduleImport module ∧ InPackage module) ∧
        Rule.noImportLibsigoptCompute.check (.ofTree submoduleImport) = .clean) ∧
      (∀ module, ImportsModule lookalikeImport module → ¬ InPackage module) ∧
        Rule.noImportLibsigoptCompute.check (.ofTree lookalikeImport) = .violation offLimits := by
  refine ⟨⟨⟨_, .item rfl (.tail _ (.head _)) (.plain rfl), ?_⟩, by decide⟩, ?_, by decide⟩
  · rw [InPackage, modulePath_dottedName]
    exact List.prefix_append _ _
  · intro module imports
    cases imports with
    | item statement => cases statement
    | source statement named =>
      cases named
      rw [InPackage, modulePath_dottedName]
      decide

end Hygiene.Python
