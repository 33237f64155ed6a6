import Hygiene.Proofs.Python.Resemblance

/-!
# Trees that are alike throughout

Where one relation holds of nodes and of their parts alike, a resemblance says more. The arguments
of calls are alike as well, so comparisons of sets need nothing else. A decorator is alike down to
the name in it, however many calls are around the name. The functions around two nodes are alike
when the nodes above are, so the rules on functions get the same verdicts, except that a function
returns a value somewhere inside it, and what the nodes inside are has to be known (`safeYield_eq`).
-/

set_option autoImplicit false

namespace Hygiene.Python

open List (Forall₂)
open Hygiene.Pointwise

namespace Resemblance

variable {Same : Tree → Tree → Prop} (resembles : Resemblance Same Same) {first second : Tree}
include resembles

/-! ## Arguments -/

theorem holdsComprehension_eq (same : Same first second) :
    Judge.holdsComprehension first = Judge.holdsComprehension second := by
  have parts := any_eq (resembles.namedChildren same)
    (p := Judge.isComprehension) (q := Judge.isComprehension) fun _ _ argument => by
      rw [Judge.isComprehension, Judge.isComprehension, resembles.isPhrase_eq argument,
        resembles.isPhrase_eq argument]
  rw [Judge.holdsComprehension, Judge.holdsComprehension, resembles.isPhrase_eq same, parts]

theorem buildsFrom_eq (same : Same first second) :
    Judge.buildsFrom first = Judge.buildsFrom second := by
  rw [Judge.buildsFrom, Judge.buildsFrom,
    map_eq (resembles.child same .arguments) fun _ _ arguments =>
      resembles.holdsComprehension_eq arguments]

theorem argumentCount_eq (same : Same first second) :
    Judge.argumentCount first = Judge.argumentCount second := by
  have arguments := resembles.child same .arguments
  rw [Judge.argumentCount, Judge.argumentCount]
  generalize first.child? .arguments = one at arguments
  generalize second.child? .arguments = other at arguments
  cases arguments with
  | none => rfl
  | some arguments =>
    simp only [resembles.isPhrase_eq arguments, (resembles.namedChildren arguments).length_eq]

/-! ## Signatures -/

theorem parameterKind_eq (same : Same first second) :
    Judge.parameterKind first = Judge.parameterKind second :=
  Judge.parameterKind_congr (resembles.kind_eq same)
    ((resembles.namedChildren same).imp fun _ _ part => resembles.kind_eq part)

theorem ofParameters_eq (same : Same first second) :
    Judge.Signature.ofParameters first = Judge.Signature.ofParameters second :=
  Judge.ofParameters_congr
    ((resembles.namedChildren same).imp fun _ _ parameter => resembles.parameterKind_eq parameter)

/-! ## Decorators -/

theorem decoratorName_eq (same : Same first second) :
    Judge.decoratorName? first = Judge.decoratorName? second := by
  induction first using Tree.childInduction generalizing second with
  | step first ih =>
    have called : (first.child? .function).bind Judge.decoratorName? =
        (second.child? .function).bind Judge.decoratorName? := by
      have functions := resembles.child same .function
      have inside : ∀ function ∈ first.child? .function, function ∈ first.children :=
        fun _ found => List.mem_of_find?_eq_some found
      generalize first.child? .function = function at functions inside
      generalize second.child? .function = other at functions
      cases functions with
      | none => rfl
      | @some function _ related => exact ih function (inside function rfl) related
    rw [Judge.decoratorName_def, Judge.decoratorName_def, ← resembles.kind_eq same, called]
    split
    · rename_i access
      exact resembles.word same (decide_eq_true access) rfl
    · split
      · rename_i identifier
        rw [resembles.identifier same (decide_eq_true identifier)]
      · rfl

theorem isSafeDecorator_eq (same : Same first second) :
    Judge.isSafeDecorator first = Judge.isSafeDecorator second :=
  Judge.isSafeDecorator_congr
    (bind_eq (rel_head (resembles.namedChildren same)) fun _ _ expression =>
      resembles.decoratorName_eq expression)

theorem isProtected_eq {above beyond : List Tree} (same : Forall₂ Same above beyond) :
    Judge.isProtected above = Judge.isProtected beyond := by
  cases same with
  | nil => rfl
  | @cons parent other _ _ related _ =>
    have decorated := any_eq (resembles.namedChildren related)
      (p := fun decorator => decorator.isPhrase .decorator && Judge.isSafeDecorator decorator)
      (q := fun decorator => decorator.isPhrase .decorator && Judge.isSafeDecorator decorator)
      fun _ _ decorator => by
        rw [resembles.isPhrase_eq decorator, resembles.isSafeDecorator_eq decorator]
    rw [Judge.isProtected_cons, Judge.isProtected_cons, resembles.isPhrase_eq related, decorated]

/-! ## Modules -/

/-- The modules that two imports name are alike. -/
theorem sourceModule (same : Same first second) :
    Option.Rel Same (Judge.sourceModule? first) (Judge.sourceModule? second) := by
  apply rel_bind (resembles.child same .moduleName)
  intro module other related
  rw [resembles.isPhrase_eq related]
  split
  · exact rel_find (resembles.namedChildren related) fun _ _ part => resembles.isPhrase_eq part _
  · exact .some related

/-! ## Functions around a node -/

variable {one other : Cursor}

/-- The closest phrases of a kind around two cursors are alike. -/
theorem enclosing (above : Forall₂ Same one.ancestors other.ancestors) (phrase : Phrase) :
    Option.Rel
      (fun former latter : Tree × List Tree => former.1.isPhrase phrase = true ∧
        Same former.1 latter.1 ∧ Forall₂ Same former.2 latter.2)
      (one.enclosing? phrase) (other.enclosing? phrase) := by
  rw [Cursor.enclosing?, Cursor.enclosing?]
  generalize one.ancestors = ancestors at above
  generalize other.ancestors = others at above
  induction above with
  | nil => exact .none
  | @cons parent also _ _ related further ih =>
    rw [List.dropWhile_cons, List.dropWhile_cons, ← resembles.isPhrase_eq related]
    cases is : parent.isPhrase phrase with
    | false => exact ih
    | true => exact .some ⟨is, related, further⟩

theorem safeRecursive_eq (node : Same one.node other.node)
    (above : Forall₂ Same one.ancestors other.ancestors) :
    Judge.safeRecursive one = Judge.safeRecursive other := by
  apply Judge.safeRecursive_congr (resembles.calledName_eq node) (resembles.argumentCount_eq node)
  apply rel_imp (resembles.enclosing above .functionDefinition)
  rintro ⟨function, _⟩ ⟨also, _⟩ ⟨is, related, -⟩
  exact ⟨resembles.word related is rfl,
    map_eq (resembles.child related .parameters) fun _ _ parameters =>
      resembles.ofParameters_eq parameters⟩

/-- Generators are judged alike when functions that are alike return values alike. -/
theorem safeYield_eq
    (returns : ∀ {function also : Tree}, Same function also →
      Judge.returnsValue function = Judge.returnsValue also)
    (node : Same one.node other.node) (above : Forall₂ Same one.ancestors other.ancestors) :
    Judge.safeYield one = Judge.safeYield other := by
  apply Judge.safeYield_congr (resembles.isPhrase_eq node _)
  apply rel_imp (resembles.enclosing above .functionDefinition)
  rintro ⟨function, beyond⟩ ⟨also, others⟩ ⟨-, related, further⟩
  exact ⟨returns related, resembles.isProtected_eq further⟩

end Resemblance

end Hygiene.Python
