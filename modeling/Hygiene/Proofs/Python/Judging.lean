import Hygiene.Python.Lint

/-!
# When a tree is judged, and what is found

A rule says one thing about a node, whatever the other rules say: it reports a finding
(`finding?`), or has a reason to refuse the node (`reason?`), or neither. A tree is judged unless
a comment asks for rules to be switched on again or a rule that is on refuses a node, and what
is found is what the rules that are on find on each node (`judgeTree_eq`).
-/

set_option autoImplicit false

namespace Hygiene.Python

/-- The finding of a rule on a node, if it reports one. -/
def finding? (cursor : Cursor) (rule : Rule) : Option Finding :=
  match rule.check cursor with
  | .violation message =>
    some ⟨cursor.node.line, cursor.node.start.column, rule, message⟩
  | _ => none

/-- Why a rule refuses a node, if it does. -/
def reason? (cursor : Cursor) (rule : Rule) : Option String :=
  match rule.check cursor with
  | .unsupported reason => some reason
  | _ => none

/-- Whether no comment has switched a rule off where a node stands. -/
def isOn (disabled : List (Text × Nat)) (cursor : Cursor) (rule : Rule) : Bool :=
  !isDisabled disabled cursor.node.line rule

/-- What rules find on a node, as far as they are on. -/
def found (rules : List Rule) (disabled : List (Text × Nat)) (cursor : Cursor) : List Finding :=
  (rules.filter (isOn disabled cursor)).filterMap (finding? cursor)

/-- The first refusal of a node by a rule that is on. -/
def refusal? (rules : List Rule) (disabled : List (Text × Nat)) (cursor : Cursor) :
    Option Refusal :=
  ((rules.filter (isOn disabled cursor)).findSome? (reason? cursor)).map
    (Refusal.mk cursor.node.line)

/-- The comments of a tree. -/
def comments (tree : Tree) : List Tree :=
  tree.preorder.filter fun node => node.isToken .comment

/-- The nodes of a tree that the rules are offered. -/
def stations (tree : Tree) : List Cursor :=
  (Cursor.walk tree).filter fun cursor => cursor.node.isNamed

theorem finding_fields {cursor : Cursor} {rule : Rule} {made : Finding}
    (reported : finding? cursor rule = some made) :
    made.line = cursor.node.line ∧ made.column = cursor.node.start.column ∧ made.rule = rule := by
  rw [finding?] at reported
  split at reported
  · cases reported
    exact ⟨rfl, rfl, rfl⟩
  · cases reported

/-! ## Comments that switch rules off -/

/-- The names that comments switch off, each with the line of the first comment that does. -/
def namesOff (comments : List Tree) : List (Text × Nat) :=
  comments.foldl
    (fun known comment => (disabledBy comment.text).foldl (addDisabled comment.line) known) []

/-- The refusal of a comment that asks for rules to be switched on again. -/
def reenabling (comment : Tree) : Refusal :=
  ⟨comment.line, "Re-enabling sigoptlint disables is not supported"⟩

theorem disabledNames_eq (comments : List Tree) :
    disabledNames comments =
      match comments.find? fun comment => comment.text.holds enableMarker with
      | some comment => .error (reenabling comment)
      | none => .ok (namesOff comments) := by
  have general : ∀ known : List (Text × Nat),
      comments.foldlM
          (fun known comment =>
            if comment.text.holds enableMarker then Except.error (reenabling comment)
            else .ok ((disabledBy comment.text).foldl (addDisabled comment.line) known))
          known =
        match comments.find? fun comment => comment.text.holds enableMarker with
        | some comment => .error (reenabling comment)
        | none => .ok (comments.foldl
            (fun known comment => (disabledBy comment.text).foldl (addDisabled comment.line) known)
            known) := by
    induction comments with
    | nil => exact fun known => rfl
    | cons comment others ih =>
      intro known
      rw [List.foldlM_cons, List.find?_cons]
      cases comment.text.holds enableMarker with
      | true => rfl
      | false => exact ih _
  exact general []

/-- Comments switch rules off as long as none asks for rules to be switched on again. -/
theorem disabledNames_eq_ok_iff (comments : List Tree) (disabled : List (Text × Nat)) :
    disabledNames comments = .ok disabled ↔
      (∀ comment ∈ comments, comment.text.holds enableMarker = false) ∧
        disabled = namesOff comments := by
  rw [disabledNames_eq]
  cases asked : comments.find? fun comment => comment.text.holds enableMarker with
  | none =>
    have none := List.find?_eq_none.mp asked
    simp only [Except.ok.injEq]
    constructor
    · exact fun same => ⟨by simpa using none, same.symm⟩
    · exact fun ⟨_, same⟩ => same.symm
  | some comment =>
    have holds := List.find?_some asked
    refine ⟨nofun, fun ⟨quiet, _⟩ => ?_⟩
    rw [quiet comment (List.mem_of_find?_eq_some asked)] at holds
    cases holds

/-! ## One node -/

/-- Rules judge a node one after the other until one refuses it. -/
theorem foldlM_check (cursor : Cursor) (rules : List Rule) (earlier : List Finding) :
    rules.foldlM
        (fun findings rule =>
          match rule.check cursor with
          | .clean => .ok findings
          | .violation message =>
            .ok (findings ++ [⟨cursor.node.line, cursor.node.start.column, rule, message⟩])
          | .unsupported reason => .error ⟨cursor.node.line, reason⟩)
        earlier =
      match rules.findSome? (reason? cursor) with
      | some reason => Except.error (Refusal.mk cursor.node.line reason)
      | none => .ok (earlier ++ rules.filterMap (finding? cursor)) := by
  induction rules generalizing earlier with
  | nil => simp [pure, Except.pure]
  | cons rule others ih =>
    rw [List.foldlM_cons, List.findSome?_cons, List.filterMap_cons]
    cases verdict : rule.check cursor with
    | clean =>
      simp only [reason?, finding?, verdict]
      exact ih earlier
    | violation message =>
      simp only [reason?, finding?, verdict]
      refine (ih _).trans ?_
      simp only [List.append_assoc, List.singleton_append]
    | unsupported reason =>
      simp only [reason?, verdict]
      rfl

theorem judgeNode_eq (rules : List Rule) (disabled : List (Text × Nat)) (cursor : Cursor) :
    judgeNode rules disabled cursor =
      match refusal? rules disabled cursor with
      | some refusal => .error refusal
      | none => .ok (found rules disabled cursor) := by
  refine (foldlM_check cursor (rules.filter (isOn disabled cursor)) []).trans ?_
  rw [refusal?]
  cases (rules.filter (isOn disabled cursor)).findSome? (reason? cursor) <;> rfl

/-! ## All nodes -/

theorem mapM_judgeNode (rules : List Rule) (disabled : List (Text × Nat))
    (cursors : List Cursor) :
    cursors.mapM (judgeNode rules disabled) =
      match cursors.findSome? (refusal? rules disabled) with
      | some refusal => .error refusal
      | none => .ok (cursors.map (found rules disabled)) := by
  induction cursors with
  | nil => rfl
  | cons cursor others ih =>
    rw [List.mapM_cons, judgeNode_eq, List.findSome?_cons, ih]
    cases refusal? rules disabled cursor with
    | some refusal => rfl
    | none =>
      cases others.findSome? (refusal? rules disabled) <;> rfl

/-- **What comes of judging a tree.** -/
theorem judgeTree_eq (rules : List Rule) (tree : Tree) :
    judgeTree rules tree =
      match disabledNames (comments tree) with
      | .error refusal => .error refusal
      | .ok disabled =>
        match (stations tree).findSome? (refusal? rules disabled) with
        | some refusal => .error refusal
        | none =>
          .ok (((stations tree).flatMap (found rules disabled)).mergeSort Finding.notAfter) := by
  rw [judgeTree, ← comments, ← stations]
  cases disabledNames (comments tree) with
  | error refusal => rfl
  | ok disabled =>
    show (do
      let findings ← (stations tree).mapM (judgeNode rules disabled)
      return findings.flatten.mergeSort Finding.notAfter) = _
    rw [mapM_judgeNode]
    simp only [List.flatMap_def]
    cases (stations tree).findSome? (refusal? rules disabled) <;> rfl

theorem refusal_eq_none_iff (rules : List Rule) (disabled : List (Text × Nat)) (cursor : Cursor) :
    refusal? rules disabled cursor = none ↔
      ∀ rule ∈ rules, isOn disabled cursor rule = true → reason? cursor rule = none := by
  simp [refusal?, List.findSome?_eq_none_iff]

/-- A tree is judged when its comments ask for nothing to be switched on and no rule that is on
refuses a node. -/
theorem judgeTree_eq_ok_iff (rules : List Rule) (tree : Tree) (findings : List Finding) :
    judgeTree rules tree = .ok findings ↔
      ∃ disabled, disabledNames (comments tree) = .ok disabled ∧
        (∀ cursor ∈ stations tree, ∀ rule ∈ rules, isOn disabled cursor rule = true →
          reason? cursor rule = none) ∧
        findings =
          ((stations tree).flatMap (found rules disabled)).mergeSort Finding.notAfter := by
  rw [judgeTree_eq]
  cases disabledNames (comments tree) with
  | error refusal => simp
  | ok disabled =>
    have accepted : (stations tree).findSome? (refusal? rules disabled) = none ↔
        ∀ cursor ∈ stations tree, ∀ rule ∈ rules, isOn disabled cursor rule = true →
          reason? cursor rule = none := by
      simp only [List.findSome?_eq_none_iff, refusal_eq_none_iff]
    simp only [Except.ok.injEq, exists_eq_left', ← accepted]
    cases (stations tree).findSome? (refusal? rules disabled) <;> simp [eq_comm]

/-- A tree that is not judged has a comment that asks for rules to be switched on, or a node
that a rule refuses which is on there. -/
theorem judgeTree_eq_error {rules : List Rule} {tree : Tree} {refusal : Refusal}
    (refused : judgeTree rules tree = .error refusal) :
    disabledNames (comments tree) = .error refusal ∨
      ∃ disabled, disabledNames (comments tree) = .ok disabled ∧
        ∃ cursor ∈ stations tree, ∃ rule ∈ rules, isOn disabled cursor rule = true ∧
          reason? cursor rule = some refusal.reason ∧ cursor.node.line = refusal.line := by
  rw [judgeTree_eq] at refused
  cases names : disabledNames (comments tree) with
  | error first =>
    rw [names] at refused
    exact .inl (congrArg Except.error (Except.error.inj refused))
  | ok disabled =>
    rw [names] at refused
    dsimp only at refused
    split at refused
    · rename_i first refusing
      cases refused
      obtain ⟨cursor, member, refuses⟩ := List.exists_of_findSome?_eq_some refusing
      obtain ⟨reason, given, rfl⟩ := Option.map_eq_some_iff.mp refuses
      obtain ⟨rule, active, gives⟩ := List.exists_of_findSome?_eq_some given
      obtain ⟨listed, on⟩ := List.mem_filter.mp active
      exact .inr ⟨disabled, rfl, cursor, member, rule, listed, on, gives, rfl⟩
    · cases refused

/-! ## The order of findings -/

theorem Finding.notAfter_trans (a b c : Finding) (first : a.notAfter b = true)
    (second : b.notAfter c = true) : a.notAfter c = true := by
  simp only [notAfter, Bool.or_eq_true, Bool.and_eq_true, decide_eq_true_eq] at *
  omega

theorem Finding.notAfter_total (a b : Finding) : (a.notAfter b || b.notAfter a) = true := by
  simp only [notAfter, Bool.or_eq_true, Bool.and_eq_true, decide_eq_true_eq]
  omega

end Hygiene.Python
