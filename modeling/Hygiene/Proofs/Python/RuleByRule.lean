import Hygiene.Proofs.Python.Blank
import Hygiene.Proofs.Python.ClosingBrace
import Hygiene.Proofs.Python.Judging
import Hygiene.Proofs.Python.StableSort
import Hygiene.Proofs.Python.Walk
import Mathlib.Data.List.Perm.Basic

/-!
# Rules judge on their own

What a rule finds in a source does not depend on which other rules are on. When a source is
linted with several rules, each of them alone finds its share of what is found, and when each of
some rules finds something or nothing, they find together all that they find alone, in the order
of the positions, then of the nodes, then of the names of the rules (`lint_ruleByRule`).

The findings of one node and one rule are told apart from others by the position of the node in
the walk (`Sighting`), which is its position in preorder (`numberedStations_preorder`). In the
order in which they are made these positions grow, and at one node the names of the rules do
(`sighted_pairwise`), so stable sorting by place keeps to both.

When there are no rules, what each of them says alone is no promise. Linting without rules finds
nothing, but it fails all the same on a source that cannot be read and on a comment that asks for
rules to be switched on (`lint_noRules_refused`).
-/

set_option autoImplicit false

namespace Hygiene.Python

/-! ## The order of findings -/

/-- A finding with the position of its node in the walk. -/
structure Sighting where
  node : Nat
  finding : Finding

namespace Sighting

/-- Sightings are compared by line, by column, by the position of their nodes in the walk, and by
the names of their rules. -/
def order : Sighting → Sighting → Ordering :=
  compareLex (compareOn fun sighting => sighting.finding.line)
    (compareLex (compareOn fun sighting => sighting.finding.column)
      (compareLex (compareOn node) (compareOn fun sighting => sighting.finding.rule.name)))

instance : Std.TransCmp order :=
  inferInstanceAs (Std.TransCmp (compareLex _ (compareLex _ (compareLex _ _))))

/-- Whether a sighting does not come after another one. -/
def notAfter (first second : Sighting) : Bool :=
  (order first second).isLE

theorem notAfter_trans (a b c : Sighting) (first : a.notAfter b = true)
    (second : b.notAfter c = true) : a.notAfter c = true :=
  Std.TransCmp.isLE_trans first second

theorem notAfter_total (a b : Sighting) : (a.notAfter b || b.notAfter a) = true := by
  have swapped : order b a = (order a b).swap := Std.OrientedCmp.eq_swap
  rw [notAfter, notAfter, swapped]
  cases order a b <;> rfl

theorem notAfter_iff (a b : Sighting) :
    a.notAfter b = true ↔
      a.finding.line < b.finding.line ∨ (a.finding.line = b.finding.line ∧
        (a.finding.column < b.finding.column ∨ (a.finding.column = b.finding.column ∧
          (a.node < b.node ∨ (a.node = b.node ∧
            (compare a.finding.rule.name b.finding.rule.name).isLE = true))))) := by
  simp only [notAfter, order, compareLex, compareOn, Ordering.isLE_then_iff_or,
    Nat.compare_eq_lt, Nat.compare_eq_eq]

/-- Sightings in order are findings in order. -/
theorem notAfter_finding {a b : Sighting} (ordered : a.notAfter b = true) :
    a.finding.notAfter b.finding = true := by
  rw [notAfter_iff] at ordered
  simp only [Finding.notAfter, Bool.or_eq_true, Bool.and_eq_true, decide_eq_true_eq]
  omega

end Sighting

/-! ## The sightings of a rule -/

/-- The nodes that the rules are offered, each with its position in the walk. -/
def numberedStations (tree : Tree) : List (Cursor × Nat) :=
  (Cursor.walk tree).zipIdx.filter fun station => station.1.node.isNamed

/-- The number of a node is its position in preorder. -/
theorem numberedStations_preorder {tree : Tree} {station : Cursor × Nat}
    (member : station ∈ numberedStations tree) :
    tree.preorder[station.2]? = some station.1.node := by
  have passed := List.mem_zipIdx_iff_getElem?.mp (List.mem_of_mem_filter member)
  rw [← Cursor.walk_map_node, List.getElem?_map, passed]
  rfl

/-- What a rule finds on a node, if it is on and finds anything. -/
def sighting? (disabled : List (Text × Nat)) (station : Cursor × Nat) (rule : Rule) :
    Option Sighting :=
  if isOn disabled station.1 rule then
    (finding? station.1 rule).map (Sighting.mk station.2)
  else none

/-- All that a rule finds in a tree. -/
def sightings (tree : Tree) (rule : Rule) : List Sighting :=
  match disabledNames (comments tree) with
  | .ok disabled =>
    (numberedStations tree).filterMap fun station => sighting? disabled station rule
  | .error _ => []

/-- All that rules find in a tree, in the order in which it is found. -/
def sighted (rules : List Rule) (disabled : List (Text × Nat)) (tree : Tree) : List Sighting :=
  (numberedStations tree).flatMap fun station => rules.filterMap (sighting? disabled station)

theorem map_fst_numberedStations (tree : Tree) :
    (numberedStations tree).map Prod.fst = stations tree := by
  rw [numberedStations, stations]
  conv => rhs; rw [← List.zipIdx_map_fst 0 (Cursor.walk tree), List.filter_map]
  rfl

theorem map_finding_filterMap_sighting (rules : List Rule) (disabled : List (Text × Nat))
    (station : Cursor × Nat) :
    (rules.filterMap (sighting? disabled station)).map Sighting.finding =
      found rules disabled station.1 := by
  rw [found]
  induction rules with
  | nil => rfl
  | cons rule others ih =>
    rw [List.filterMap_cons, List.filter_cons, sighting?]
    cases isOn disabled station.1 rule with
    | false => exact ih
    | true =>
      simp only [if_true, List.filterMap_cons]
      cases finding? station.1 rule with
      | none => exact ih
      | some made => exact congrArg (made :: ·) ih

theorem map_finding_sighted (rules : List Rule) (disabled : List (Text × Nat)) (tree : Tree) :
    (sighted rules disabled tree).map Sighting.finding =
      (stations tree).flatMap (found rules disabled) := by
  rw [sighted, List.map_flatMap, ← map_fst_numberedStations, List.flatMap_map]
  simp only [map_finding_filterMap_sighting]

theorem flatMap_perm {α β γ : Type} (first : List α) (second : List β) (f : α → β → List γ) :
    (first.flatMap fun a => second.flatMap (f a)).Perm
      (second.flatMap fun b => first.flatMap fun a => f a b) := by
  induction first with
  | nil => simp
  | cons head others ih =>
    simp only [List.flatMap_cons]
    exact (ih.append_left _).trans (List.flatMap_append_perm second _ _)

/-- What rules find together is what they find alone. -/
theorem sighted_perm {disabled : List (Text × Nat)} {tree : Tree}
    (names : disabledNames (comments tree) = .ok disabled) (rules : List Rule) :
    (rules.flatMap (sightings tree)).Perm (sighted rules disabled tree) := by
  have alone : sightings tree = fun rule =>
      (numberedStations tree).flatMap fun station => (sighting? disabled station rule).toList := by
    funext rule
    rw [sightings, names]
    exact List.filterMap_eq_flatMap_toList _ _
  simp only [alone, sighted, List.filterMap_eq_flatMap_toList]
  exact flatMap_perm rules (numberedStations tree) fun rule station =>
    (sighting? disabled station rule).toList

/-! ## The order in which sightings are made -/

theorem sighting_fields {disabled : List (Text × Nat)} {station : Cursor × Nat} {rule : Rule}
    {made : Sighting} (seen : sighting? disabled station rule = some made) :
    made.node = station.2 ∧ made.finding.rule = rule ∧
      finding? station.1 rule = some made.finding := by
  rw [sighting?] at seen
  split at seen
  · obtain ⟨finding, reported, rfl⟩ := Option.map_eq_some_iff.mp seen
    exact ⟨rfl, (finding_fields reported).2.2, reported⟩
  · cases seen

/-- Rules in the order of their names. -/
def Named (rules : List Rule) : Prop :=
  rules.Pairwise fun first second => compare first.name second.name = .lt

theorem named_all : Named Rule.all := by
  rw [Named]
  decide

theorem ofName_name (rule : Rule) : Rule.ofName? rule.name = some rule := by
  cases rule <;> rfl

theorem name_injective {first second : Rule} (same : first.name = second.name) :
    first = second := by
  have known := ofName_name first
  rw [same, ofName_name, Option.some.injEq] at known
  exact known.symm

/-- In the order in which they are made, sightings are of later and later nodes, and at one node
of rules in the order of their names. -/
theorem sighted_pairwise {rules : List Rule} (named : Named rules)
    (disabled : List (Text × Nat)) (tree : Tree) :
    (sighted rules disabled tree).Pairwise fun first second =>
      first.node < second.node ∨ (first.node = second.node ∧
        compare first.finding.rule.name second.finding.rule.name = .lt) := by
  have numbered : (numberedStations tree).Pairwise fun first second => first.2 < second.2 := by
    refine List.Pairwise.filter _ ?_
    have positions : ((Cursor.walk tree).zipIdx.map Prod.snd).Pairwise (· < ·) := by
      rw [List.zipIdx_map_snd]
      exact List.pairwise_lt_range' 1
    exact List.pairwise_map.mp positions
  rw [sighted, List.pairwise_flatMap]
  constructor
  · intro station _
    rw [List.pairwise_filterMap]
    refine named.imp fun ordered made seen other also => .inr ?_
    obtain ⟨here, rule, -⟩ := sighting_fields seen
    obtain ⟨there, next, -⟩ := sighting_fields also
    rw [here, there, rule, next]
    exact ⟨rfl, ordered⟩
  · refine numbered.imp fun earlier made seen other also => .inl ?_
    obtain ⟨rule, -, seen⟩ := List.mem_filterMap.mp seen
    obtain ⟨next, -, also⟩ := List.mem_filterMap.mp also
    rw [(sighting_fields seen).1, (sighting_fields also).1]
    exact earlier

/-- A sighting is known by its node and its rule. -/
theorem sighting_unique {rules : List Rule} {disabled : List (Text × Nat)} {tree : Tree}
    {first second : Sighting} (here : first ∈ sighted rules disabled tree)
    (there : second ∈ sighted rules disabled tree) (node : first.node = second.node)
    (rule : first.finding.rule = second.finding.rule) : first = second := by
  have origin : ∀ made ∈ sighted rules disabled tree, ∃ cursor,
      (Cursor.walk tree)[made.node]? = some cursor ∧
        finding? cursor made.finding.rule = some made.finding := by
    intro made member
    obtain ⟨station, listed, seen⟩ := List.mem_flatMap.mp member
    obtain ⟨judge, -, seen⟩ := List.mem_filterMap.mp seen
    obtain ⟨position, named, reported⟩ := sighting_fields seen
    have placed := List.mem_zipIdx_iff_getElem?.mp (List.mem_of_mem_filter listed)
    exact ⟨station.1, by rw [position, placed], by rw [named, reported]⟩
  obtain ⟨cursor, placed, reported⟩ := origin first here
  obtain ⟨other, also, told⟩ := origin second there
  rw [node, also, Option.some.injEq] at placed
  rw [rule, ← placed, told, Option.some.injEq] at reported
  cases first
  cases second
  simp_all

theorem sighting_antisymm {rules : List Rule} {disabled : List (Text × Nat)} {tree : Tree}
    {first second : Sighting} (here : first ∈ sighted rules disabled tree)
    (there : second ∈ sighted rules disabled tree) (forth : first.notAfter second = true)
    (back : second.notAfter first = true) : first = second := by
  have same : first.order second = .eq := Std.OrientedCmp.isLE_antisymm forth back
  simp only [Sighting.order, compareLex, compareOn, Ordering.then_eq_eq,
    Std.LawfulEqOrd.compare_eq_iff_eq] at same
  exact sighting_unique here there same.2.2.1 (name_injective same.2.2.2)

/-- The order in which findings are reported comes to the finer order of what is sighted, since
sorting is stable. -/
theorem mergeSort_sighted {rules : List Rule} (named : Named rules)
    (disabled : List (Text × Nat)) (tree : Tree) :
    (sighted rules disabled tree).mergeSort
        (fun first second => first.finding.notAfter second.finding) =
      (sighted rules disabled tree).mergeSort Sighting.notAfter := by
  refine Sorting.mergeSort_eq_of_finer
    (fun a b c => Finding.notAfter_trans a.finding b.finding c.finding)
    (fun a b => Finding.notAfter_total a.finding b.finding)
    (fun a b => Sighting.notAfter_finding) Sighting.notAfter_trans Sighting.notAfter_total
    (fun a here b there => sighting_antisymm here there) ?_
  refine (sighted_pairwise named disabled tree).imp fun {a b} later ordered => ?_
  rw [Sighting.notAfter_iff]
  simp only [Finding.notAfter, Bool.or_eq_true, Bool.and_eq_true, decide_eq_true_eq] at ordered
  have fine : a.node < b.node ∨ (a.node = b.node ∧
      (compare a.finding.rule.name b.finding.rule.name).isLE = true) :=
    later.imp_right fun both => ⟨both.1, by rw [both.2]; rfl⟩
  rcases ordered with line | ⟨line, column⟩
  · exact .inl line
  · rcases Nat.lt_or_eq_of_le column with column | column
    · exact .inr ⟨line, .inl column⟩
    · exact .inr ⟨line, .inr ⟨column, fine⟩⟩

/-- **What rules find, in the order in which it is reported**, is what they find alone, ordered
by line, column, node and rule. -/
theorem mergeSort_found {rules : List Rule} (named : Named rules)
    {disabled : List (Text × Nat)} {tree : Tree}
    (names : disabledNames (comments tree) = .ok disabled) :
    ((stations tree).flatMap (found rules disabled)).mergeSort Finding.notAfter =
      ((rules.flatMap (sightings tree)).mergeSort Sighting.notAfter).map Sighting.finding := by
  have together : (sighted rules disabled tree).mergeSort Sighting.notAfter =
      (rules.flatMap (sightings tree)).mergeSort Sighting.notAfter := by
    refine List.Perm.eq_of_pairwise ?_
      (List.pairwise_mergeSort Sighting.notAfter_trans Sighting.notAfter_total _)
      (List.pairwise_mergeSort Sighting.notAfter_trans Sighting.notAfter_total _) ?_
    · intro a b here there
      refine sighting_antisymm (List.mem_mergeSort.mp here) ?_
      exact (sighted_perm names rules).subset (List.mem_mergeSort.mp there)
    · exact (List.mergeSort_perm _ _).trans
        ((sighted_perm names rules).symm.trans (List.mergeSort_perm _ _).symm)
  rw [← map_finding_sighted, ← together, ← mergeSort_sighted named]
  exact (List.map_mergeSort (f := Sighting.finding) fun _ _ _ _ => rfl).symm

/-! ## One rule among several -/

theorem Named.nodup {rules : List Rule} (named : Named rules) : rules.Nodup := by
  refine List.Pairwise.imp (fun {first second} below => ?_) named
  rintro rfl
  rw [Std.LawfulEqOrd.compare_eq_iff_eq.mpr rfl] at below
  cases below

/-- Of what rules find on a node, the share of one of them is what it finds alone. -/
theorem filter_found {rules : List Rule} (nodup : rules.Nodup) {rule : Rule}
    (listed : rule ∈ rules) (disabled : List (Text × Nat)) (cursor : Cursor) :
    (found rules disabled cursor).filter (fun made => made.rule = rule) =
      found [rule] disabled cursor := by
  have alone : found [rule] disabled cursor =
      (if isOn disabled cursor rule then finding? cursor rule else none).toList := by
    rw [found, List.filterMap_filter, List.filterMap_cons]
    cases (if isOn disabled cursor rule then finding? cursor rule else none) <;> rfl
  rw [alone, found, List.filterMap_filter, List.filter_filterMap]
  refine (filterMap_only nodup listed fun other _ apart => ?_).trans ?_
  · split
    · cases reported : finding? cursor other with
      | none => rfl
      | some made =>
        have named := (finding_fields reported).2.2
        simp [Option.filter, named, apart]
    · rfl
  · cases isOn disabled cursor rule with
    | false => rfl
    | true =>
      cases reported : finding? cursor rule with
      | none => rfl
      | some made =>
        have named := (finding_fields reported).2.2
        simp [Option.filter, named]

/-! ## Judging a tree with one rule and with several -/

section Judged

variable {rules : List Rule} (named : Named rules) {tree : Tree}
include named

/-- A rule that has found something together with others finds the same alone. -/
theorem judgeTree_alone {findings : List Finding}
    (judged : judgeTree rules tree = .ok findings) {rule : Rule} (listed : rule ∈ rules) :
    judgeTree [rule] tree = .ok (findings.filter fun made => made.rule = rule) := by
  obtain ⟨disabled, names, accepted, rfl⟩ := (judgeTree_eq_ok_iff rules tree findings).mp judged
  refine (judgeTree_eq_ok_iff [rule] tree _).mpr ⟨disabled, names, ?_, ?_⟩
  · intro cursor member judge only
    rw [List.mem_singleton] at only
    exact accepted cursor member judge (only ▸ listed)
  · rw [Sorting.filter_mergeSort Finding.notAfter_trans Finding.notAfter_total,
      List.filter_flatMap]
    simp only [filter_found named.nodup listed]

omit named in
/-- Rules that judge a tree alone judge it together. -/
theorem exists_judged (some : rules ≠ [])
    (alone : ∀ rule ∈ rules, ∃ findings, judgeTree [rule] tree = .ok findings) :
    ∃ disabled, disabledNames (comments tree) = .ok disabled ∧
      ∀ cursor ∈ stations tree, ∀ rule ∈ rules, isOn disabled cursor rule = true →
        reason? cursor rule = none := by
  obtain ⟨first, others, rfl⟩ := List.exists_cons_of_ne_nil some
  obtain ⟨findings, judged⟩ := alone first List.mem_cons_self
  obtain ⟨disabled, names, -⟩ := (judgeTree_eq_ok_iff _ _ _).mp judged
  refine ⟨disabled, names, fun cursor member rule listed => ?_⟩
  obtain ⟨own, judged⟩ := alone rule listed
  obtain ⟨same, also, accepted, -⟩ := (judgeTree_eq_ok_iff _ _ _).mp judged
  rw [names, Except.ok.injEq] at also
  subst also
  exact accepted cursor member rule List.mem_cons_self

/-- **Rules that judge a tree alone find together what they find alone**, in order. -/
theorem judgeTree_together (some : rules ≠ [])
    (alone : ∀ rule ∈ rules, ∃ findings, judgeTree [rule] tree = .ok findings) :
    judgeTree rules tree =
      .ok (((rules.flatMap (sightings tree)).mergeSort Sighting.notAfter).map
        Sighting.finding) := by
  obtain ⟨disabled, names, accepted⟩ := exists_judged some alone
  exact (judgeTree_eq_ok_iff _ _ _).mpr
    ⟨disabled, names, accepted, (mergeSort_found named names).symm⟩

end Judged

/-- What a single rule finds in a tree, in the order in which it is reported. -/
theorem judgeTree_single {rule : Rule} {tree : Tree} {findings : List Finding}
    (judged : judgeTree [rule] tree = .ok findings) :
    findings = ((sightings tree rule).mergeSort Sighting.notAfter).map Sighting.finding := by
  have alone : ∀ judge ∈ [rule], ∃ made, judgeTree [judge] tree = .ok made := by
    intro judge only
    rw [List.mem_singleton] at only
    exact ⟨findings, only ▸ judged⟩
  have together := judgeTree_together (List.pairwise_singleton _ rule) (List.cons_ne_nil rule [])
    alone
  rw [judged, Except.ok.injEq, List.flatMap_cons, List.flatMap_nil, List.append_nil] at together
  exact together

/-- Without rules nothing is found, unless a comment asks for rules to be switched on. -/
theorem judgeTree_nil_iff (tree : Tree) (findings : List Finding) :
    judgeTree [] tree = .ok findings ↔
      findings = [] ∧ ∀ comment ∈ comments tree, comment.text.holds enableMarker = false := by
  rw [judgeTree_eq_ok_iff]
  have nothing : ∀ disabled, (stations tree).flatMap (found [] disabled) = [] := by
    intro disabled
    rw [List.flatMap_eq_nil_iff]
    exact fun _ _ => rfl
  simp only [nothing, disabledNames_eq_ok_iff, List.mergeSort_nil, List.not_mem_nil]
  constructor
  · rintro ⟨disabled, ⟨quiet, -⟩, -, same⟩
    exact ⟨same, quiet⟩
  · rintro ⟨same, quiet⟩
    exact ⟨_, ⟨quiet, rfl⟩, fun _ _ _ none => none.elim, same⟩

/-! ## Linting a source -/

theorem lint_eq_ok_iff (rules : List Rule) (source : Text) (findings : List Finding) :
    lint rules source = .ok findings ↔
      ∃ tree, parse source = .ok tree ∧ judgeTree rules tree = .ok findings := by
  rw [lint]
  cases parse source with
  | error line => simp
  | ok tree => simp

theorem named_filter (on : Rule → Bool) : Named (Rule.all.filter on) :=
  named_all.filter on

theorem mem_filter_all (on : Rule → Bool) (rule : Rule) :
    rule ∈ Rule.all.filter on ↔ on rule = true := by
  have known : rule ∈ Rule.all := by cases rule <;> decide
  rw [List.mem_filter]
  exact ⟨fun both => both.2, fun chosen => ⟨known, chosen⟩⟩

/-- **Rules judge on their own.** When a source is linted with some rules, each of them alone
finds its share of what is found. When there are some rules, and each of them lints a source
alone, they lint it together and find what they find alone, ordered by line, column, node and
rule. Without rules, linting a source finds nothing, provided that the source can be read and no
comment asks for rules to be switched on. -/
theorem lint_ruleByRule (on : Rule → Bool) (source : Text) :
    (∀ findings, lint (Rule.all.filter on) source = .ok findings →
      ∀ rule, on rule = true →
        lint [rule] source = .ok (findings.filter fun made => made.rule = rule)) ∧
    ((∃ rule, on rule = true) →
      (∀ rule, on rule = true → ∃ findings, lint [rule] source = .ok findings) →
      ∃ tree, parse source = .ok tree ∧
        (∀ rule, on rule = true → lint [rule] source =
          .ok (((sightings tree rule).mergeSort Sighting.notAfter).map Sighting.finding)) ∧
        lint (Rule.all.filter on) source =
          .ok ((((Rule.all.filter on).flatMap (sightings tree)).mergeSort
            Sighting.notAfter).map Sighting.finding)) ∧
    ((∀ rule, on rule = false) →
      ∀ findings, lint (Rule.all.filter on) source = .ok findings ↔
        findings = [] ∧ ∃ tree, parse source = .ok tree ∧
          ∀ comment ∈ comments tree, comment.text.holds enableMarker = false) := by
  refine ⟨fun findings linted rule chosen => ?_, fun ⟨first, chosen⟩ alone => ?_,
    fun none findings => ?_⟩
  · obtain ⟨tree, read, judged⟩ := (lint_eq_ok_iff _ _ _).mp linted
    exact (lint_eq_ok_iff _ _ _).mpr
      ⟨tree, read, judgeTree_alone (named_filter on) judged ((mem_filter_all on rule).mpr chosen)⟩
  · obtain ⟨findings, linted⟩ := alone first chosen
    obtain ⟨tree, read, -⟩ := (lint_eq_ok_iff _ _ _).mp linted
    have judges : ∀ rule, on rule = true → ∃ found, judgeTree [rule] tree = .ok found := by
      intro rule chosen
      obtain ⟨own, linted⟩ := alone rule chosen
      obtain ⟨same, also, judged⟩ := (lint_eq_ok_iff _ _ _).mp linted
      rw [read, Except.ok.injEq] at also
      exact ⟨own, also ▸ judged⟩
    have some : Rule.all.filter on ≠ [] :=
      List.ne_nil_of_mem ((mem_filter_all on first).mpr chosen)
    refine ⟨tree, read, fun rule chosen => ?_, ?_⟩
    · obtain ⟨own, judged⟩ := judges rule chosen
      rw [judgeTree_single judged] at judged
      exact (lint_eq_ok_iff _ _ _).mpr ⟨tree, read, judged⟩
    · exact (lint_eq_ok_iff _ _ _).mpr ⟨tree, read, judgeTree_together (named_filter on) some
        fun rule listed => judges rule ((mem_filter_all on rule).mp listed)⟩
  · have empty : Rule.all.filter on = [] := by
      rw [List.filter_eq_nil_iff]
      intro rule _
      simp [none rule]
    rw [empty, lint_eq_ok_iff]
    simp only [judgeTree_nil_iff]
    constructor
    · rintro ⟨tree, read, same, quiet⟩
      exact ⟨same, tree, read, quiet⟩
    · rintro ⟨same, tree, read, quiet⟩
      exact ⟨tree, read, same, quiet⟩

/-- The theorem at a source of one blank line that two rules lint. -/
theorem lint_ruleByRule_blankLine :
    let on : Rule → Bool := fun rule => rule = .safeIterator || rule = .trailingComma
    let source : Text := [' ', '\n']
    (lint (Rule.all.filter on) source = .ok [] ∧ on .safeIterator = true ∧
      on .trailingComma = true) ∧
    (∀ rule, on rule = true → lint [rule] source = .ok []) ∧
    ∃ tree, parse source = .ok tree ∧
      (∀ rule, on rule = true → lint [rule] source =
        .ok (((sightings tree rule).mergeSort Sighting.notAfter).map Sighting.finding)) ∧
      lint (Rule.all.filter on) source =
        .ok ((((Rule.all.filter on).flatMap (sightings tree)).mergeSort
          Sighting.notAfter).map Sighting.finding) := by
  intro on source
  have blanks : Blanks source :=
    List.forall_mem_cons.mpr ⟨rfl, List.forall_mem_singleton.mpr rfl⟩
  have linted := lint_blanks (Rule.all.filter on) blanks
  obtain ⟨apart, together, -⟩ := lint_ruleByRule on source
  have alone : ∀ rule, on rule = true → lint [rule] source = .ok [] := apart [] linted
  exact ⟨⟨linted, by decide, by decide⟩, alone, together ⟨.safeIterator, by decide⟩
    fun rule chosen => ⟨[], alone rule chosen⟩⟩

/-- Without rules, each of the rules lints every source, and a source that cannot be read is
refused. -/
theorem lint_noRules_refused :
    ¬ ∀ (on : Rule → Bool) (source : Text),
      (∀ rule, on rule = true → ∃ findings, lint [rule] source = .ok findings) →
        ∃ findings, lint (Rule.all.filter on) source = .ok findings := by
  intro claimed
  obtain ⟨findings, linted⟩ := claimed (fun _ => false) ['\x7d'] nofun
  obtain ⟨tree, read, -⟩ := (lint_eq_ok_iff _ _ _).mp linted
  obtain ⟨line, refused⟩ := parse_closingBrace []
  rw [read] at refused
  cases refused

end Hygiene.Python
