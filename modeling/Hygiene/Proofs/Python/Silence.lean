import Hygiene.Proofs.Python.StableSort
import Hygiene.Proofs.Python.Verdicts

/-!
# What comments silence

A rule is off from the first line on which a comment names it, and on in front of that line
(`isOn_iff`). This needs that the comments are met in the order of their lines: the line that is
kept for a name is the line of the comment that is met first.

When one comment of a source is written anew, so that it names rules that it did not name, the
findings of these rules from its line on are gone, and nothing else has changed
(`judgeTree_silenced`). What rules say about nodes does not depend on comments, what is left out
is left out before the findings are sorted, and sorting is stable. A single message can change,
where a comment stands inside a dotted name that is imported, since it quotes the name as it is
written (`importedName_requoted`).
-/

set_option autoImplicit false

namespace Hygiene.Python

open List (Forall₂)
open Hygiene.Pointwise

/-! ## The line from which a rule is off -/

/-- The line that is kept for a name, if there is one. -/
def lineOff? (known : List (Text × Nat)) (name : Text) : Option Nat :=
  (known.find? fun entry => entry.1 = name).map Prod.snd

theorem isDisabled_iff (known : List (Text × Nat)) (line : Nat) (rule : Rule) :
    isDisabled known line rule = true ↔ ∃ first, lineOff? known rule.name = some first ∧
      first ≤ line := by
  rw [isDisabled, lineOff?]
  cases known.find? fun entry => entry.1 = rule.name with
  | none => exact ⟨nofun, fun ⟨_, kept, _⟩ => nomatch kept⟩
  | some entry =>
    constructor
    · exact fun below => ⟨entry.2, rfl, of_decide_eq_true below⟩
    · rintro ⟨first, kept, below⟩
      cases kept
      exact decide_eq_true below

/-- A line that is kept for a name stays. -/
theorem lineOff_addDisabled (line : Nat) (known : List (Text × Nat)) (added name : Text) :
    lineOff? (addDisabled line known added) name =
      (lineOff? known name).or (if added = name then some line else none) := by
  rw [addDisabled]
  split
  · rename_i listed
    split
    · rename_i same
      subst same
      obtain ⟨entry, found⟩ := Option.isSome_iff_exists.mp (List.find?_isSome.mpr
        (List.any_eq_true.mp listed))
      rw [lineOff?, found]
      rfl
    · rw [Option.or_none]
  · rw [lineOff?, lineOff?, List.find?_append]
    cases known.find? fun entry => entry.1 = name with
    | some entry => rfl
    | none =>
      by_cases same : added = name
      · simp [same]
      · simp [same]

theorem lineOff_foldl (line : Nat) (names : List Text) (known : List (Text × Nat)) (name : Text) :
    lineOff? (names.foldl (addDisabled line) known) name =
      (lineOff? known name).or (if name ∈ names then some line else none) := by
  induction names generalizing known with
  | nil => simp
  | cons added names ih =>
    rw [List.foldl_cons, ih, lineOff_addDisabled, Option.or_assoc]
    by_cases same : added = name
    · simp [same]
    · simp [same, Ne.symm same]

/-- The line that is kept for a name is the line of the first comment with the name. -/
theorem lineOff_namesOff (comments : List Tree) (name : Text) :
    lineOff? (namesOff comments) name =
      (comments.find? fun comment => name ∈ disabledBy comment.text).map Tree.line := by
  have general : ∀ known : List (Text × Nat),
      lineOff?
          (comments.foldl
            (fun known comment => (disabledBy comment.text).foldl (addDisabled comment.line) known)
            known)
          name =
        (lineOff? known name).or
          ((comments.find? fun comment => name ∈ disabledBy comment.text).map Tree.line) := by
    induction comments with
    | nil => simp
    | cons comment others ih =>
      intro known
      rw [List.foldl_cons, ih, lineOff_foldl, Option.or_assoc, List.find?_cons]
      by_cases named : name ∈ disabledBy comment.text
      · simp [named]
      · simp [named]
  exact general []

/-- Comments that are met in the order of their lines. -/
def Ordered (comments : List Tree) : Prop :=
  comments.Pairwise fun first second => first.line ≤ second.line

/-- **A rule is off from the first line of a comment that names it.** -/
theorem isDisabled_namesOff_iff {comments : List Tree} (ordered : Ordered comments) (line : Nat)
    (rule : Rule) :
    isDisabled (namesOff comments) line rule = true ↔
      ∃ comment ∈ comments, rule.name ∈ disabledBy comment.text ∧ comment.line ≤ line := by
  rw [isDisabled_iff, lineOff_namesOff]
  constructor
  · rintro ⟨first, kept, below⟩
    obtain ⟨comment, found, rfl⟩ := Option.map_eq_some_iff.mp kept
    have named := List.find?_some found
    exact ⟨comment, List.mem_of_find?_eq_some found, of_decide_eq_true named, below⟩
  · rintro ⟨comment, member, named, below⟩
    have some : (comments.find? fun comment => rule.name ∈ disabledBy comment.text).isSome := by
      rw [List.find?_isSome]
      exact ⟨comment, member, decide_eq_true named⟩
    obtain ⟨first, found⟩ := Option.isSome_iff_exists.mp some
    refine ⟨first.line, by rw [found]; rfl, ?_⟩
    -- What is met before the comment that is found does not name the rule.
    obtain ⟨-, before, after, rfl, unnamed⟩ := List.find?_eq_some_iff_append.mp found
    rcases List.mem_append.mp member with inside | inside
    · exact absurd (unnamed comment inside) (by simp [named])
    · rcases List.mem_cons.mp inside with rfl | inside
      · exact below
      · have apart := (List.pairwise_append.mp ordered).2.1
        exact Nat.le_trans ((List.pairwise_cons.mp apart).1 comment inside) below

theorem isOn_iff {comments : List Tree} (ordered : Ordered comments) (cursor : Cursor)
    (rule : Rule) :
    isOn (namesOff comments) cursor rule = true ↔
      ∀ comment ∈ comments, rule.name ∈ disabledBy comment.text →
        cursor.node.line < comment.line := by
  rw [isOn, Bool.not_eq_true', ← Bool.not_eq_true, isDisabled_namesOff_iff ordered]
  constructor
  · intro off comment member named
    exact Nat.lt_of_not_le fun below => off ⟨comment, member, named, below⟩
  · rintro above ⟨comment, member, named, below⟩
    exact absurd below (Nat.not_le_of_lt (above comment member named))

/-! ## Trees whose nodes begin in order -/

/-- The nodes of a tree begin on lines that never decrease in preorder. -/
def Tree.InOrder (tree : Tree) : Prop :=
  tree.preorder.Pairwise fun first second => first.line ≤ second.line

instance (tree : Tree) : Decidable tree.InOrder :=
  inferInstanceAs (Decidable (tree.preorder.Pairwise _))

theorem Tree.InOrder.comments {tree : Tree} (inOrder : tree.InOrder) : Ordered (comments tree) :=
  inOrder.sublist List.filter_sublist

section Judged

variable {tree : Tree} (inOrder : tree.InOrder) {rules : List Rule}
include inOrder

/-- What is found are the findings of the rules that no comment above names. -/
theorem mem_judgeTree_iff {findings : List Finding} (judged : judgeTree rules tree = .ok findings)
    (made : Finding) :
    made ∈ findings ↔ ∃ cursor ∈ stations tree, ∃ rule ∈ rules,
      finding? cursor rule = some made ∧
        ∀ comment ∈ comments tree, rule.name ∈ disabledBy comment.text →
          cursor.node.line < comment.line := by
  obtain ⟨disabled, names, -, rfl⟩ := (judgeTree_eq_ok_iff rules tree findings).mp judged
  obtain ⟨-, rfl⟩ := (disabledNames_eq_ok_iff _ _).mp names
  simp only [List.mem_mergeSort, List.mem_flatMap, found, List.mem_filterMap, List.mem_filter,
    isOn_iff inOrder.comments, and_assoc]
  constructor
  · rintro ⟨cursor, station, rule, listed, above, reported⟩
    exact ⟨cursor, station, rule, listed, reported, above⟩
  · rintro ⟨cursor, station, rule, listed, reported, above⟩
    exact ⟨cursor, station, rule, listed, above, reported⟩

/-- A tree without comments that ask for rules to be switched on is refused for a node in front
of every comment that names the rule. -/
theorem judgeTree_refused {refusal : Refusal}
    (quiet : ∀ comment ∈ comments tree, comment.text.holds enableMarker = false)
    (refused : judgeTree rules tree = .error refusal) :
    ∃ cursor ∈ stations tree, ∃ rule ∈ rules, reason? cursor rule = some refusal.reason ∧
      cursor.node.line = refusal.line ∧
        ∀ comment ∈ comments tree, rule.name ∈ disabledBy comment.text →
          refusal.line < comment.line := by
  have names : disabledNames (comments tree) = .ok (namesOff (comments tree)) :=
    (disabledNames_eq_ok_iff _ _).mpr ⟨quiet, rfl⟩
  rcases judgeTree_eq_error refused with asked | ⟨disabled, read, cursor, station, rule, listed,
    on, reason, line⟩
  · rw [names] at asked
    cases asked
  · rw [names, Except.ok.injEq] at read
    subst read
    refine ⟨cursor, station, rule, listed, reason, line, ?_⟩
    rw [← line]
    exact (isOn_iff inOrder.comments cursor rule).mp on

end Judged

/-! ## One comment that names more rules -/

variable {change : Rewording} {around : List Phrase}

/-- Two findings are the same, or they are the messages on an imported test suite. -/
def Finding.Restated (change : Rewording) (around : List Phrase) (first second : Finding) : Prop :=
  first = second ∨ first.rule = .forbidImportTestSuite ∧ ∃ message,
    second = { first with message } ∧ Python.Restated change around first.message message

/-- Whether the comment as it is written anew leaves a rule on where it is on a line. -/
def Rewording.leavesOn (change : Rewording) (line : Nat) (rule : Rule) : Bool :=
  rule.name ∈ disabledBy change.new → line < change.line

/-- Whether a finding is not silenced by the comment as it is written anew. -/
def Rewording.keeps (change : Rewording) (made : Finding) : Bool :=
  change.leavesOn made.line made.rule

theorem Finding.Restated.outline {first second : Finding}
    (restated : first.Restated change around second) :
    first.line = second.line ∧ first.column = second.column ∧ first.rule = second.rule := by
  obtain rfl | ⟨-, message, rfl, -⟩ := restated <;> exact ⟨rfl, rfl, rfl⟩

/-- Outside of dotted names no message changes. -/
theorem Finding.Restated.eq {first second : Finding}
    (restated : first.Restated change around second) (clear : .dottedName ∉ around) :
    first = second := by
  obtain same | ⟨-, message, rfl, rfl | ⟨dotted, -⟩⟩ := restated
  · exact same
  · rfl
  · exact absurd dotted clear

/-- What a rule finds on a node is restated. -/
theorem AlikeCursors.finding {first second : Cursor}
    (alike : AlikeCursors change around first second) (rule : Rule) :
    Option.Rel (Finding.Restated change around) (finding? first rule) (finding? second rule) := by
  rw [finding?, finding?, ← alike.node.line_eq, ← alike.node.start_eq]
  obtain same | ⟨rfl, message, other, former, latter, restated⟩ := alike.check rule
  · rw [same]
    cases rule.check second with
    | violation message => exact .some (.inl rfl)
    | clean => exact .none
    | unsupported reason => exact .none
  · rw [former, latter]
    exact .some (.inr ⟨rfl, other, rfl, restated⟩)

/-- Why a rule refuses a node does not depend on how a comment is written. -/
theorem AlikeCursors.reason_eq {first second : Cursor}
    (alike : AlikeCursors change around first second) (rule : Rule) :
    reason? first rule = reason? second rule := by
  rw [reason?, reason?]
  obtain same | ⟨-, message, other, former, latter, -⟩ := alike.check rule
  · rw [same]
  · rw [former, latter]

/-- What rules find on a node is restated. -/
theorem AlikeCursors.found {first second : Cursor}
    (alike : AlikeCursors change around first second) (rules : List Rule)
    (disabled : List (Text × Nat)) :
    Forall₂ (Finding.Restated change around) (found rules disabled first)
      (found rules disabled second) := by
  have on : isOn disabled first = isOn disabled second := by
    funext rule
    rw [isOn, isOn, alike.node.line_eq]
  rw [Python.found, Python.found, on]
  refine List.rel_filterMap (R := Eq) ?_ (List.forall₂_same.mpr fun _ _ => rfl)
  rintro rule _ rfl
  exact alike.finding rule

/-- A comment without the mark names no rule. -/
theorem disabledBy_eq_nil {text : Text} (plain : text.holds disableMarker = false) :
    disabledBy text = [] := by
  rw [Text.holds, Option.isSome_eq_false_iff, Option.isNone_iff_eq_none] at plain
  rw [disabledBy, Text.splitAround?, plain]
  rfl

/-- No comment asks for rules to be switched on, the one that is written anew included. -/
theorem quiet_newComment {before after : List Tree} {role : Option Role}
    (silent : ∀ comment ∈ before ++ change.oldComment role :: after,
      comment.text.holds enableMarker = false)
    (quiet : change.new.holds enableMarker = false) :
    ∀ comment ∈ before ++ change.newComment role :: after,
      comment.text.holds enableMarker = false := by
  rw [List.forall_mem_append, List.forall_mem_cons] at silent ⊢
  obtain ⟨inFront, -, behind⟩ := silent
  exact ⟨inFront, quiet, behind⟩

/-- A rule is on beside the new comment where it was on beside the old one and the new comment
leaves it on. -/
theorem isOn_newComment {before after : List Tree} {role : Option Role}
    (ordered : Ordered (before ++ change.oldComment role :: after))
    (plain : change.old.holds disableMarker = false) (cursor : Cursor) (rule : Rule) :
    isOn (namesOff (before ++ change.newComment role :: after)) cursor rule =
      (isOn (namesOff (before ++ change.oldComment role :: after)) cursor rule &&
        change.leavesOn cursor.node.line rule) := by
  have reordered : Ordered (before ++ change.newComment role :: after) := by
    rw [Ordered, ← List.pairwise_map (f := Tree.line) (R := (· ≤ ·)), List.map_append,
      List.map_cons] at ordered ⊢
    exact ordered
  have unnamed : rule.name ∉ disabledBy (change.oldComment role).text := by
    rw [show disabledBy (change.oldComment role).text = [] from disabledBy_eq_nil plain]
    exact List.not_mem_nil
  have spared : change.leavesOn cursor.node.line rule = true ↔
      (rule.name ∈ disabledBy (change.newComment role).text →
        cursor.node.line < (change.newComment role).line) := by
    rw [Rewording.leavesOn, decide_eq_true_iff]
    rfl
  rw [Bool.eq_iff_iff, Bool.and_eq_true, isOn_iff ordered, isOn_iff reordered, spared]
  simp only [List.forall_mem_append, List.forall_mem_cons]
  constructor
  · rintro ⟨inFront, own, behind⟩
    exact ⟨⟨inFront, fun named => absurd named unnamed, behind⟩, own⟩
  · rintro ⟨⟨inFront, -, behind⟩, own⟩
    exact ⟨inFront, own, behind⟩

/-- What is found on a node where fewer rules are on is what was found of those that are. -/
theorem found_eq_filter {former latter : List (Text × Nat)} {cursor : Cursor}
    (on : ∀ rule, isOn latter cursor rule =
      (isOn former cursor rule && change.leavesOn cursor.node.line rule)) (rules : List Rule) :
    found rules latter cursor = (found rules former cursor).filter change.keeps := by
  have kept : ∀ rule,
      (if change.leavesOn cursor.node.line rule then finding? cursor rule else none) =
        (finding? cursor rule).filter change.keeps := by
    intro rule
    cases reported : finding? cursor rule with
    | none => simp
    | some made =>
      obtain ⟨line, -, named⟩ := finding_fields reported
      rw [Option.filter_some, Rewording.keeps, line, named]
  rw [found, found, List.filter_filterMap, List.filterMap_filter, List.filterMap_filter]
  congr 1
  funext rule
  rw [on, ← kept]
  cases isOn former cursor rule <;> rfl

/-- **A comment that is written anew silences what it names from its line on.** -/
theorem exists_silenced {first second : Tree} (reworded : Reworded change around first second)
    (inOrder : first.InOrder) (plain : change.old.holds disableMarker = false)
    (quiet : change.new.holds enableMarker = false) {rules : List Rule} {findings : List Finding}
    (judged : judgeTree rules first = .ok findings) :
    ∃ others, judgeTree rules second = .ok others ∧
      Forall₂ (Finding.Restated change around) (findings.filter change.keeps) others := by
  obtain ⟨before, after, role, former, latter⟩ := reworded.exists_comments
  obtain ⟨disabled, names, accepted, rfl⟩ := (judgeTree_eq_ok_iff rules first findings).mp judged
  obtain ⟨silent, rfl⟩ := (disabledNames_eq_ok_iff _ _).mp names
  have alike : Alike change around first second := .inr ⟨around, List.suffix_rfl, reworded⟩
  have named : disabledNames (comments second) = .ok (namesOff (comments second)) := by
    refine (disabledNames_eq_ok_iff _ _).mpr ⟨?_, rfl⟩
    rw [former] at silent
    rw [latter]
    exact quiet_newComment silent quiet
  have on : ∀ cursor rule, isOn (namesOff (comments second)) cursor rule =
      (isOn (namesOff (comments first)) cursor rule &&
        change.leavesOn cursor.node.line rule) := by
    rw [former, latter]
    exact isOn_newComment (former ▸ inOrder.comments) plain
  refine ⟨_, (judgeTree_eq_ok_iff _ _ _).mpr ⟨_, named, ?_, rfl⟩, ?_⟩
  · intro cursor member rule listed active
    obtain ⟨origin, station, related⟩ := exists_left alike.stations member
    rw [on, Bool.and_eq_true] at active
    rw [← related.reason_eq]
    refine accepted origin station rule listed ?_
    rw [isOn, related.node.line_eq]
    exact active.1
  · have less : found rules (namesOff (comments second)) = fun cursor =>
        (found rules (namesOff (comments first)) cursor).filter change.keeps :=
      funext fun cursor => found_eq_filter (on cursor) rules
    have restated := List.rel_flatMap alike.stations fun _ _ cursors =>
      cursors.found rules (namesOff (comments first))
    rw [less, ← List.filter_flatMap,
      ← Sorting.filter_mergeSort Finding.notAfter_trans Finding.notAfter_total]
    refine forall₂_filter (forall₂_mergeSort restated ?_) ?_
    · intro one other third fourth left right
      rw [Finding.notAfter, Finding.notAfter, left.outline.1, left.outline.2.1, right.outline.1,
        right.outline.2.1]
    · intro one other both
      rw [Rewording.keeps, Rewording.keeps, both.outline.1, both.outline.2.2]

/-- **Comments silence what they name from their line on.** When a comment without a mark is
written anew, the same is found as before without the findings that the comment silences, in the
same order, except that the message on an imported test suite quotes a comment inside the dotted
name as it is written. With any comments, what is found are the findings of the rules that are
named by no comment up to their line, and a tree is refused only for a node in front of every
comment that names the rule. -/
theorem judgeTree_silenced (rules : List Rule) :
    (∀ (change : Rewording) (around : List Phrase) (first second : Tree),
      Reworded change around first second → first.InOrder →
      change.old.holds disableMarker = false → change.new.holds enableMarker = false →
      ∀ findings, judgeTree rules first = .ok findings →
        ∃ others, judgeTree rules second = .ok others ∧
          Forall₂ (Finding.Restated change around) (findings.filter change.keeps) others ∧
          (.dottedName ∉ around → others = findings.filter change.keeps)) ∧
    (∀ tree : Tree, tree.InOrder →
      (∀ findings, judgeTree rules tree = .ok findings → ∀ made,
        made ∈ findings ↔ ∃ cursor ∈ stations tree, ∃ rule ∈ rules,
          finding? cursor rule = some made ∧
            ∀ comment ∈ comments tree, rule.name ∈ disabledBy comment.text →
              cursor.node.line < comment.line) ∧
      ((∀ comment ∈ comments tree, comment.text.holds enableMarker = false) →
        ∀ refusal, judgeTree rules tree = .error refusal →
          ∃ cursor ∈ stations tree, ∃ rule ∈ rules, reason? cursor rule = some refusal.reason ∧
            cursor.node.line = refusal.line ∧
              ∀ comment ∈ comments tree, rule.name ∈ disabledBy comment.text →
                refusal.line < comment.line)) := by
  refine ⟨fun change around first second reworded inOrder plain quiet findings judged => ?_,
    fun tree inOrder => ⟨fun findings judged => mem_judgeTree_iff inOrder judged,
      fun quiet refusal refused => judgeTree_refused inOrder quiet refused⟩⟩
  obtain ⟨others, again, restated⟩ := exists_silenced reworded inOrder plain quiet judged
  refine ⟨others, again, restated, fun clear => ?_⟩
  have same : Forall₂ Eq (findings.filter change.keeps) others :=
    restated.imp fun _ _ both => both.eq clear
  rw [List.forall₂_eq_eq_eq] at same
  exact same.symm

/-! ## Two trees -/

/-- A comment that says nothing to the linter, written as one that switches a rule off. -/
def switchingOff (start : Position) : Rewording :=
  ⟨start, "# why".toList, "# sigoptlint: disable=TrailingCommaRule".toList, rfl, rfl⟩

/-- A phrase with a part and what is in front of the part and behind it. -/
def Tree.holding (phrase : Phrase) (role : Option Role) (start : Position) (before after : Text)
    (left right : List Tree) (part : Tree) : Tree :=
  .node (.phrase phrase) role start (before ++ part.text ++ after) (left ++ part :: right)

theorem Reworded.holding {inner : List Phrase} {first second : Tree}
    (part : Reworded change inner first second) {phrase : Phrase} {role : Option Role}
    {start : Position} {before after : Text} {left right : List Tree}
    (place : MayHold phrase before first) :
    Reworded change (phrase :: inner)
      (first.holding phrase role start before after left right)
      (second.holding phrase role start before after left right) :=
  .inside part phrase role start before after left right place

/-- A line with a tuple that a comma makes. -/
def tupleLine (line : Nat) : Tree :=
  .node (.phrase .expressionStatement) none ⟨line, 0⟩ "1,".toList
    [.node (.token .integer) none ⟨line, 0⟩ "1".toList [],
      .node (.token (.mark ",")) none ⟨line, 1⟩ ",".toList []]

/-- A comment between two such lines. -/
def betweenTuples (comment : Tree) : Tree :=
  .holding .source none ⟨0, 0⟩ "1,\n".toList "\n1,\n".toList [tupleLine 0] [tupleLine 2] comment

/-- The tuple in front of the comment is still reported, and the one behind it is not. -/
theorem judgeTree_silenced_betweenTuples :
    judgeTree [.trailingComma] (betweenTuples ((switchingOff ⟨1, 0⟩).newComment none)) =
      .ok [⟨1, 0, .trailingComma, Judge.singleTupleMessage⟩] := by
  have judged :
      judgeTree [.trailingComma] (betweenTuples ((switchingOff ⟨1, 0⟩).oldComment none)) =
        .ok [⟨1, 0, .trailingComma, Judge.singleTupleMessage⟩,
          ⟨3, 0, .trailingComma, Judge.singleTupleMessage⟩] :=
    (judgeTree_eq_ok_iff _ _ _).mpr
      ⟨[], by rfl, by decide, (List.mergeSort_of_pairwise (by decide)).symm⟩
  have reworded : Reworded (switchingOff ⟨1, 0⟩) [.source]
      (betweenTuples ((switchingOff ⟨1, 0⟩).oldComment none))
      (betweenTuples ((switchingOff ⟨1, 0⟩).newComment none)) :=
    .holding (.comment none) ⟨rfl, nofun, nofun⟩
  obtain ⟨others, again, -, same⟩ := (judgeTree_silenced [.trailingComma]).1 _ _ _ _ reworded
    (by decide) (by rfl) (by rfl) _ judged
  rw [same (by decide)] at again
  exact again

/-- An import of a dotted name with a comment in it. -/
def importOfSuite (comment : Tree) : Tree :=
  .holding .source none ⟨0, 0⟩ [] "\n".toList [] []
    (.holding .importStatement none ⟨0, 0⟩ "import ".toList []
      [.node (.token (.mark "import")) none ⟨0, 0⟩ "import".toList []] []
      (.holding .dottedName (some .name) ⟨0, 7⟩ "Testa.".toList "\nb".toList
        [.node (.token .identifier) none ⟨0, 7⟩ "Testa".toList [],
          .node (.token (.mark ".")) none ⟨0, 12⟩ ".".toList []]
        [.node (.token .identifier) none ⟨1, 0⟩ "b".toList []]
        comment))

/-- The message on an import of a test suite. -/
def suiteMessage (name : Text) : String :=
  "Importing the test suite " ++ String.ofList name ++ " may cause it to get run twice. " ++
    "Imported objects beginning with \x60" ++ String.ofList "Test".toList ++
    "\x60 are interpreted by pytest as test suites."

/-- A comment that is written anew changes a message where it stands inside a name. -/
theorem importedName_requoted :
    ¬ ∀ (change : Rewording) (around : List Phrase) (first second : Tree) (rules : List Rule)
      (findings : List Finding), Reworded change around first second → first.InOrder →
        change.old.holds disableMarker = false → change.old.holds enableMarker = false →
        change.new.holds disableMarker = true → change.new.holds enableMarker = false →
        judgeTree rules first = .ok findings →
          judgeTree rules second = .ok (findings.filter change.keeps) := by
  intro claimed
  have former : judgeTree [.forbidImportTestSuite]
      (importOfSuite ((switchingOff ⟨0, 13⟩).oldComment none)) =
        .ok [⟨1, 0, .forbidImportTestSuite, suiteMessage "Testa.# why\nb".toList⟩] :=
    (judgeTree_eq_ok_iff _ _ _).mpr
      ⟨_, rfl, by decide, (List.mergeSort_of_pairwise (List.pairwise_singleton _ _)).symm⟩
  have latter : judgeTree [.forbidImportTestSuite]
      (importOfSuite ((switchingOff ⟨0, 13⟩).newComment none)) =
        .ok [⟨1, 0, .forbidImportTestSuite, suiteMessage
          "Testa.# sigoptlint: disable=TrailingCommaRule\nb".toList⟩] :=
    (judgeTree_eq_ok_iff _ _ _).mpr
      ⟨_, rfl, by decide, (List.mergeSort_of_pairwise (List.pairwise_singleton _ _)).symm⟩
  have reworded : Reworded (switchingOff ⟨0, 13⟩) [.source, .importStatement, .dottedName]
      (importOfSuite ((switchingOff ⟨0, 13⟩).oldComment none))
      (importOfSuite ((switchingOff ⟨0, 13⟩).newComment none)) := by
    refine .holding (.holding (.holding (.comment none) ?dotted) ?importing) ?whole <;>
      exact ⟨rfl, nofun, nofun⟩
  have same := claimed _ _ _ _ _ _ reworded (by decide) (by rfl) (by rfl) (by rfl) (by rfl) former
  rw [latter, List.filter_cons_of_pos (by rfl), List.filter_nil] at same
  have messages : suiteMessage "Testa.# sigoptlint: disable=TrailingCommaRule\nb".toList =
      suiteMessage "Testa.# why\nb".toList :=
    congrArg Finding.message (List.cons.inj (Except.ok.inj same)).1
  exact absurd messages (by decide)

end Hygiene.Python
