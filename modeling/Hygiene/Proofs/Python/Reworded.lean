import Hygiene.Proofs.Python.Judging
import Hygiene.Proofs.Python.Parts
import Hygiene.Proofs.Python.Pointwise
import Hygiene.Proofs.Python.Walk

/-!
# Trees with one comment written differently

Two sources that differ in one comment have trees of the same shape, at the same positions: a
comment reaches to the end of its line, so nothing moves. The trees differ in the text of the
comment and in the texts of all phrases around it (`Reworded`).

What a rule reads of a tree comes out alike on both sides. Kinds, roles and positions are the
same, the children are alike one by one, and so are the trees that are looked up among them
(`Alike`). A text can differ only where it covers the comment, and in a Python tree this leaves
out the places that rules read most: a name is a token of its own, the quotes of a string stand in
front of any comment in it, and what is written in a row with strings are strings (`MayHold`).

Walks go alike too, since they depend on the shape of a tree only (`Alike.walk`).
-/

set_option autoImplicit false

namespace Hygiene.Python

open List (Forall₂)
open Hygiene.Pointwise

/-- A comment that is written differently in two trees. -/
structure Rewording where
  start : Position
  old : Text
  new : Text
  oldMark : old.head? = some '#'
  newMark : new.head? = some '#'

namespace Rewording

variable (change : Rewording)

/-- The line of the comment, counted from one. -/
def line : Nat :=
  change.start.line + 1

/-- The comment as it is written first. -/
def oldComment (role : Option Role) : Tree :=
  .node (.token .comment) role change.start change.old []

/-- The comment as it is written then. -/
def newComment (role : Option Role) : Tree :=
  .node (.token .comment) role change.start change.new []

end Rewording

/-- What is known of a part of a phrase with a comment in it, and of the text in front of the
part. -/
structure MayHold (phrase : Phrase) (before : Text) (part : Tree) : Prop where
  /-- A name is a token, and no comment stands in it. -/
  word : isWord phrase part.role = false
  /-- The quotes that open a string stand in front of what it holds. -/
  quoted : phrase = .stringLiteral → ∃ c ∈ before, c = '\x27' ∨ c = '\x22'
  /-- What stands in a row with strings is a string. -/
  row : phrase = .concatenatedString → part.counts = true → part.isPhrase .stringLiteral = true

/-- Two trees that differ in one comment only. The phrases are those around the comment, outermost
first. -/
inductive Reworded (change : Rewording) : List Phrase → Tree → Tree → Prop
  | comment (role : Option Role) :
    Reworded change [] (change.oldComment role) (change.newComment role)
  | inside {inner : List Phrase} {first second : Tree} (part : Reworded change inner first second)
    (phrase : Phrase) (role : Option Role) (start : Position) (before after : Text)
    (left right : List Tree) (place : MayHold phrase before first) :
    Reworded change (phrase :: inner)
      (.node (.phrase phrase) role start (before ++ first.text ++ after) (left ++ first :: right))
      (.node (.phrase phrase) role start (before ++ second.text ++ after) (left ++ second :: right))

/-- Parts of two trees that differ in one comment: the same part, or parts around the comment. -/
def Alike (change : Rewording) (around : List Phrase) (first second : Tree) : Prop :=
  first = second ∨ ∃ inner, inner <:+ around ∧ Reworded change inner first second

variable {change : Rewording} {around : List Phrase} {first second : Tree}

/-! ## Lists of nodes -/

theorem Tree.sizeAll_append (first second : List Tree) :
    sizeAll (first ++ second) = sizeAll first + sizeAll second := by
  induction first with
  | nil => rw [List.nil_append, sizeAll, Nat.zero_add]
  | cons tree others ih => rw [List.cons_append, sizeAll, sizeAll, ih, Nat.add_assoc]

/-- The comments of a phrase are those of its children. -/
theorem comments_phrase (phrase : Phrase) (role : Option Role) (start : Position) (text : Text)
    (children : List Tree) :
    comments (.node (.phrase phrase) role start text children) = children.flatMap comments := by
  rw [comments, Tree.preorder, List.filter_cons_of_neg (by simp [Tree.isToken, Tree.kind]),
    Tree.preorderAll_eq, List.filter_flatMap]
  rfl

/-- A text that holds no mark of a comment begins the same texts up to that mark. -/
theorem isPrefixOf_append_mark {beginning : Text} (plain : '#' ∉ beginning)
    (before comment after : Text) (mark : comment.head? = some '#') :
    beginning.isPrefixOf (before ++ comment ++ after) = beginning.isPrefixOf before := by
  obtain ⟨rest, rfl⟩ := List.head?_eq_some_iff.mp mark
  induction beginning generalizing before with
  | nil => rfl
  | cons c beginning ih =>
    obtain ⟨apart, plain⟩ := not_or.mp (mt List.mem_cons.mpr plain)
    cases before with
    | nil => simp [List.isPrefixOf, Ne.symm apart]
    | cons d before =>
      simp only [List.cons_append, List.isPrefixOf_cons_cons]
      exact congrArg ((c == d) && ·) (ih plain before)

/-! ## What differs and what does not -/

namespace Reworded

theorem outline {phrases : List Phrase} (reworded : Reworded change phrases first second) :
    first.kind = second.kind ∧ first.role = second.role ∧ first.start = second.start := by
  cases reworded <;> exact ⟨rfl, rfl, rfl⟩

/-- The texts of both trees differ by the comment. -/
theorem texts {phrases : List Phrase} (reworded : Reworded change phrases first second) :
    ∃ before after, first.text = before ++ change.old ++ after ∧
      second.text = before ++ change.new ++ after := by
  induction reworded with
  | comment role => exact ⟨[], [], (List.append_nil _).symm, (List.append_nil _).symm⟩
  | inside part phrase role start before after left right place ih =>
    obtain ⟨front, back, former, latter⟩ := ih
    refine ⟨before ++ front, back ++ after, ?_, ?_⟩
    · rw [Tree.text, former]
      simp only [List.append_assoc]
    · rw [Tree.text, latter]
      simp only [List.append_assoc]

/-- The comments of both trees differ in one place. -/
theorem exists_comments {phrases : List Phrase}
    (reworded : Reworded change phrases first second) :
    ∃ before after role, comments first = before ++ change.oldComment role :: after ∧
      comments second = before ++ change.newComment role :: after := by
  induction reworded with
  | comment role => exact ⟨[], [], role, rfl, rfl⟩
  | inside part phrase role start before after left right place ih =>
    obtain ⟨front, back, own, former, latter⟩ := ih
    refine ⟨left.flatMap comments ++ front, back ++ right.flatMap comments, own, ?_, ?_⟩
    · rw [comments_phrase, List.flatMap_append, List.flatMap_cons, former]
      simp only [List.append_assoc, List.cons_append]
    · rw [comments_phrase, List.flatMap_append, List.flatMap_cons, latter]
      simp only [List.append_assoc, List.cons_append]

/-- Neither of the trees is a token, the comment apart. -/
theorem not_token {phrases : List Phrase} (reworded : Reworded change phrases first second)
    {token : Token} (other : token ≠ .comment) : first.isToken token = false := by
  cases reworded with
  | comment role =>
    rw [Tree.isToken, decide_eq_false_iff_not]
    exact fun same => other (Kind.token.inj same).symm
  | inside => rfl

end Reworded

namespace Alike

theorem refl (tree : Tree) : Alike change around tree tree :=
  .inl rfl

variable (alike : Alike change around first second)
include alike

theorem outline :
    first.kind = second.kind ∧ first.role = second.role ∧ first.start = second.start := by
  rcases alike with rfl | ⟨phrases, -, reworded⟩
  · exact ⟨rfl, rfl, rfl⟩
  · exact reworded.outline

theorem kind_eq : first.kind = second.kind :=
  alike.outline.1

theorem role_eq : first.role = second.role :=
  alike.outline.2.1

theorem start_eq : first.start = second.start :=
  alike.outline.2.2

theorem line_eq : first.line = second.line :=
  congrArg (·.line + 1) alike.start_eq

theorem isPhrase_eq (phrase : Phrase) : first.isPhrase phrase = second.isPhrase phrase := by
  rw [Tree.isPhrase, Tree.isPhrase, alike.kind_eq]

theorem isToken_eq (token : Token) : first.isToken token = second.isToken token := by
  rw [Tree.isToken, Tree.isToken, alike.kind_eq]

theorem isNamed_eq : first.isNamed = second.isNamed :=
  congrArg Kind.isNamed alike.kind_eq

theorem counts_eq : first.counts = second.counts := by
  rw [Tree.counts, Tree.counts, alike.isNamed_eq, alike.isToken_eq]

/-- A token other than a comment is the same on both sides. -/
theorem eq_of_token {token : Token} (is : first.isToken token = true)
    (other : token ≠ .comment) : first = second := by
  rcases alike with same | ⟨phrases, -, reworded⟩
  · exact same
  · rw [reworded.not_token other] at is
    cases is

/-- A text that the comment does not begin reaches as far as the comment on both sides. -/
theorem isPrefixOf_eq {beginning : Text} (plain : '#' ∉ beginning) :
    beginning.isPrefixOf first.text = beginning.isPrefixOf second.text := by
  rcases alike with rfl | ⟨phrases, -, reworded⟩
  · rfl
  · obtain ⟨before, after, former, latter⟩ := reworded.texts
    rw [former, latter, isPrefixOf_append_mark plain before _ after change.oldMark,
      isPrefixOf_append_mark plain before _ after change.newMark]

/-- A text without the mark of a comment is covered on both sides or on none. -/
theorem text_beq_eq {text : Text} (plain : '#' ∉ text) :
    (text == first.text) = (text == second.text) := by
  rcases alike with rfl | ⟨phrases, -, reworded⟩
  · rfl
  · obtain ⟨before, after, former, latter⟩ := reworded.texts
    have differs : ∀ comment : Text, comment.head? = some '#' →
        text ≠ before ++ comment ++ after := by
      rintro comment mark rfl
      obtain ⟨rest, rfl⟩ := List.head?_eq_some_iff.mp mark
      simp at plain
    rw [former, latter, beq_eq_false_iff_ne.mpr (differs _ change.oldMark),
      beq_eq_false_iff_ne.mpr (differs _ change.newMark)]

/-- The children are alike one by one. -/
theorem children : Forall₂ (Alike change around) first.children second.children := by
  rcases alike with rfl | ⟨phrases, within, reworded⟩
  · exact List.forall₂_same.mpr fun tree _ => refl tree
  · cases reworded with
    | comment role => exact .nil
    | inside part phrase role start before after left right place =>
      exact forall₂_replace refl
        (.inr ⟨_, (List.suffix_cons _ _).trans within, part⟩) left right

theorem namedChildren :
    Forall₂ (Alike change around) first.namedChildren second.namedChildren :=
  forall₂_filter alike.children fun _ _ child => child.counts_eq

theorem child (role : Role) :
    Option.Rel (Alike change around) (first.child? role) (second.child? role) :=
  rel_find alike.children fun _ _ child => by rw [child.role_eq]

/-- A name in a phrase is the same on both sides. -/
theorem child_eq {phrase : Phrase} {role : Role} (is : first.isPhrase phrase = true)
    (word : isWord phrase (some role) = true) : first.child? role = second.child? role := by
  rcases alike with rfl | ⟨phrases, -, reworded⟩
  · rfl
  · cases reworded with
    | comment own => exact absurd is (by simp [Tree.isPhrase, Tree.kind, Rewording.oldComment])
    | @inside inner child other part own roleAbove start before after left right place =>
      obtain rfl : own = phrase := by simpa [Tree.isPhrase, Tree.kind] using is
      have apart : child.role ≠ some role := fun same => by
        rw [← same, place.word] at word
        cases word
      have also : other.role ≠ some role := part.outline.2.1 ▸ apart
      rw [Tree.child?, Tree.child?, Tree.children, Tree.children, List.find?_append,
        List.find?_append, List.find?_cons_of_neg (by simpa using apart),
        List.find?_cons_of_neg (by simpa using also)]

/-- The sizes are the same. -/
theorem size_eq : first.size = second.size := by
  rcases alike with rfl | ⟨phrases, -, reworded⟩
  · rfl
  · induction reworded with
    | comment role => rfl
    | inside part phrase role start before after left right place ih =>
      simp only [Tree.size, Tree.sizeAll_append, Tree.sizeAll, ih]

/-- The nodes are alike one by one. -/
theorem preorder : Forall₂ (Alike change around) first.preorder second.preorder := by
  rcases alike with rfl | ⟨phrases, within, reworded⟩
  · exact List.forall₂_same.mpr fun tree _ => refl tree
  · induction reworded with
    | comment role => exact .cons (.inr ⟨_, within, .comment role⟩) .nil
    | inside part phrase role start before after left right place ih =>
      have inner := ih ((List.suffix_cons _ _).trans within)
      rw [Tree.preorder, Tree.preorder, Tree.preorderAll_eq, Tree.preorderAll_eq,
        List.flatMap_append, List.flatMap_append, List.flatMap_cons, List.flatMap_cons]
      exact .cons (.inr ⟨_, within, .inside part phrase role start before after left right place⟩)
        (List.rel_append (List.forall₂_same.mpr fun tree _ => refl tree)
          (List.rel_append inner (List.forall₂_same.mpr fun tree _ => refl tree)))

end Alike

/-! ## Walks -/

/-- What is above a node on both sides, with the siblings to the right. -/
def AlikeAbove (change : Rewording) (around : List Phrase) :
    Tree × List Tree → Tree × List Tree → Prop :=
  fun first second =>
    Alike change around first.1 second.1 ∧ Forall₂ (Alike change around) first.2 second.2

/-- Two cursors at the same place of trees that differ in one comment. -/
structure AlikeCursors (change : Rewording) (around : List Phrase) (first second : Cursor) :
    Prop where
  node : Alike change around first.node second.node
  later : Forall₂ (Alike change around) first.later second.later
  above : Forall₂ (AlikeAbove change around) first.above second.above

namespace AlikeCursors

theorem climb {first second : Tree} {later others : List Tree}
    {above beyond : List (Tree × List Tree)} (siblings : Forall₂ (Alike change around) later others)
    (parents : Forall₂ (AlikeAbove change around) above beyond) :
    Option.Rel (AlikeCursors change around) (Cursor.climb? first later above)
      (Cursor.climb? second others beyond) := by
  induction parents generalizing first second later others with
  | nil =>
    cases siblings with
    | nil => exact .none
    | cons sibling more => exact .some ⟨sibling, more, .nil⟩
  | cons parent further ih =>
    cases siblings with
    | nil => exact ih parent.2
    | cons sibling more => exact .some ⟨sibling, more, .cons parent further⟩

variable {first second : Cursor} (alike : AlikeCursors change around first second)
include alike

theorem next : Option.Rel (AlikeCursors change around) first.next? second.next? := by
  obtain ⟨node, later, above⟩ := alike
  have below := node.children
  rw [Cursor.next?, Cursor.next?, Cursor.firstChild?, Cursor.firstChild?]
  cases former : first.node.children with
  | nil =>
    rw [former, List.forall₂_nil_left_iff] at below
    rw [below]
    exact climb later above
  | cons child others =>
    rw [former, List.forall₂_cons_left_iff] at below
    obtain ⟨also, more, related, rest, latter⟩ := below
    rw [latter]
    exact .some ⟨related, rest, .cons ⟨node, later⟩ above⟩

theorem walkWithin (bound : Nat) :
    Forall₂ (AlikeCursors change around) (Cursor.walkWithin bound first)
      (Cursor.walkWithin bound second) := by
  induction bound generalizing first second with
  | zero => exact .nil
  | succ bound ih =>
    have onward : ∀ {one other : Option Cursor},
        Option.Rel (AlikeCursors change around) one other →
          Forall₂ (AlikeCursors change around) (Cursor.onward bound one)
            (Cursor.onward bound other) := by
      rintro _ _ (⟨further⟩ | ⟨⟩)
      · exact ih further
      · exact .nil
    rw [Cursor.walkWithin_succ, Cursor.walkWithin_succ]
    exact .cons alike (onward alike.next)

theorem ancestors : Forall₂ (Alike change around) first.ancestors second.ancestors :=
  List.rel_map (fun _ _ both => both.1) alike.above

end AlikeCursors

/-- **Walks through trees that differ in one comment go alike.** -/
theorem Alike.walk (alike : Alike change around first second) :
    Forall₂ (AlikeCursors change around) (Cursor.walk first) (Cursor.walk second) := by
  rw [Cursor.walk, Cursor.walk, alike.size_eq]
  exact AlikeCursors.walkWithin ⟨alike, .nil, .nil⟩ second.size

/-- The nodes that rules are offered are alike one by one. -/
theorem Alike.stations (alike : Alike change around first second) :
    Forall₂ (AlikeCursors change around) (stations first) (stations second) :=
  forall₂_filter alike.walk fun _ _ cursors => cursors.node.isNamed_eq

end Hygiene.Python
