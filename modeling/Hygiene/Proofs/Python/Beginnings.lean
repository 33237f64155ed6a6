import Hygiene.Proofs.Python.Slots

/-!
# How productions begin

The symbol with which a production begins is found in the shape of its head, like the slots of its
steps: it is one with which the shape can begin, or one with which a phrase can begin that is
inlined in place of such a one (`beginning_of_mem_productions`). No phrase is inlined that can be
without parts, so the first part of a production never falls away.

In the grammar nothing but a whole source can be without parts, no production begins with a whole
source or with its end, and none begins with the end of a line or with deeper indentation but those
of the cases of a `match`, with which no production begins (`heads_begin`).
-/

set_option autoImplicit false

namespace Hygiene.Python

open Hygiene.Python.Shape

/-! ## Beginnings of a shape -/

namespace Shape

/-- The symbols with which whatever has a shape without repetitions can begin, and `none` where it
can be without parts. -/
def beginnings : Shape → List (Option Symbol)
  | .symbol found => [some found]
  | .sequence first second =>
    first.beginnings.flatMap fun beginning =>
      match beginning with
      | some found => [some found]
      | none => second.beginnings
  | .choice first second => first.beginnings ++ second.beginnings
  | .ranked _ _ body => body.beginnings
  | .preferred _ body => body.beginnings
  | .shownAs _ body => body.beginnings
  | .role _ body => body.beginnings
  | _ => [none]

/-- The steps of an alternative begin as the shape that it comes from can. -/
theorem beginning_stepsWithin {shape alternative : Shape}
    (member : alternative ∈ shape.alternatives) (outer : Step) (atEnd : Bool) :
    (symbols (alternative.stepsWithin outer atEnd).steps).head? ∈ shape.beginnings := by
  induction shape generalizing alternative outer atEnd with
  | symbol found =>
    obtain rfl := List.mem_singleton.mp member
    exact List.mem_singleton_self _
  | sequence first second former latter =>
    simp only [alternatives, List.mem_flatMap, List.mem_map] at member
    obtain ⟨left, inFirst, right, inSecond, rfl⟩ := member
    have joined : symbols ((Shape.sequence left right).stepsWithin outer atEnd).steps =
        symbols (left.stepsWithin outer false).steps ++
          symbols (right.stepsWithin outer atEnd).steps :=
      List.map_append
    rw [joined, List.head?_append, beginnings, List.mem_flatMap]
    refine ⟨_, former inFirst outer false, ?_⟩
    cases (symbols (left.stepsWithin outer false).steps).head? with
    | some found => exact List.mem_singleton_self _
    | none => exact latter inSecond outer atEnd
  | choice first second former latter =>
    rcases List.mem_append.mp member with inside | inside
    · exact List.mem_append_left _ (former inside outer atEnd)
    · exact List.mem_append_right _ (latter inside outer atEnd)
  | ranked rank side body ih =>
    obtain ⟨inner, inside, rfl⟩ := List.mem_map.mp member
    rw [stepsWithin]
    cases atEnd with
    | true => exact ih inside _ true
    | false =>
      simp only [Bool.false_eq_true, if_false]
      rw [symbols, map_mapLast]
      · exact ih inside _ false
      · exact fun _ => rfl
  | preferred weight body ih =>
    obtain ⟨inner, inside, rfl⟩ := List.mem_map.mp member
    exact ih inside outer atEnd
  | shownAs kind body ih =>
    obtain ⟨inner, inside, rfl⟩ := List.mem_map.mp member
    exact ih inside _ atEnd
  | role found body ih =>
    obtain ⟨inner, inside, rfl⟩ := List.mem_map.mp member
    exact ih inside _ atEnd
  | blank =>
    obtain rfl := List.mem_singleton.mp member
    exact List.mem_singleton_self _
  | many body =>
    obtain rfl := List.mem_singleton.mp member
    exact List.mem_singleton_self _

theorem beginning_productions {shape : Shape} {production : Production}
    (member : production ∈ shape.productions) :
    (symbols production.steps).head? ∈ shape.beginnings := by
  rw [productions, List.mem_eraseDups, List.mem_map] at member
  obtain ⟨alternative, inside, rfl⟩ := member
  exact beginning_stepsWithin inside _ true

end Shape

/-! ## Beginnings of a symbol -/

namespace Grammar

/-- How the productions of a symbol can begin before anything is inlined. -/
def ownBeginnings : Symbol → List (Option Symbol)
  | .token _ => []
  | .phrase phrase =>
    match grouped.1.find? fun entry => entry.1 = phrase with
    | some entry => entry.2.beginnings
    | none => []
  | .group number =>
    match groups[number]? with
    | some body => some (.group number) :: body.beginnings
    | none => []

theorem beginning_ownProductions {symbol : Symbol} {production : Production}
    (member : production ∈ ownProductions symbol) :
    (symbols production.steps).head? ∈ ownBeginnings symbol := by
  cases symbol with
  | token found => exact absurd (show production ∈ [] from member) List.not_mem_nil
  | phrase phrase =>
    unfold ownProductions at member
    unfold ownBeginnings
    dsimp only at member ⊢
    cases found : grouped.1.find? fun entry => entry.1 = phrase with
    | none =>
      rw [found] at member
      cases member
    | some entry =>
      rw [found] at member
      exact beginning_productions member
  | group number =>
    unfold ownProductions at member
    unfold ownBeginnings
    dsimp only at member ⊢
    cases found : groups[number]? with
    | none =>
      rw [found] at member
      cases member
    | some body =>
      rw [found] at member
      exact beginning_productions member

/-- What a beginning becomes when phrases are inlined: itself, or the beginnings of the inlined
phrase. -/
def inlinedBeginnings : (bound : Nat) → Option Symbol → List (Option Symbol)
  | 0, _ => []
  | bound + 1, beginning =>
    match beginning with
    | some (.phrase phrase) =>
      if isInlined phrase then
        (ownBeginnings (.phrase phrase)).flatMap (inlinedBeginnings bound)
      else [beginning]
    | _ => [beginning]

theorem inlinedBeginnings_phrase (bound : Nat) (phrase : Phrase) :
    inlinedBeginnings (bound + 1) (some (.phrase phrase)) =
      if isInlined phrase then
        (ownBeginnings (.phrase phrase)).flatMap (inlinedBeginnings bound)
      else [some (.phrase phrase)] :=
  rfl

/-- No inlined phrase can be without parts. -/
theorem none_not_mem_ownBeginnings {phrase : Phrase} (inlined : isInlined phrase = true) :
    none ∉ ownBeginnings (.phrase phrase) := by
  have filled : ∀ entry ∈ grouped.1, isInlined entry.1 = true → none ∉ entry.2.beginnings := by
    decide +kernel
  unfold ownBeginnings
  dsimp only
  cases found : grouped.1.find? fun entry => entry.1 = phrase with
  | none => exact List.not_mem_nil
  | some entry =>
    have same : entry.1 = phrase := by simpa using List.find?_some found
    exact filled entry (List.mem_of_find?_eq_some found) (same ▸ inlined)

/-- A part does not fall away when phrases are inlined. -/
theorem none_not_mem_inlinedBeginnings (bound : Nat) (symbol : Symbol) :
    none ∉ inlinedBeginnings bound (some symbol) := by
  induction bound generalizing symbol with
  | zero => exact List.not_mem_nil
  | succ bound ih =>
    cases symbol with
    | phrase phrase =>
      rw [inlinedBeginnings_phrase]
      split
      · rename_i inlined
        rw [List.mem_flatMap]
        rintro ⟨beginning, own, fallen⟩
        cases beginning with
        | none => exact none_not_mem_ownBeginnings inlined own
        | some first => exact ih first fallen
      · simp
    | _ => exact fun fallen => nomatch List.mem_singleton.mp fallen

/-- Where inlined phrases are put in, a list begins as its first part does. -/
theorem beginning_inlinings (bound : Nat) {steps : List Step} {production : Production}
    (member : production ∈ inlinings bound steps) :
    (symbols production.steps).head? ∈ inlinedBeginnings bound (symbols steps).head? := by
  induction bound generalizing steps production with
  | zero => cases member
  | succ bound deeper =>
    cases steps with
    | nil =>
      obtain rfl := List.mem_singleton.mp member
      exact List.mem_singleton_self _
    | cons step others =>
      rw [inlinings, List.foldr_cons, List.mem_flatMap] at member
      obtain ⟨front, here, inside⟩ := member
      obtain ⟨back, -, rfl⟩ := List.mem_map.mp inside
      have begins : (symbols front.steps).head? ∈
          inlinedBeginnings (bound + 1) (some step.symbol) := by
        cases symbol : step.symbol with
        | phrase phrase =>
          rw [symbol] at here
          dsimp only at here
          rw [inlinedBeginnings_phrase]
          split at here
          · rename_i inlined
            obtain ⟨own, listed, inner⟩ := List.mem_flatMap.mp here
            obtain ⟨made, placed, rfl⟩ := List.mem_map.mp inner
            rw [if_pos inlined, symbols_inlineSteps, List.mem_flatMap]
            exact ⟨_, beginning_ownProductions listed, deeper placed⟩
          · rename_i stays
            rw [List.mem_singleton.mp here, if_neg stays, ← symbol]
            exact List.mem_singleton_self _
        | _ =>
          rw [symbol] at here
          rw [List.mem_singleton.mp here, symbols, List.map_singleton, symbol]
          exact List.mem_singleton_self _
      have joined : symbols (front.steps ++ back.steps) =
          symbols front.steps ++ symbols back.steps := List.map_append
      rw [joined, List.head?_append]
      -- What stands for the first part is never empty, so the parts behind it do not come first.
      cases found : (symbols front.steps).head? with
      | none =>
        rw [found] at begins
        exact absurd begins (none_not_mem_inlinedBeginnings _ _)
      | some first =>
        rw [found] at begins
        exact begins

/-- How the productions of a symbol can begin. -/
def beginningsOf (symbol : Symbol) : List (Option Symbol) :=
  (ownBeginnings symbol).flatMap (inlinedBeginnings 4)

/-- **Every production begins as its symbol can.** -/
theorem beginning_of_mem_productions {symbol : Symbol} {production : Production}
    (member : production ∈ productions symbol) :
    (symbols production.steps).head? ∈ beginningsOf symbol := by
  rw [productions, List.mem_eraseDups, List.mem_flatMap] at member
  obtain ⟨own, listed, derived⟩ := member
  obtain ⟨inner, inlined, rfl⟩ := List.mem_map.mp derived
  rw [beginningsOf, List.mem_flatMap]
  have begins := beginning_inlinings 4 inlined
  exact ⟨_, beginning_ownProductions listed, begins⟩

/-! ## The grammar -/

/-- Whether a symbol may begin in a way: only a whole source is without parts, nothing begins with a
whole source, with its end or with the cases of a `match`, and only these begin with what ends a
line or indents the next one. -/
def mayBegin (head : Symbol) : Option Symbol → Bool
  | none => head = .phrase .source
  | some first =>
    first ≠ .phrase .source && first ≠ .token .endOfSource && first ≠ .phrase .matchBlock &&
      (head = .phrase .matchBlock || (first ≠ .token .newline && first ≠ .token .indent))

/-- **The symbols of the grammar begin as they may.** -/
theorem heads_begin : ∀ head ∈ heads, ∀ beginning ∈ beginningsOf head,
    mayBegin head beginning = true := by
  decide +kernel

end Grammar

end Hygiene.Python
