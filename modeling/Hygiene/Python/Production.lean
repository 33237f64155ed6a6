import Hygiene.Python.Grammar

/-!
# Productions

The shapes of the grammar as productions: each production has a head and the
steps that make it up, in order. Repetitions become groups of their own, one
group for all places where the same part is repeated; a group is one part or two
groups in a row. Choices become several productions of the same head, and the
phrases that are inlined are replaced by each of their own productions.

The rank of a step is the innermost one around it. When a ranked part ends
before the production does, its last step has the rank from outside, because
that is where the part is complete.
-/

set_option autoImplicit false

namespace Hygiene.Python

/-- One step of a production. -/
structure Step where
  symbol : Symbol
  rank : Option Int
  side : Option Side
  shownAs : Option Kind
  role : Option Role
  deriving DecidableEq, Repr, Inhabited

/-- The steps of a production, and how far it is preferred to another reading. -/
structure Production where
  steps : List Step
  weight : Int
  deriving DecidableEq, Repr, Inhabited

namespace Shape

/-- The shape with its repetitions replaced by groups, which are looked up in the
parts that are repeated so far and appended when they are new. -/
def withGroups (repeated : List Shape) : Shape → List Shape × Shape
  | blank => (repeated, blank)
  | .symbol found => (repeated, .symbol found)
  | .sequence first second =>
    let (repeated, first) := first.withGroups repeated
    let (repeated, second) := second.withGroups repeated
    (repeated, .sequence first second)
  | .choice first second =>
    let (repeated, first) := first.withGroups repeated
    let (repeated, second) := second.withGroups repeated
    (repeated, .choice first second)
  | .many body =>
    let (repeated, body) := body.withGroups repeated
    match repeated.findIdx? (· = body) with
    | some number => (repeated, .symbol (.group number))
    | none => (repeated ++ [body], .symbol (.group repeated.length))
  | .ranked rank side body =>
    let (repeated, body) := body.withGroups repeated
    (repeated, .ranked rank side body)
  | .preferred weight body =>
    let (repeated, body) := body.withGroups repeated
    (repeated, .preferred weight body)
  | .shownAs kind body =>
    let (repeated, body) := body.withGroups repeated
    (repeated, .shownAs kind body)
  | .role found body =>
    let (repeated, body) := body.withGroups repeated
    (repeated, .role found body)

/-- The shapes without a choice that a shape stands for, in order. -/
def alternatives : Shape → List Shape
  | .sequence first second =>
    first.alternatives.flatMap fun left =>
      second.alternatives.map fun right => .sequence left right
  | .choice first second => first.alternatives ++ second.alternatives
  | .ranked rank side body => body.alternatives.map (.ranked rank side)
  | .preferred weight body => body.alternatives.map (.preferred weight)
  | .shownAs kind body => body.alternatives.map (.shownAs kind)
  | .role found body => body.alternatives.map (.role found)
  | other => [other]

/-- The larger of two weights in absolute value; the first one when they are
equally large. -/
def heavier (first second : Int) : Int :=
  if first.natAbs < second.natAbs then second else first

/-- The last step of a list replaced by what a function makes of it. -/
def mapLast (change : Step → Step) : List Step → List Step
  | [] => []
  | [step] => [change step]
  | step :: rest => step :: mapLast change rest

/-- The steps of a shape without choices, inside a part whose rank, side, kind
and role are those of `outer`. The flag says whether the shape ends where the
production ends. -/
def stepsWithin (outer : Step) (atEnd : Bool) : Shape → Production
  | .symbol found => ⟨[{ outer with symbol := found }], 0⟩
  | .sequence first second =>
    let early := first.stepsWithin outer false
    let late := second.stepsWithin outer atEnd
    ⟨early.steps ++ late.steps, heavier early.weight late.weight⟩
  | .ranked rank side body =>
    let inner := body.stepsWithin { outer with
      rank := rank.or outer.rank, side := side.or outer.side } atEnd
    if atEnd then inner
    else
      { inner with steps := mapLast (fun step =>
        { step with
          rank := if rank.isSome then outer.rank else step.rank
          side := if side.isSome then outer.side else step.side }) inner.steps }
  | .preferred weight body =>
    let inner := body.stepsWithin outer atEnd
    { inner with weight := heavier weight inner.weight }
  | .shownAs kind body => body.stepsWithin { outer with shownAs := some kind } atEnd
  | .role found body => body.stepsWithin { outer with role := some found } atEnd
  | _ => ⟨[], 0⟩

/-- The productions of a shape without repetitions. -/
def productions (shape : Shape) : List Production :=
  (shape.alternatives.map fun alternative =>
    alternative.stepsWithin ⟨.token .endOfSource, none, none, none, none⟩ true).eraseDups

end Shape

namespace Grammar

/-- The shapes of the phrases and the parts that are repeated. -/
def grouped : List (Phrase × Shape) × List Shape :=
  phrases.foldl
    (fun (shapes, repeated) phrase =>
      let (repeated, found) := (shape phrase).withGroups repeated
      (shapes ++ [(phrase, found)], repeated))
    ([], [])

/-- The parts that are repeated somewhere. -/
def groups : List Shape := grouped.2

/-- The productions of a symbol before anything is inlined. -/
def ownProductions : Symbol → List Production
  | .token _ => []
  | .phrase phrase =>
    match grouped.1.find? fun entry => entry.1 = phrase with
    | some entry => entry.2.productions
    | none => []
  | .group number =>
    match groups[number]? with
    | some body =>
      (Shape.choice (.sequence (.symbol (.group number)) (.symbol (.group number)))
        body).productions
    | none => []

/-- The steps of an inlined production in place of the step they replace: they
keep its kind and role, and the last one takes its rank where it has none. -/
def inlineSteps (replaced : Step) (steps : List Step) : List Step :=
  Shape.mapLast
    (fun step => { step with rank := step.rank.or replaced.rank, side := step.side.or replaced.side })
    (steps.map fun step =>
      { step with shownAs := replaced.shownAs.or step.shownAs, role := replaced.role.or step.role })

/-- The ways to inline all phrases of a list of steps, with the weight that each
brings along. The bound limits how deep inlined phrases stand in one another. -/
def inlinings : (bound : Nat) → List Step → List Production
  | 0, _ => []
  | bound + 1, steps =>
    steps.foldr
      (fun step later =>
        let here : List Production :=
          match step.symbol with
          | .phrase phrase =>
            if isInlined phrase then
              (ownProductions (.phrase phrase)).flatMap fun production =>
                (inlinings bound production.steps).map fun inner =>
                  ⟨inlineSteps step inner.steps, Shape.heavier production.weight inner.weight⟩
            else [⟨[step], 0⟩]
          | _ => [⟨[step], 0⟩]
        here.flatMap fun front =>
          later.map fun back =>
            ⟨front.steps ++ back.steps, Shape.heavier front.weight back.weight⟩)
      [⟨[], 0⟩]

/-- The productions of a symbol. -/
def productions (symbol : Symbol) : List Production :=
  ((ownProductions symbol).flatMap fun production =>
    (inlinings 4 production.steps).map fun inner =>
      { inner with weight := Shape.heavier production.weight inner.weight }).eraseDups

/-- The symbols that have productions: the phrases that are not inlined, and then
the groups. -/
def heads : List Symbol :=
  (phrases.filter fun phrase => !isInlined phrase).map .phrase ++
    (List.range groups.length).map .group

end Grammar

end Hygiene.Python
