import Hygiene.Python.Production
import Mathlib.Data.List.Basic

/-!
# Closing braces stand behind opening ones

In every production of the grammar what could be read off a closing brace stands behind an opening
brace (`productions_guarded`). So nothing that the grammar knows begins with a closing brace.

This is seen from the shapes of the grammar. A shape is guarded when each of its sequences is, and
that is so for all phrases; choices, repetitions and inlined phrases put guarded lists together to
guarded lists again.
-/

set_option autoImplicit false

namespace Hygiene.Python

/-- Whether a token can be read where a closing brace is: a mark that begins with it, or one
without characters. -/
def Token.closes : Token → Bool
  | .mark spelling =>
    match spelling.toList with
    | [] => true
    | c :: _ => c = '\x7d'
  | _ => false

namespace Symbol

/-- Whether a symbol is a token that can be read where a closing brace is. -/
def closes : Symbol → Bool
  | .token found => found.closes
  | _ => false

/-- The opening brace. -/
def openingBrace : Symbol :=
  .token (.mark "\x7b")

/-- Whether everything in a list that can be read where a closing brace is stands behind an
opening brace. -/
def guarded : List Symbol → Bool
  | [] => true
  | symbol :: others => symbol = openingBrace || (!symbol.closes && guarded others)

theorem guarded_append {first second : List Symbol} (before : guarded first = true)
    (after : openingBrace ∈ first ∨ guarded second = true) :
    guarded (first ++ second) = true := by
  induction first with
  | nil => exact after.resolve_left List.not_mem_nil
  | cons symbol others ih =>
    rw [List.cons_append, guarded, Bool.or_eq_true, Bool.and_eq_true, decide_eq_true_iff] at *
    rcases before with opens | ⟨closes, rest⟩
    · exact .inl opens
    · by_cases opens : symbol = openingBrace
      · exact .inl opens
      · refine .inr ⟨closes, ih rest ?_⟩
        exact after.imp_left fun inside =>
          (List.mem_cons.mp inside).resolve_left (Ne.symm opens)

/-- The first symbol of a guarded list closes nothing. -/
theorem closes_of_guarded {symbol : Symbol} {others : List Symbol}
    (all : guarded (symbol :: others) = true) : symbol.closes = false := by
  rw [guarded, Bool.or_eq_true, decide_eq_true_iff] at all
  rcases all with rfl | both
  · decide
  · simpa using (Bool.and_eq_true_iff.mp both).1

/-- Behind a symbol other than the opening brace the list is guarded. -/
theorem guarded_tail {symbol : Symbol} {others : List Symbol}
    (all : guarded (symbol :: others) = true) (differs : symbol ≠ openingBrace) :
    guarded others = true := by
  rw [guarded, Bool.or_eq_true, decide_eq_true_iff] at all
  exact (Bool.and_eq_true_iff.mp (all.resolve_left differs)).2

end Symbol

open Hygiene.Python.Symbol

namespace Shape

/-- Whether whatever has a shape holds an opening brace. -/
def opens : Shape → Bool
  | .symbol found => found = openingBrace
  | .sequence first second => first.opens || second.opens
  | .ranked _ _ body => body.opens
  | .preferred _ body => body.opens
  | .shownAs _ body => body.opens
  | .role _ body => body.opens
  | _ => false

/-- Whether the shape is guarded, where repetitions count as symbols of their own. -/
def guards : Shape → Bool
  | .symbol found => !found.closes
  | .sequence first second => first.guards && (first.opens || second.guards)
  | .choice first second => first.guards && second.guards
  | .ranked _ _ body => body.guards
  | .preferred _ body => body.guards
  | .shownAs _ body => body.guards
  | .role _ body => body.guards
  | _ => true

/-- Whether everything that is repeated inside a shape is guarded. -/
def guardsRepeated : Shape → Bool
  | .sequence first second => first.guardsRepeated && second.guardsRepeated
  | .choice first second => first.guardsRepeated && second.guardsRepeated
  | .many body => body.guards && body.guardsRepeated
  | .ranked _ _ body => body.guardsRepeated
  | .preferred _ body => body.guardsRepeated
  | .shownAs _ body => body.guardsRepeated
  | .role _ body => body.guardsRepeated
  | _ => true

/-! ## From shapes to productions -/

/-- What a guarded shape stands for is guarded. -/
theorem mem_alternatives {shape alternative : Shape}
    (member : alternative ∈ shape.alternatives) :
    (shape.guards = true → alternative.guards = true) ∧
      (shape.opens = true → alternative.opens = true) := by
  induction shape generalizing alternative with
  | sequence first second former latter =>
    simp only [alternatives, List.mem_flatMap, List.mem_map] at member
    obtain ⟨left, inFirst, right, inSecond, rfl⟩ := member
    have leftHolds := former inFirst
    have rightHolds := latter inSecond
    simp only [guards, opens, Bool.and_eq_true, Bool.or_eq_true]
    exact ⟨fun both => ⟨leftHolds.1 both.1, both.2.imp leftHolds.2 rightHolds.1⟩,
      Or.imp leftHolds.2 rightHolds.2⟩
  | choice first second former latter =>
    simp only [guards, opens, Bool.and_eq_true]
    rcases List.mem_append.mp member with inside | inside
    · exact ⟨fun both => (former inside).1 both.1, nofun⟩
    · exact ⟨fun both => (latter inside).1 both.2, nofun⟩
  | ranked rank side body ih =>
    obtain ⟨inner, inside, rfl⟩ := List.mem_map.mp member
    have held := ih inside
    exact held
  | preferred weight body ih =>
    obtain ⟨inner, inside, rfl⟩ := List.mem_map.mp member
    have held := ih inside
    exact held
  | shownAs kind body ih =>
    obtain ⟨inner, inside, rfl⟩ := List.mem_map.mp member
    have held := ih inside
    exact held
  | role found body ih =>
    obtain ⟨inner, inside, rfl⟩ := List.mem_map.mp member
    have held := ih inside
    exact held
  | _ =>
    obtain rfl := List.mem_singleton.mp member
    exact ⟨id, id⟩

/-- The symbols of some steps. -/
def symbols (steps : List Step) : List Symbol :=
  steps.map Step.symbol

/-- A change of the last step is not seen in what it keeps of every step. -/
theorem map_mapLast {α : Type} {seen : Step → α} {change : Step → Step}
    (keeps : ∀ step, seen (change step) = seen step) (steps : List Step) :
    (mapLast change steps).map seen = steps.map seen := by
  fun_induction mapLast change steps with
  | case1 => rfl
  | case2 step => rw [List.map_singleton, List.map_singleton, keeps]
  | case3 step rest _ ih => rw [List.map_cons, List.map_cons, ih]

/-- The steps of a guarded shape are guarded. -/
theorem symbols_stepsWithin (shape : Shape) (outer : Step) (atEnd : Bool) :
    (shape.guards = true → guarded (symbols (shape.stepsWithin outer atEnd).steps) = true) ∧
      (shape.opens = true → openingBrace ∈ symbols (shape.stepsWithin outer atEnd).steps) := by
  induction shape generalizing outer atEnd with
  | symbol found =>
    constructor
    · intro closes
      change (!found.closes) = true at closes
      change (decide (found = openingBrace) || (!found.closes && true)) = true
      rw [closes, Bool.true_and, Bool.or_true]
    · intro opens
      exact List.mem_singleton.mpr (of_decide_eq_true opens).symm
  | sequence first second former latter =>
    have left := former outer false
    have right := latter outer atEnd
    have joined : symbols ((Shape.sequence first second).stepsWithin outer atEnd).steps =
        symbols (first.stepsWithin outer false).steps ++
          symbols (second.stepsWithin outer atEnd).steps :=
      List.map_append
    simp only [guards, opens, Bool.and_eq_true, Bool.or_eq_true, joined, List.mem_append]
    exact ⟨fun both => guarded_append (left.1 both.1) (both.2.imp left.2 right.1),
      Or.imp left.2 right.2⟩
  | ranked rank side body ih =>
    rw [stepsWithin]
    cases atEnd with
    | true => exact ih _ _
    | false =>
      simp only [Bool.false_eq_true, if_false]
      rw [symbols, map_mapLast]
      · exact ih _ _
      · exact fun _ => rfl
  | preferred weight body ih => exact ih _ _
  | shownAs kind body ih => exact ih _ _
  | role found body ih => exact ih _ _
  | _ => exact ⟨fun _ => rfl, nofun⟩

theorem guarded_productions {shape : Shape} (guards : shape.guards = true)
    {production : Production} (member : production ∈ shape.productions) :
    guarded (symbols production.steps) = true := by
  rw [productions, List.mem_eraseDups, List.mem_map] at member
  obtain ⟨alternative, inside, rfl⟩ := member
  exact (symbols_stepsWithin _ _ _).1 ((mem_alternatives inside).1 guards)

/-! ## Repetitions -/

/-- What is repeated is guarded on its own, and in its place stands a symbol that closes
nothing. -/
theorem withGroups_guards (shape : Shape) {repeated : List Shape}
    (inner : shape.guardsRepeated = true) (all : ∀ body ∈ repeated, body.guards = true) :
    (∀ body ∈ (shape.withGroups repeated).1, body.guards = true) ∧
      (shape.withGroups repeated).2.guards = shape.guards ∧
        (shape.withGroups repeated).2.opens = shape.opens := by
  induction shape generalizing repeated with
  | sequence first second former latter =>
    rw [guardsRepeated, Bool.and_eq_true] at inner
    obtain ⟨bodies, leftGuards, leftOpens⟩ := former inner.1 all
    obtain ⟨more, rightGuards, rightOpens⟩ := latter inner.2 bodies
    refine ⟨more, ?_, ?_⟩
    · simp only [withGroups, guards, leftGuards, leftOpens, rightGuards]
    · simp only [withGroups, opens, leftOpens, rightOpens]
  | choice first second former latter =>
    rw [guardsRepeated, Bool.and_eq_true] at inner
    obtain ⟨bodies, leftGuards, -⟩ := former inner.1 all
    obtain ⟨more, rightGuards, -⟩ := latter inner.2 bodies
    refine ⟨more, ?_, rfl⟩
    simp only [withGroups, guards, leftGuards, rightGuards]
  | many body ih =>
    rw [guardsRepeated, Bool.and_eq_true] at inner
    obtain ⟨bodies, same, -⟩ := ih inner.2 all
    rw [withGroups]
    generalize body.withGroups repeated = pair at bodies same ⊢
    obtain ⟨known, inside⟩ := pair
    dsimp only at bodies same ⊢
    cases known.findIdx? fun other => other = inside with
    | some number => exact ⟨bodies, rfl, rfl⟩
    | none =>
      refine ⟨?_, rfl, rfl⟩
      rw [List.forall_mem_append]
      exact ⟨bodies, fun added only => by rw [List.mem_singleton.mp only, same, inner.1]⟩
  | ranked rank side body ih => exact ih inner all
  | preferred weight body ih => exact ih inner all
  | shownAs kind body ih => exact ih inner all
  | role found body ih => exact ih inner all
  | _ => exact ⟨all, rfl, rfl⟩

end Shape

namespace Grammar

open Shape

/-! ## The grammar -/

/-- The shapes of all phrases are guarded. -/
theorem shape_guards (phrase : Phrase) :
    (shape phrase).guards = true ∧ (shape phrase).guardsRepeated = true := by
  cases phrase <;> decide

theorem grouped_guards :
    (∀ entry ∈ grouped.1, entry.2.guards = true) ∧ ∀ body ∈ groups, body.guards = true := by
  rw [groups, grouped]
  refine List.foldlRecOn
    (motive := fun found : List (Phrase × Shape) × List Shape =>
      (∀ entry ∈ found.1, entry.2.guards = true) ∧ ∀ body ∈ found.2, body.guards = true)
    phrases _ ⟨nofun, nofun⟩ ?_
  rintro ⟨shapes, repeated⟩ ⟨entries, bodies⟩ phrase -
  obtain ⟨known, same, -⟩ := withGroups_guards (shape phrase) (shape_guards phrase).2 bodies
  refine ⟨?_, known⟩
  rw [List.forall_mem_append]
  exact ⟨entries, fun entry only => by
    rw [List.mem_singleton.mp only]
    exact same.trans (shape_guards phrase).1⟩

theorem guarded_ownProductions {symbol : Symbol} {production : Production}
    (member : production ∈ ownProductions symbol) :
    guarded (symbols production.steps) = true := by
  cases symbol with
  | token found => exact absurd (show production ∈ [] from member) List.not_mem_nil
  | phrase phrase =>
    unfold ownProductions at member
    dsimp only at member
    split at member
    · rename_i entry found
      exact guarded_productions (grouped_guards.1 entry (List.mem_of_find?_eq_some found)) member
    · cases member
  | group number =>
    unfold ownProductions at member
    dsimp only at member
    split at member
    · rename_i body found
      refine guarded_productions ?_ member
      exact Bool.and_eq_true_iff.mpr ⟨rfl, grouped_guards.2 body (List.mem_of_getElem? found)⟩
    · cases member

theorem symbols_inlineSteps (replaced : Step) (steps : List Step) :
    symbols (inlineSteps replaced steps) = symbols steps := by
  rw [symbols, inlineSteps, map_mapLast]
  · rw [symbols, List.map_map]
    rfl
  · exact fun _ => rfl

/-- Inlined phrases leave a guarded list guarded. -/
theorem guarded_inlinings (bound : Nat) {steps : List Step}
    (all : guarded (symbols steps) = true) {production : Production}
    (member : production ∈ inlinings bound steps) :
    guarded (symbols production.steps) = true := by
  induction bound generalizing steps production with
  | zero => cases member
  | succ bound deeper =>
    rw [inlinings] at member
    induction steps generalizing production with
    | nil =>
      obtain rfl := List.mem_singleton.mp member
      rfl
    | cons step others ih =>
      rw [List.foldr_cons, List.mem_flatMap] at member
      obtain ⟨front, here, inside⟩ := member
      obtain ⟨back, later, rfl⟩ := List.mem_map.mp inside
      have joined : symbols (front.steps ++ back.steps) =
          symbols front.steps ++ symbols back.steps := List.map_append
      have closed : guarded (symbols front.steps) = true ∧
          (step.symbol = openingBrace → openingBrace ∈ symbols front.steps) := by
        have alone : guarded (symbols [step]) = true ∧
            (step.symbol = openingBrace → openingBrace ∈ symbols [step]) := by
          refine ⟨?_, fun opens => List.mem_singleton.mpr opens.symm⟩
          simp [symbols, guarded, closes_of_guarded all]
        split at here
        · rename_i phrase is
          split at here
          · obtain ⟨own, listed, inner⟩ := List.mem_flatMap.mp here
            obtain ⟨made, inlined, rfl⟩ := List.mem_map.mp inner
            refine ⟨?_, fun opens => absurd (is.symm.trans opens) nofun⟩
            rw [symbols_inlineSteps]
            exact deeper (guarded_ownProductions listed) inlined
          · rwa [List.mem_singleton.mp here]
        · rwa [List.mem_singleton.mp here]
      rw [joined]
      refine guarded_append closed.1 ?_
      by_cases opens : step.symbol = openingBrace
      · exact .inl (closed.2 opens)
      · exact .inr (ih (guarded_tail all opens) later)

theorem productions_guarded {symbol : Symbol} {production : Production}
    (member : production ∈ productions symbol) :
    guarded (symbols production.steps) = true := by
  rw [productions, List.mem_eraseDups, List.mem_flatMap] at member
  obtain ⟨own, listed, inside⟩ := member
  obtain ⟨inner, inlined, rfl⟩ := List.mem_map.mp inside
  have held := guarded_inlinings 4 (guarded_ownProductions listed) inlined
  exact held

end Grammar

end Hygiene.Python
