import Hygiene.Proofs.Python.Guarded
import Hygiene.Python.Table

/-!
# What stands in productions

A production says of each of its parts which symbol it is, under which kind it shows and in which
role; this is its slot (`Slot`). The slots in the productions of a symbol are found in the shape of
the symbol without going through the ways to put it together: each is a slot of the shape, or of a
phrase that is inlined in place of one (`slot_of_mem_productions`). So what holds of all these slots
holds of every step of every production, and also of the steps in the table of the grammar, where
the symbols are numbered (`grammarTable_slotted`).
-/

set_option autoImplicit false

namespace Hygiene.Python

/-- What a production says of a part, apart from what decides between readings. -/
structure Slot where
  symbol : Symbol
  shownAs : Option Kind
  role : Option Role
  deriving DecidableEq

/-- The slot of a step. -/
def Step.slot (step : Step) : Slot :=
  ⟨step.symbol, step.shownAs, step.role⟩

/-! ## Slots of a shape -/

namespace Shape

/-- The slots in a shape without repetitions, inside a part with a kind and a role. -/
def slots (shownAs : Option Kind) (role : Option Role) : Shape → List Slot
  | .symbol found => [⟨found, shownAs, role⟩]
  | .sequence first second => first.slots shownAs role ++ second.slots shownAs role
  | .choice first second => first.slots shownAs role ++ second.slots shownAs role
  | .ranked _ _ body => body.slots shownAs role
  | .preferred _ body => body.slots shownAs role
  | .shownAs kind body => body.slots (some kind) role
  | .role found body => body.slots shownAs (some found)
  | _ => []

/-- An alternative has no other slots than the shape that it comes from. -/
theorem slots_alternatives {shape alternative : Shape}
    (member : alternative ∈ shape.alternatives) (shownAs : Option Kind) (role : Option Role) :
    alternative.slots shownAs role ⊆ shape.slots shownAs role := by
  induction shape generalizing alternative shownAs role with
  | sequence first second former latter =>
    simp only [alternatives, List.mem_flatMap, List.mem_map] at member
    obtain ⟨left, inFirst, right, inSecond, rfl⟩ := member
    rw [slots, slots, List.append_subset]
    constructor
    · exact List.subset_append_of_subset_left _ (former inFirst shownAs role)
    · exact List.subset_append_of_subset_right _ (latter inSecond shownAs role)
  | choice first second former latter =>
    rcases List.mem_append.mp member with inside | inside
    · exact List.subset_append_of_subset_left _ (former inside shownAs role)
    · exact List.subset_append_of_subset_right _ (latter inside shownAs role)
  | ranked rank side body ih =>
    obtain ⟨inner, inside, rfl⟩ := List.mem_map.mp member
    exact ih inside shownAs role
  | preferred weight body ih =>
    obtain ⟨inner, inside, rfl⟩ := List.mem_map.mp member
    exact ih inside shownAs role
  | shownAs kind body ih =>
    obtain ⟨inner, inside, rfl⟩ := List.mem_map.mp member
    exact ih inside (some kind) role
  | role found body ih =>
    obtain ⟨inner, inside, rfl⟩ := List.mem_map.mp member
    exact ih inside shownAs (some found)
  | _ =>
    obtain rfl := List.mem_singleton.mp member
    exact List.Subset.refl _

/-- The steps of a shape have its slots. -/
theorem slot_stepsWithin (shape : Shape) (outer : Step) (atEnd : Bool) :
    (shape.stepsWithin outer atEnd).steps.map Step.slot ⊆ shape.slots outer.shownAs outer.role := by
  induction shape generalizing outer atEnd with
  | symbol found => exact List.Subset.refl _
  | sequence first second former latter =>
    rw [stepsWithin, slots, List.map_append, List.append_subset]
    constructor
    · exact List.subset_append_of_subset_left _ (former outer false)
    · exact List.subset_append_of_subset_right _ (latter outer atEnd)
  | ranked rank side body ih =>
    rw [stepsWithin]
    cases atEnd with
    | true => exact ih _ _
    | false =>
      simp only [Bool.false_eq_true, if_false]
      rw [map_mapLast]
      · exact ih _ _
      · exact fun _ => rfl
  | preferred weight body ih => exact ih _ _
  | shownAs kind body ih => exact ih _ _
  | role found body ih => exact ih _ _
  | _ => exact List.nil_subset _

theorem slot_productions {shape : Shape} {production : Production}
    (member : production ∈ shape.productions) :
    production.steps.map Step.slot ⊆ shape.slots none none := by
  rw [productions, List.mem_eraseDups, List.mem_map] at member
  obtain ⟨alternative, inside, rfl⟩ := member
  exact List.Subset.trans (slot_stepsWithin _ _ _) (slots_alternatives inside none none)

end Shape

/-! ## Slots of a symbol -/

/-- A slot of an inlined phrase in place of the slot of the phrase, whose kind and role it takes
over. -/
def Slot.within (outer inner : Slot) : Slot :=
  ⟨inner.symbol, outer.shownAs.or inner.shownAs, outer.role.or inner.role⟩

namespace Grammar

/-- The slots in the productions of a symbol before anything is inlined. -/
def ownSlots : Symbol → List Slot
  | .token _ => []
  | .phrase phrase =>
    match grouped.1.find? fun entry => entry.1 = phrase with
    | some entry => entry.2.slots none none
    | none => []
  | .group number =>
    match groups[number]? with
    | some body => ⟨.group number, none, none⟩ :: body.slots none none
    | none => []

/-- What a slot becomes when phrases are inlined: itself, or the slots of the inlined phrase. -/
def inlinedSlots : (bound : Nat) → Slot → List Slot
  | 0, _ => []
  | bound + 1, slot =>
    match slot.symbol with
    | .phrase phrase =>
      if isInlined phrase then
        (ownSlots (.phrase phrase)).flatMap fun inner =>
          (inlinedSlots bound inner).map slot.within
      else [slot]
    | _ => [slot]

theorem inlinedSlots_phrase (bound : Nat) {slot : Slot} {phrase : Phrase}
    (is : slot.symbol = .phrase phrase) :
    inlinedSlots (bound + 1) slot =
      if isInlined phrase then
        (ownSlots (.phrase phrase)).flatMap fun inner =>
          (inlinedSlots bound inner).map slot.within
      else [slot] := by
  rw [inlinedSlots, is]

theorem inlinedSlots_other (bound : Nat) {slot : Slot}
    (other : ∀ phrase, slot.symbol ≠ .phrase phrase) : inlinedSlots (bound + 1) slot = [slot] := by
  rw [inlinedSlots]
  split
  · rename_i phrase is
    exact absurd is (other phrase)
  · rfl

/-- The slots in the productions of a symbol. -/
def slotsOf (symbol : Symbol) : List Slot :=
  (ownSlots symbol).flatMap (inlinedSlots 4)

theorem slot_ownProductions {symbol : Symbol} {production : Production}
    (member : production ∈ ownProductions symbol) :
    production.steps.map Step.slot ⊆ ownSlots symbol := by
  cases symbol with
  | token found => exact absurd (show production ∈ [] from member) List.not_mem_nil
  | phrase phrase =>
    unfold ownProductions at member
    unfold ownSlots
    dsimp only at member ⊢
    cases found : grouped.1.find? fun entry => entry.1 = phrase with
    | none =>
      rw [found] at member
      cases member
    | some entry =>
      rw [found] at member
      exact Shape.slot_productions member
  | group number =>
    unfold ownProductions at member
    unfold ownSlots
    dsimp only at member ⊢
    cases found : groups[number]? with
    | none =>
      rw [found] at member
      cases member
    | some body =>
      rw [found] at member
      intro slot inside
      -- A group is named twice in its first production, but has one slot for both.
      have known := Shape.slot_productions member inside
      simp only [Shape.slots, List.cons_append, List.nil_append, List.mem_cons] at known
      rw [List.mem_cons]
      tauto

theorem slot_inlineSteps (replaced : Step) (steps : List Step) :
    (inlineSteps replaced steps).map Step.slot =
      (steps.map Step.slot).map replaced.slot.within := by
  rw [inlineSteps, Shape.map_mapLast]
  · rw [List.map_map, List.map_map]
    rfl
  · exact fun _ => rfl

/-- Inlined phrases leave what the slots become. -/
theorem slot_inlinings (bound : Nat) {steps : List Step} {production : Production}
    (member : production ∈ inlinings bound steps) :
    production.steps.map Step.slot ⊆ (steps.map Step.slot).flatMap (inlinedSlots bound) := by
  induction bound generalizing steps production with
  | zero => cases member
  | succ bound deeper =>
    rw [inlinings] at member
    induction steps generalizing production with
    | nil =>
      obtain rfl := List.mem_singleton.mp member
      exact List.nil_subset _
    | cons step others ih =>
      rw [List.foldr_cons, List.mem_flatMap] at member
      obtain ⟨front, here, inside⟩ := member
      obtain ⟨back, later, rfl⟩ := List.mem_map.mp inside
      rw [List.map_append, List.map_cons, List.flatMap_cons, List.append_subset]
      refine ⟨List.subset_append_of_subset_left _ ?_,
        List.subset_append_of_subset_right _ (ih later)⟩
      cases symbol : step.symbol with
      | phrase phrase =>
        rw [symbol] at here
        dsimp only at here
        rw [inlinedSlots_phrase bound symbol]
        split at here
        · rename_i inlined
          obtain ⟨own, listed, inner⟩ := List.mem_flatMap.mp here
          obtain ⟨made, placed, rfl⟩ := List.mem_map.mp inner
          rw [if_pos inlined, slot_inlineSteps]
          intro slot inside
          obtain ⟨last, among, rfl⟩ := List.mem_map.mp inside
          obtain ⟨first, known, comes⟩ := List.mem_flatMap.mp (deeper placed among)
          rw [List.mem_flatMap]
          exact ⟨first, slot_ownProductions listed known, List.mem_map_of_mem comes⟩
        · rename_i stays
          rw [List.mem_singleton.mp here, if_neg stays]
          exact List.Subset.refl _
      | _ =>
        rw [symbol] at here
        rw [List.mem_singleton.mp here, inlinedSlots_other]
        · exact List.Subset.refl _
        · intro phrase is
          cases symbol.symm.trans is

/-- **Every step of a production has one of the slots of its symbol.** -/
theorem slot_of_mem_productions {symbol : Symbol} {production : Production}
    (member : production ∈ productions symbol) {step : Step} (inside : step ∈ production.steps) :
    step.slot ∈ slotsOf symbol := by
  rw [productions, List.mem_eraseDups, List.mem_flatMap] at member
  obtain ⟨own, listed, derived⟩ := member
  obtain ⟨inner, inlined, rfl⟩ := List.mem_map.mp derived
  obtain ⟨first, known, comes⟩ :=
    List.mem_flatMap.mp (slot_inlinings 4 inlined (List.mem_map_of_mem inside))
  rw [slotsOf, List.mem_flatMap]
  exact ⟨first, slot_ownProductions listed known, comes⟩

end Grammar

/-! ## Numbered steps -/

/-- The symbol with a number. -/
def Table.symbol? (table : Table) : Code → Option Symbol
  | .token number => table.tokens[number]?.map .token
  | .head number => table.heads[number]?

/-- A numbered step that says of its part what a slot says. -/
structure CodedStep.Has (table : Table) (step : CodedStep) (slot : Slot) : Prop where
  symbol : ∀ found, table.symbol? step.code = some found → found = slot.symbol
  shownAs : step.shownAs = slot.shownAs
  role : step.role = slot.role

/-- Every production of a table, other than that of whole sources, is one of several symbols and has
the slots of that symbol. -/
def Table.Slotted (table : Table) (heads : List Symbol) : Prop :=
  ∀ production, production + 1 ≠ table.productions.size →
    ∃ head ∈ heads,
      table.symbol? (.head (table.productions.getD production default).head) = some head ∧
        ∀ step ∈ (table.productions.getD production default).steps.toList,
          ∃ slot ∈ Grammar.slotsOf head, step.Has table slot

theorem eq_of_getElem_idxOf {α : Type} [DecidableEq α] {values : List α} {value found : α}
    (known : values[values.idxOf value]? = some found) : found = value := by
  obtain ⟨listed, rfl⟩ := List.getElem?_eq_some_iff.mp known
  exact List.getElem_idxOf listed

namespace Table

/-- The number of a symbol is the number of no other one. -/
theorem symbol_code {table : Table} {symbol found : Symbol}
    (known : table.symbol? (code table.tokens.toList table.heads.toList symbol) = some found) :
    found = symbol := by
  have head {symbol : Symbol} (known : table.heads[table.heads.toList.idxOf symbol]? = some found) :
      found = symbol := by
    rw [← Array.getElem?_toList] at known
    exact eq_of_getElem_idxOf known
  cases symbol with
  | token token =>
    obtain ⟨other, listed, rfl⟩ := Option.map_eq_some_iff.mp known
    rw [← Array.getElem?_toList] at listed
    rw [eq_of_getElem_idxOf listed]
  | phrase phrase => exact head known
  | group number => exact head known

/-- The productions of a table, other than the last one, are those that it was built from. -/
theorem mem_of_build {heads : List Symbol} {productions : List (List Production)} {number : Nat}
    (inner : number + 1 ≠ (build heads productions).productions.size) {coded : CodedProduction}
    (listed : (build heads productions).productions[number]? = some coded) :
    ∃ own production, productions[coded.head]? = some own ∧ production ∈ own ∧
      coded = codeProduction (grammarTokens productions) heads coded.head production := by
  rw [build] at inner listed
  simp only [List.getElem?_toArray, List.size_toArray, List.length_append,
    List.length_singleton] at inner listed
  have bound := (List.getElem?_eq_some_iff.mp listed).1
  rw [List.length_append, List.length_singleton] at bound
  rw [List.getElem?_append_left (by omega)] at listed
  obtain ⟨⟨own, number⟩, entry, inside⟩ := List.mem_flatMap.mp (List.mem_of_getElem? listed)
  obtain ⟨production, member, rfl⟩ := List.mem_map.mp inside
  exact ⟨own, production, List.mem_zipIdx_iff_getElem?.mp entry, member, rfl⟩

/-- What is built from the productions of symbols has their slots. -/
theorem build_slotted {heads : List Symbol} (nonempty : heads ≠ []) :
    (build heads (heads.map Grammar.productions)).Slotted heads := by
  intro number inner
  rw [Array.getD_eq_getD_getElem?]
  cases listed : (build heads (heads.map Grammar.productions)).productions[number]? with
  | none =>
    -- There is no such production: what stands for it has no steps.
    refine ⟨heads.head nonempty, List.head_mem nonempty, ?_, fun step member => by cases member⟩
    change heads.toArray[0]? = _
    rw [List.getElem?_toArray, ← List.head?_eq_getElem?, List.head?_eq_some_head]
  | some coded =>
    obtain ⟨own, production, entry, member, same⟩ := mem_of_build inner listed
    rw [List.getElem?_map] at entry
    obtain ⟨head, known, rfl⟩ := Option.map_eq_some_iff.mp entry
    refine ⟨head, List.mem_of_getElem? known, (List.getElem?_toArray ..).trans known, ?_⟩
    intro step inside
    rw [Option.getD_some, same] at inside
    obtain ⟨step, among, rfl⟩ := List.mem_map.mp inside
    refine ⟨step.slot, Grammar.slot_of_mem_productions member among, ?_, rfl, rfl⟩
    exact fun found => symbol_code

end Table

/-- **The steps in the table of the grammar have the slots of their symbols.** -/
theorem grammarTable_slotted : grammarTable.Slotted Grammar.heads :=
  Table.build_slotted (List.cons_ne_nil _ _)

end Hygiene.Python
