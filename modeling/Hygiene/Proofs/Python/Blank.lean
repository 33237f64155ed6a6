import Hygiene.Proofs.Python.Judging
import Hygiene.Proofs.Python.Underway
import Mathlib.Data.List.Sigma
import Mathlib.Data.List.TakeWhile

/-!
# Sources without code

Every source of blanks can be read, and its tree has no node beside the root (`parse_blanks`). So no
rule finds anything in it (`lint_blanks`).

Where a source begins neither the end of a line nor deeper indentation is welcome, so the layout has
no token in front of blanks, and the end of the source is read (`Reading.nextToken_blanks`). At that
token the production of a whole source without parts is complete, and no other one is
(`Table.TakesBlank.moves_start`).
-/

set_option autoImplicit false

namespace Hygiene.Python

theorem filterMap_only {α β : Type} {items : List α} {item : α} (nodup : items.Nodup)
    (member : item ∈ items) {f : α → Option β}
    (only : ∀ other ∈ items, other ≠ item → f other = none) :
    items.filterMap f = (f item).toList := by
  obtain ⟨earlier, later, rfl⟩ := List.append_of_mem member
  rw [List.nodup_append, List.nodup_cons] at nodup
  obtain ⟨-, ⟨absent, -⟩, apart⟩ := nodup
  have before : earlier.filterMap f = [] := by
    rw [List.filterMap_eq_nil_iff]
    intro other inside
    exact only other (List.mem_append_left _ inside) (apart other inside item List.mem_cons_self)
  have after : later.filterMap f = [] := by
    rw [List.filterMap_eq_nil_iff]
    intro other inside
    refine only other (List.mem_append_right _ (List.mem_cons_of_mem _ inside)) ?_
    rintro rfl
    exact absent inside
  rw [List.filterMap_append, List.filterMap_cons, before, after]
  cases f item <;> rfl

namespace Table

/-! ## States -/

theorem testBit_single (number bit : Nat) :
    (single number).testBit bit = true ↔ number = bit := by
  rw [single, Nat.one_shiftLeft, Nat.testBit_two_pow, decide_eq_true_iff]

/-- The openings of a state, in the order of their numbers. -/
theorem foldr_openings (follows : List Nat) (start : Nat) :
    follows.foldr
        (fun follow (number, openings) =>
          (number - 1, if follow = 0 then openings else (number - 1, follow) :: openings))
        (start + follows.length, ([] : List (Nat × Nat))) =
      (start, (follows.zipIdx start).filterMap fun entry =>
        if entry.1 = 0 then none else some (entry.2, entry.1)) := by
  induction follows generalizing start with
  | nil => rfl
  | cons follow others ih =>
    have shifted : start + (follow :: others).length = start + 1 + others.length := by
      rw [List.length_cons]
      omega
    rw [List.foldr_cons, shifted, ih (start + 1), List.zipIdx_cons, List.filterMap_cons]
    dsimp only
    rw [Nat.add_sub_cancel]
    split <;> rfl

variable (table : Table)

/-- Tokens with those that an item welcomes, as `welcome` gathers them. -/
def addWelcome (tokens : Nat) (item : Item) : Nat :=
  match table.next? item with
  | some (.token number) => tokens ||| single number
  | some (.head _) => tokens
  | none => tokens ||| item.follow

/-- Whether a token is one for which an item waits, or one behind an item that is complete. -/
def Welcomes (item : Item) (number : Nat) : Prop :=
  table.next? item = some (.token number) ∨
    (table.next? item = none ∧ item.follow.testBit number = true)

theorem testBit_addWelcome (tokens : Nat) (item : Item) (number : Nat) :
    (table.addWelcome tokens item).testBit number = true ↔
      tokens.testBit number = true ∨ table.Welcomes item number := by
  rw [addWelcome, Welcomes]
  cases table.next? item with
  | none => simp
  | some code =>
    cases code with
    | token other => simp [testBit_single]
    | head head => simp

/-- The tokens with which a state can do something are those that its items welcome. -/
theorem testBit_welcome (state : State) (number : Nat) :
    (table.welcome state).testBit number = true ↔
      ∃ item ∈ state.items, table.Welcomes item number := by
  have gathered (items : List Item) (known : Nat) :
      (items.foldl table.addWelcome known).testBit number = true ↔
        known.testBit number = true ∨ ∃ item ∈ items, table.Welcomes item number := by
    induction items generalizing known with
    | nil => simp
    | cons item others ih =>
      rw [List.foldl_cons, ih, testBit_addWelcome, List.exists_mem_cons_iff, or_assoc]
  refine (gathered state.items 0).trans ?_
  simp

/-- What the openings of a head add to what can follow each production. -/
theorem testBit_foldl_modify (openings : List Opening) (following : Nat) (found : Array Nat)
    (number bit : Nat) :
    ((openings.foldl
        (fun found opening =>
          found.modify opening.production fun known =>
            known ||| opening.follow ||| if opening.inherits then following else 0)
        found).getD number 0).testBit bit = true ↔
      (found.getD number 0).testBit bit = true ∨
        (number < found.size ∧ ∃ opening ∈ openings, opening.production = number ∧
          (opening.follow.testBit bit = true ∨
            (opening.inherits = true ∧ following.testBit bit = true))) := by
  induction openings generalizing found with
  | nil => simp
  | cons opening others ih =>
    rw [List.foldl_cons, ih, Array.size_modify, List.exists_mem_cons_iff, and_or_left, ← or_assoc]
    refine or_congr_left ?_
    rw [Array.getD_eq_getD_getElem?, Array.getD_eq_getD_getElem?, Array.getElem?_modify]
    split
    · rename_i same
      subst same
      cases held : found[opening.production]? with
      | none =>
        have outside := Array.getElem?_eq_none_iff.mp held
        simp [Nat.not_lt.mpr outside]
      | some known =>
        have inside := (Array.getElem?_eq_some_iff.mp held).1
        cases opening.inherits <;> simp [inside, or_assoc]
    · rename_i other
      simp [other]

/-! ## Where a source begins -/

/-- The number of the end of a source. -/
def endNumber : Nat :=
  table.tokens.size - 1

/-- What can follow each production where a source begins. -/
def followsAtStart : Array Nat :=
  table.addItemOpenings (Array.replicate table.productions.size 0)
    ⟨table.wholeNumber, 0, single table.endNumber⟩

/-- The productions that are under way where a source begins, beside that of the whole. -/
def openedAtStart : List Item :=
  table.followsAtStart.toList.zipIdx.filterMap fun entry =>
    if entry.1 = 0 then none else some ⟨entry.2, 0, entry.1⟩

variable {table} {blank : Nat}

section Items

variable {number : Nat} {coded : CodedProduction}
  (listed : table.productions[number]? = some coded) (dot follow : Nat)
include listed

theorem productionOf_eq : table.productionOf ⟨number, dot, follow⟩ = coded := by
  rw [productionOf, Array.getD_eq_getD_getElem?, listed, Option.getD_some]

theorem next_eq : table.next? ⟨number, dot, follow⟩ = coded.steps[dot]?.map CodedStep.code := by
  rw [next?, nextStep?, productionOf_eq listed]

theorem isComplete_eq :
    table.isComplete ⟨number, dot, follow⟩ = (coded.steps.size ≤ dot : Bool) := by
  rw [isComplete, productionOf_eq listed]

end Items

namespace TakesBlank

variable (takes : table.TakesBlank blank)
include takes

theorem next_whole (follow : Nat) :
    table.next? ⟨table.wholeNumber, 0, follow⟩ = some (.head 0) := by
  obtain ⟨coded, listed, -, first⟩ := takes.whole
  rw [next_eq listed, first]

theorem blank_ne_whole : blank ≠ table.wholeNumber := by
  rintro rfl
  obtain ⟨coded, listed, size, -⟩ := takes.whole
  obtain ⟨other, also, -, empty⟩ := takes.empty
  rw [listed, Option.some.injEq] at also
  rw [also, empty] at size
  cases size

theorem next_wholeRead (follow : Nat) :
    table.next? ⟨table.wholeNumber, 1, follow⟩ = none := by
  obtain ⟨coded, listed, size, -⟩ := takes.whole
  rw [next_eq listed, Array.getElem?_eq_none_iff.mpr (Nat.le_of_eq size), Option.map_none]

/-- What is under way where a source begins waits for nothing with which nothing begins there. -/
theorem not_mem_barred {number : Nat} (calm : table.Calm number) (follow : Nat) {code : Code}
    (waits : table.next? ⟨number, 0, follow⟩ = some code) {symbol : Symbol}
    (known : table.symbol? code = some symbol) : symbol ∉ Grammar.barred := by
  obtain ⟨coded, -, listed, -⟩ := id calm
  rw [next_eq listed] at waits
  exact takes.begins number coded code calm listed waits symbol known

theorem next_eq_none_iff {number : Nat} (calm : table.Calm number) (follow : Nat) :
    table.next? ⟨number, 0, follow⟩ = none ↔ number = blank := by
  constructor
  · intro waits
    obtain ⟨coded, -, listed, -⟩ := calm
    rw [next_eq listed, Option.map_eq_none_iff, Array.getElem?_eq_none_iff, Nat.le_zero,
      Array.size_eq_zero_iff] at waits
    exact takes.filled number coded listed waits
  · rintro rfl
    obtain ⟨coded, listed, -, empty⟩ := takes.empty
    rw [next_eq listed, empty]
    rfl

theorem isComplete_iff {number : Nat} (calm : table.Calm number) (follow : Nat) :
    table.isComplete ⟨number, 0, follow⟩ = true ↔ number = blank := by
  obtain ⟨coded, -, listed, -⟩ := id calm
  rw [← takes.next_eq_none_iff calm follow, isComplete_eq listed, next_eq listed,
    Option.map_eq_none_iff, Array.getElem?_eq_none_iff, decide_eq_true_iff]

/-- What can follow a production where a source begins. -/
theorem testBit_followsAtStart (number bit : Nat) :
    (table.followsAtStart.getD number 0).testBit bit = true ↔
      number < table.productions.size ∧ ∃ opening ∈ table.openings.getD 0 [],
        opening.production = number ∧ (opening.follow.testBit bit = true ∨
          (opening.inherits = true ∧ table.endNumber = bit)) := by
  obtain ⟨coded, listed, size, -⟩ := takes.whole
  have following : table.followOfNext ⟨table.wholeNumber, 0, single table.endNumber⟩ =
      single table.endNumber := by
    rw [followOfNext, productionOf_eq listed,
      Array.getElem?_eq_none_iff.mpr (Nat.le_of_eq size)]
  rw [followsAtStart, addItemOpenings, takes.next_whole]
  dsimp only
  rw [following, testBit_foldl_modify, Array.size_replicate, Array.getD_eq_getD_getElem?,
    Array.getElem?_replicate]
  simp only [testBit_single]
  split <;> simp

theorem calm_of_follows {number : Nat} (follows : table.followsAtStart.getD number 0 ≠ 0) :
    table.Calm number := by
  obtain ⟨bit, set⟩ := Nat.exists_testBit_of_ne_zero follows
  obtain ⟨-, opening, member, rfl, -⟩ := (takes.testBit_followsAtStart number bit).mp set
  exact (takes.opened opening member).1

theorem follows_blank : table.followsAtStart.getD blank 0 = single table.endNumber := by
  refine Nat.eq_of_testBit_eq fun bit => Bool.eq_iff_iff.mpr ?_
  rw [takes.testBit_followsAtStart, testBit_single]
  constructor
  · rintro ⟨-, opening, member, own, follows⟩
    -- Nothing stands behind it inside the source, so what follows it is what follows the source.
    obtain ⟨none, -⟩ := (takes.opened opening member).2 own
    rw [none, Nat.zero_testBit] at follows
    exact (follows.resolve_left Bool.false_ne_true).2
  · intro same
    obtain ⟨coded, listed, -⟩ := takes.empty
    obtain ⟨opening, member, own⟩ := takes.opensBlank
    exact ⟨(Array.getElem?_eq_some_iff.mp listed).1, opening, member, own,
      .inr ⟨((takes.opened opening member).2 own).2, same⟩⟩

/-- **The state where a source begins.** -/
theorem items_start : table.start.items =
    ⟨table.wholeNumber, 0, single table.endNumber⟩ :: table.openedAtStart := by
  have waits := takes.next_whole (single table.endNumber)
  have found : [(⟨table.wholeNumber, 0, single table.endNumber⟩ : Item)].foldl
      table.addItemOpenings (Array.replicate table.productions.size 0) =
        table.followsAtStart :=
    rfl
  have size : table.followsAtStart.size = 0 + table.followsAtStart.toList.length := by
    rw [Nat.zero_add, Array.length_toList]
  change (table.close [⟨table.wholeNumber, 0, single table.endNumber⟩]).items = _
  rw [close, found]
  -- The whole waits for a source, so the state is opened further.
  simp only [List.all_cons, waits, Bool.not_true, Bool.false_and, Bool.false_eq_true, if_false]
  rw [State.items, ← Array.foldr_toList, size, foldr_openings]
  rw [List.map_filterMap, List.singleton_append, openedAtStart]
  refine congrArg _ (List.filterMap_congr fun entry _ => ?_)
  dsimp only
  split <;> rfl

/-- What is under way beside the whole is calm, nothing of it is read, and what has no parts is
followed by the end of the source. -/
theorem openedAtStart_calm {item : Item} (member : item ∈ table.openedAtStart) :
    item.dot = 0 ∧ table.Calm item.production ∧
      (item.production = blank → item.follow = single table.endNumber) := by
  obtain ⟨⟨follow, number⟩, entry, made⟩ := List.mem_filterMap.mp member
  have listed := List.mem_zipIdx_iff_getElem?.mp entry
  rw [Array.getElem?_toList] at listed
  have follows : table.followsAtStart.getD number 0 = follow := by
    rw [Array.getD_eq_getD_getElem?, listed, Option.getD_some]
  split at made
  · cases made
  · rename_i some
    cases made
    refine ⟨rfl, takes.calm_of_follows (follows ▸ some), ?_⟩
    rintro rfl
    exact follows.symm.trans takes.follows_blank

/-- One item under way has no parts. -/
theorem openedAtStart_blank :
    table.openedAtStart.filter (fun item => item.production = blank) =
      [⟨blank, 0, single table.endNumber⟩] := by
  have some : single table.endNumber ≠ 0 := by
    intro none
    have bit := (testBit_single table.endNumber table.endNumber).mpr rfl
    rw [none, Nat.zero_testBit] at bit
    cases bit
  have held : table.followsAtStart.toList[blank]? = Option.some (single table.endNumber) := by
    have follows := takes.follows_blank
    rw [Array.getD_eq_getD_getElem?] at follows
    rw [Array.getElem?_toList]
    cases found : table.followsAtStart[blank]? with
    | none =>
      rw [found] at follows
      exact absurd follows.symm some
    | some follow =>
      rw [found] at follows
      exact congrArg Option.some follows
  rw [openedAtStart, List.filter_filterMap]
  have listed : (single table.endNumber, blank) ∈ table.followsAtStart.toList.zipIdx :=
    List.mem_zipIdx_iff_getElem?.mpr held
  have nodup : table.followsAtStart.toList.zipIdx.Nodup :=
    (List.nodup_zipIdx_map_snd _).of_map
  refine (filterMap_only nodup listed fun entry member apart => ?_).trans ?_
  · have listed := List.mem_zipIdx_iff_getElem?.mp member
    have differs : entry.2 ≠ blank := by
      intro same
      rw [same, held, Option.some.injEq] at listed
      exact apart (Prod.ext listed.symm same)
    split
    · rfl
    · simp [Option.filter, differs]
  · rw [if_neg some]
    simp [Option.filter]

/-! ## What the automaton does at the end of a source -/

theorem getElem_endNumber : table.tokens[table.endNumber]? = some .endOfSource := by
  obtain ⟨others, tokens, -⟩ := takes.last
  rw [endNumber, ← Array.getElem?_toList, ← Array.length_toList, tokens, List.length_append,
    List.length_singleton, Nat.add_sub_cancel, List.getElem?_concat_length]

theorem symbol_endNumber :
    table.symbol? (.token table.endNumber) = some (.token .endOfSource) := by
  rw [symbol?, takes.getElem_endNumber, Option.map_some]

theorem tokenNumber_endOfSource : table.tokenNumber .endOfSource = table.endNumber := by
  obtain ⟨others, tokens, apart⟩ := takes.last
  rw [tokenNumber, endNumber, ← Array.length_toList, tokens, List.idxOf_append_of_notMem apart]
  simp

theorem advanced_start_end : table.advanced table.start (.token table.endNumber) = [] := by
  rw [advanced, List.filterMap_eq_nil_iff, takes.items_start, List.forall_mem_cons]
  constructor
  · rw [takes.next_whole]
    rfl
  · rintro ⟨number, dot, follow⟩ member
    obtain ⟨rfl, calm, -⟩ := takes.openedAtStart_calm member
    refine if_neg fun waits => ?_
    exact takes.not_mem_barred calm follow waits takes.symbol_endNumber (by decide)

theorem advanced_start_source :
    table.advanced table.start (.head 0) =
      [⟨table.wholeNumber, 1, single table.endNumber⟩] := by
  rw [advanced, takes.items_start, List.filterMap_cons, if_pos (takes.next_whole _)]
  dsimp only
  refine congrArg _ (List.filterMap_eq_nil_iff.mpr ?_)
  rintro ⟨number, dot, follow⟩ member
  obtain ⟨rfl, calm, -⟩ := takes.openedAtStart_calm member
  refine if_neg fun waits => ?_
  exact takes.not_mem_barred calm follow waits takes.source (by decide)

theorem completions_start :
    table.completions table.start table.endNumber = [⟨blank, 0, single table.endNumber⟩] := by
  have complete : (table.start.items.filter fun item =>
      table.isComplete item && item.follow.testBit table.endNumber) =
        [⟨blank, 0, single table.endNumber⟩] := by
    have waits : table.isComplete ⟨table.wholeNumber, 0, single table.endNumber⟩ = false := by
      obtain ⟨coded, listed, size, -⟩ := takes.whole
      rw [isComplete_eq listed, size]
      rfl
    rw [takes.items_start, List.filter_cons, waits, ← takes.openedAtStart_blank]
    refine List.filter_congr ?_
    rintro ⟨number, dot, follow⟩ member
    obtain ⟨rfl, calm, last⟩ := takes.openedAtStart_calm member
    rw [Bool.eq_iff_iff, Bool.and_eq_true, takes.isComplete_iff calm, decide_eq_true_iff]
    refine and_iff_left_of_imp fun same => ?_
    rw [last same]
    exact (testBit_single _ _).mpr rfl
  rw [completions, complete]
  simp

/-- At the end of a source of blanks its production is complete. -/
theorem moves_start : table.moves table.start table.endNumber = ⟨[], [blank]⟩ := by
  rw [moves, takes.advanced_start_end, takes.completions_start]
  rfl

/-- The state in which a whole source is read. -/
theorem goto_source : table.goto? table.start 0 =
    some ⟨[⟨table.wholeNumber, 1, single table.endNumber⟩], []⟩ := by
  rw [goto?, takes.advanced_start_source]
  dsimp only
  rw [close, List.all_cons, takes.next_wholeRead]
  rfl

theorem moves_whole :
    table.moves ⟨[⟨table.wholeNumber, 1, single table.endNumber⟩], []⟩ table.endNumber =
      ⟨[], [table.wholeNumber]⟩ := by
  have items : State.items ⟨[⟨table.wholeNumber, 1, single table.endNumber⟩], []⟩ =
      [⟨table.wholeNumber, 1, single table.endNumber⟩] :=
    rfl
  have complete : table.isComplete ⟨table.wholeNumber, 1, single table.endNumber⟩ = true := by
    obtain ⟨coded, listed, size, -⟩ := takes.whole
    rw [isComplete_eq listed, size]
    rfl
  have follows : (single table.endNumber).testBit table.endNumber = true :=
    (testBit_single _ _).mpr rfl
  have reading : table.advanced ⟨[⟨table.wholeNumber, 1, single table.endNumber⟩], []⟩
      (.token table.endNumber) = [] := by
    rw [advanced, items, List.filterMap_cons, takes.next_wholeRead]
    rfl
  have completed : table.completions ⟨[⟨table.wholeNumber, 1, single table.endNumber⟩], []⟩
      table.endNumber = [⟨table.wholeNumber, 1, single table.endNumber⟩] := by
    rw [completions, items]
    simp [complete, follows]
  rw [moves, reading, completed]
  rfl

/-! ## What is welcome where a source begins -/

/-- A token that is welcome where a source begins is its end, or something that can begin it. -/
theorem not_mem_barred_of_welcome {number : Nat} {token : Token}
    (listed : table.tokens[number]? = some token)
    (welcome : (table.welcome table.start).testBit number = true) :
    token = .endOfSource ∨ Symbol.token token ∉ Grammar.barred := by
  have known : table.symbol? (.token number) = some (.token token) := by
    rw [symbol?, listed, Option.map_some]
  obtain ⟨item, member, waits⟩ := (table.testBit_welcome _ _).mp welcome
  rw [takes.items_start, List.mem_cons] at member
  rcases member with rfl | member
  · rw [Welcomes, takes.next_whole] at waits
    rcases waits with waits | ⟨waits, -⟩ <;> cases waits
  · obtain ⟨production, dot, follow⟩ := item
    obtain ⟨rfl, calm, last⟩ := takes.openedAtStart_calm member
    rcases waits with waits | ⟨waits, follows⟩
    · exact .inr (takes.not_mem_barred calm follow waits known)
    · left
      rw [last ((takes.next_eq_none_iff calm follow).mp waits), testBit_single] at follows
      rw [← follows, takes.getElem_endNumber, Option.some.injEq] at listed
      exact listed.symm

theorem endOfSource_welcome :
    .endOfSource ∈ Reading.welcomeTokens table table.start := by
  have listed := takes.getElem_endNumber
  rw [← Array.getElem?_toList] at listed
  have member : (⟨blank, 0, single table.endNumber⟩ : Item) ∈ table.openedAtStart := by
    refine List.mem_of_mem_filter (p := fun item => item.production = blank) ?_
    rw [takes.openedAtStart_blank]
    exact List.mem_singleton_self _
  have calm := (takes.openedAtStart_calm member).2.1
  have welcome : (table.welcome table.start).testBit table.endNumber = true := by
    refine (table.testBit_welcome _ _).mpr ⟨_, ?_, .inr
      ⟨(takes.next_eq_none_iff calm _).mpr rfl, (testBit_single _ _).mpr rfl⟩⟩
    rw [takes.items_start]
    exact List.mem_cons_of_mem _ member
  refine List.mem_map.mpr ⟨(.endOfSource, table.endNumber), List.mem_filter.mpr
    ⟨List.mem_zipIdx_iff_getElem?.mpr listed, ?_⟩, rfl⟩
  simp [welcome]

/-- The layout is welcome to neither end a line nor indent the next one. -/
theorem not_welcome {token : Token} (barred : Symbol.token token ∈ Grammar.barred)
    (other : token ≠ .endOfSource) : token ∉ Reading.welcomeTokens table table.start := by
  intro member
  obtain ⟨⟨found, number⟩, entry, rfl⟩ := List.mem_map.mp member
  obtain ⟨inside, welcome⟩ := List.mem_filter.mp entry
  have listed := List.mem_zipIdx_iff_getElem?.mp inside
  rw [Array.getElem?_toList] at listed
  simp only [Bool.or_eq_true, decide_eq_true_eq] at welcome
  rcases welcome with (welcome | rfl) | rfl
  · rcases takes.not_mem_barred_of_welcome listed welcome with same | apart
    · exact other same
    · exact apart barred
  · simp [Grammar.barred] at barred
  · simp [Grammar.barred] at barred

end TakesBlank

end Table

/-! ## Blanks -/

theorem Place.rest_skip (place : Place) (count : Nat) :
    (place.skip count).rest = place.rest.drop count := by
  induction count generalizing place with
  | zero => rfl
  | succ count ih =>
    have next : place.next.rest = place.rest.tail := by
      rw [Place.next]
      split
      · rename_i none
        rw [none, List.tail_nil]
      · rename_i c rest some
        rw [some, List.tail_cons]
        split <;> rfl
    rw [Place.skip, ih, next, List.drop_tail]

/-- Whether a text holds blanks alone. -/
def Blanks (text : Text) : Prop :=
  ∀ c ∈ text, Lexeme.isSeparator c = true

theorem Blanks.drop {text : Text} (blanks : Blanks text) (count : Nat) :
    Blanks (text.drop count) :=
  fun c member => blanks c (List.mem_of_mem_drop member)

namespace Layout

theorem openingQuotes_blanks {text : Text} (blanks : Blanks text) :
    openingQuotes? text = none := by
  cases text with
  | nil => rfl
  | cons c rest =>
    have blank := blanks c List.mem_cons_self
    simp only [Lexeme.isSeparator, Bool.or_eq_true, decide_eq_true_eq] at blank
    rcases blank with ((((((rfl | rfl) | rfl) | rfl) | rfl) | rfl) | rfl) | rfl <;> rfl

/-- Where neither the end of a line nor deeper indentation is welcome, the layout has no token in
front of blanks. -/
theorem token_blanks {welcome : LayoutWelcome} (newline : welcome.newline = false)
    (indent : welcome.indent = false) {place : Place} (blanks : Blanks place.rest) :
    start.token? welcome place = none := by
  have line (gap : Gap) (reached : Text) : start.lineToken? welcome gap reached = none := by
    simp [lineToken?, start, newline, indent]
  change start.betweenTokens? welcome place = none
  rw [betweenTokens?, Option.bind_eq_none_iff]
  intro gap _
  dsimp only
  rw [line]
  dsimp only
  rw [openString?, Place.rest_skip, openingQuotes_blanks (blanks.drop _)]
  split <;> rfl

end Layout

namespace Lexeme

/-- At the end of a text no token has characters, and only its end is read there. -/
theorem length_nil {token : Token} (opens : token.closes = false) (afterBlanks : Bool) :
    length? token afterBlanks [] = if token = .endOfSource then some 0 else none := by
  cases token with
  | mark spelling =>
    rw [Token.closes] at opens
    rw [length?]
    cases spelled : spelling.toList with
    | nil =>
      rw [spelled] at opens
      cases opens
    | cons c others => simp
  | loneBackslash => cases afterBlanks <;> rfl
  | escapeSequence => cases afterBlanks <;> rfl
  | _ => rfl

/-- The best of several tokens at the end of a text is its end. -/
theorem foldl_length_nil {tokens : List Token} (all : ∀ token ∈ tokens, token.closes = false)
    (afterBlanks : Bool) {best : Option (Token × Nat)}
    (known : best = some (.endOfSource, 0) ∨ (best = none ∧ .endOfSource ∈ tokens)) :
    tokens.foldl
      (fun best token =>
        match length? token afterBlanks [] with
        | some length => better best token length
        | none => best)
      best = some (.endOfSource, 0) := by
  induction tokens generalizing best with
  | nil => exact known.resolve_right fun both => List.not_mem_nil both.2
  | cons token others ih =>
    rw [List.forall_mem_cons] at all
    rw [List.foldl_cons, length_nil all.1]
    refine ih all.2 ?_
    by_cases last : token = .endOfSource
    · left
      rw [if_pos last, last]
      rcases known with rfl | ⟨rfl, -⟩ <;> rfl
    · rw [if_neg last]
      exact known.imp_right fun both =>
        ⟨both.1, (List.mem_cons.mp both.2).resolve_left (Ne.symm last)⟩

/-- Behind blanks the end of the source is read. -/
theorem token_blanks {welcome : List Token} (all : ∀ token ∈ welcome, token.closes = false)
    (last : .endOfSource ∈ welcome) {place : Place} (blanks : Blanks place.rest) :
    token? welcome place = some (.endOfSource, place.skip place.rest.length,
      place.skip place.rest.length) := by
  have run : runLength isSeparator place.rest = place.rest.length := by
    rw [runLength, List.takeWhile_eq_self_iff.mpr blanks]
  have reached : (place.skip place.rest.length).rest = [] := by
    rw [Place.rest_skip, List.drop_length]
  have word : word? welcome [] = none := by
    rw [word?]
    split <;> rfl
  rw [token?, run]
  dsimp only
  rw [reached, word]
  exact congrArg (Option.map _) (foldl_length_nil all _ (.inr ⟨rfl, last⟩))

end Lexeme

/-! ## Reading -/

namespace Reading

variable {table : Table} {blank : Nat} (takes : table.TakesBlank blank) (bars : table.Bars)

theorem blanks_afterMark {place : Place} (blanks : Blanks place.rest) :
    Blanks (afterMark place).rest := by
  rw [afterMark]
  split
  · have next : place.next.rest = place.rest.drop 1 := Place.rest_skip place 1
    rw [next]
    exact blanks.drop 1
  · exact blanks

include takes bars

/-- Of blanks the end of the source is read. -/
theorem nextToken_blanks {source : Text} (blanks : Blanks source) :
    ∃ last, nextToken? table ⟨[], .start source, .start⟩ =
      some ⟨table.endNumber, .endOfSource, last, last, .start⟩ := by
  have after : Blanks (afterMark (Place.start source)).rest := blanks_afterMark blanks
  have ends : table.tokens.toList.getLast? = some .endOfSource := by
    obtain ⟨others, tokens, -⟩ := takes.last
    rw [tokens, List.getLast?_concat]
  have newline : (layoutWelcome (welcomeTokens table table.start)).newline = false := by
    simpa [layoutWelcome] using takes.not_welcome (by decide) (by decide)
  have indent : (layoutWelcome (welcomeTokens table table.start)).indent = false := by
    simpa [layoutWelcome] using takes.not_welcome (by decide) (by decide)
  have read := Lexeme.token_blanks (Table.welcomeTokens_start bars ends)
    takes.endOfSource_welcome after
  rw [nextToken?, stateOf]
  dsimp only
  rw [Layout.token_blanks newline indent after]
  dsimp only
  rw [read, Option.map_some, takes.tokenNumber_endOfSource]
  exact ⟨_, rfl⟩

omit bars in
/-- The stack after the production without parts is completed. -/
theorem complete_blank : ∃ weight, complete table blank [] =
    some [⟨.phrase blank weight [],
      ⟨[⟨table.wholeNumber, 1, Table.single table.endNumber⟩], []⟩⟩] := by
  obtain ⟨coded, listed, head, empty⟩ := takes.empty
  have known : table.productions.getD blank default = coded := by
    rw [Array.getD_eq_getD_getElem?, listed, Option.getD_some]
  refine ⟨coded.weight, ?_⟩
  rw [complete, known]
  dsimp only
  rw [empty, head]
  change (table.goto? table.start 0).map _ = _
  rw [takes.goto_source]
  rfl

omit bars in
/-- At the end of a source of blanks one stack makes up the whole source, and none goes on. -/
theorem extend_end (last : Place) (bound : Nat) : ∃ weight state,
    extend table ⟨table.endNumber, .endOfSource, last, last, .start⟩ (bound + 3) [[]] ⟨[], []⟩ =
      ⟨[], [[⟨.phrase blank weight [], state⟩]]⟩ := by
  obtain ⟨weight, completed⟩ := complete_blank takes
  have size : 0 < table.productions.size := by
    obtain ⟨coded, listed, -⟩ := takes.empty
    exact Nat.lt_of_le_of_lt (Nat.zero_le _) (Array.getElem?_eq_some_iff.mp listed).1
  have whole : table.wholeNumber + 1 = table.productions.size := Nat.sub_add_cancel size
  have apart : blank + 1 ≠ table.productions.size := by
    rw [← whole]
    exact fun same => takes.blank_ne_whole (Nat.succ.inj same)
  refine ⟨weight, ⟨[⟨table.wholeNumber, 1, Table.single table.endNumber⟩], []⟩, ?_⟩
  -- First the production of the source is complete, then, on top of it, that of the whole.
  rw [extend, stateOf]
  dsimp only
  rw [takes.moves_start]
  simp [apart, completed, extend, stateOf, takes.moves_whole, whole]

/-- A source of blanks is read as one phrase without parts. -/
theorem parts_blanks {source : Text} (blanks : Blanks source) :
    ∃ weight, parts? table source = some [.phrase blank weight []] := by
  obtain ⟨last, next⟩ := nextToken_blanks takes bars blanks
  obtain ⟨weight, state, extended⟩ := extend_end takes last 1021
  have enough : 64 * (([] : List Frame).length + 16) = 1021 + 3 := rfl
  have stepped : step table ⟨[], .start source, .start⟩ =
      ([], [[⟨.phrase blank weight [], state⟩]]) := by
    rw [step, next]
    dsimp only
    rw [if_neg (by simp), enough, extended]
    rfl
  have bound : 64 * (source.length + 16) = 64 * source.length + 1023 + 1 := by omega
  refine ⟨weight, ?_⟩
  rw [parts?, bound, run, pickEarliest, pickEarliest]
  dsimp only
  rw [stepped]
  dsimp only [List.foldl_nil, List.nil_append]
  rw [run_nil]
  rfl

end Reading

/-! ## The grammar -/

/-- **Every source of blanks can be read**: its tree is that of a source without statements. -/
theorem parse_blanks {source : Text} (blanks : Blanks source) :
    parse source = .ok (.node (.phrase .source) none ⟨0, 0⟩ source []) := by
  obtain ⟨weight, read⟩ := Reading.parts_blanks grammarTable_takesBlank grammarTable_bars blanks
  rw [parse, read]
  dsimp only
  rw [Tree.ofWhole]
  simp [Tree.ofParts]

/-- No rule finds anything in a tree without nodes. -/
theorem judgeTree_blanks (rules : List Rule) (source : Text) :
    judgeTree rules (.node (.phrase .source) none ⟨0, 0⟩ source []) = .ok [] := by
  have clean (rule : Rule) :
      rule.check (.ofTree (.node (.phrase .source) none ⟨0, 0⟩ source [])) = .clean := by
    cases rule <;> rfl
  have only : stations (.node (.phrase .source) none ⟨0, 0⟩ source []) =
      [.ofTree (.node (.phrase .source) none ⟨0, 0⟩ source [])] :=
    rfl
  refine (judgeTree_eq_ok_iff _ _ _).mpr ⟨[], rfl, ?_, ?_⟩
  · rw [only, List.forall_mem_singleton]
    intro rule _ _
    rw [reason?, clean]
  · have none : found rules [] (.ofTree (.node (.phrase .source) none ⟨0, 0⟩ source [])) = [] := by
      rw [found, List.filterMap_eq_nil_iff]
      intro rule _
      rw [finding?, clean]
    rw [only, List.flatMap_singleton, none, List.mergeSort_nil]

/-- **No rule finds anything in a source of blanks.** -/
theorem lint_blanks (rules : List Rule) {source : Text} (blanks : Blanks source) :
    lint rules source = .ok [] := by
  rw [lint, parse_blanks blanks]
  exact judgeTree_blanks rules source

end Hygiene.Python
