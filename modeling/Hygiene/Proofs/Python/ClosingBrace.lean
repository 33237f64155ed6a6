import Hygiene.Proofs.Python.Slots
import Hygiene.Python.Source
import Mathlib.Tactic.ByContra

/-!
# Sources that begin with a closing brace

No source that begins with a closing brace can be read (`parse_closingBrace`). The grammar has
closing braces behind opening ones only, and so has its table: neither the tokens with which a
phrase can begin nor those that can follow a phrase in front of which nothing stands include one
(`firsts_bar`, `openings_bar`). In the state in which a source begins, a closing brace is not
welcome, and no other token can be read there.
-/

set_option autoImplicit false

namespace Hygiene.Python

open Hygiene.Python.Symbol Hygiene.Python.Shape

/-- Whether a set of tokens has none that closes anything. -/
def Bars (tokens : List Token) (set : Nat) : Prop :=
  ∀ number token, tokens[number]? = some token → token.closes = true → set.testBit number = false

/-- Whether a numbered symbol is no token that closes anything. -/
def Code.Bars (tokens : List Token) : Code → Prop
  | .token number => ∀ token, tokens[number]? = some token → token.closes = false
  | .head _ => True

namespace Bars

variable {tokens : List Token}

theorem zero : Bars tokens 0 :=
  fun number _ _ _ => Nat.zero_testBit number

theorem or {first second : Nat} (left : Bars tokens first) (right : Bars tokens second) :
    Bars tokens (first ||| second) := by
  intro number token known closes
  rw [Nat.testBit_or, left number token known closes, right number token known closes]
  rfl

theorem single {number : Nat} (code : (Code.token number).Bars tokens) :
    Bars tokens (Table.single number) := by
  intro other token known closes
  rw [Table.single, Nat.one_shiftLeft, Nat.testBit_two_pow, decide_eq_false_iff_not]
  rintro rfl
  rw [code token known] at closes
  cases closes

end Bars

/-! ## Numbered productions -/

theorem Code.bars_code {tokens : List Token} {heads : List Symbol} {symbol : Symbol}
    (opens : symbol.closes = false) : (Table.code tokens heads symbol).Bars tokens := by
  cases symbol with
  | token found =>
    intro token known
    rw [eq_of_getElem_idxOf known]
    exact opens
  | phrase phrase => trivial
  | group number => trivial

/-- What is known of the first two steps of a production: neither is a token that closes anything,
unless the first one is a token. -/
structure CodedProduction.Bars (tokens : List Token) (coded : CodedProduction) : Prop where
  first : ∀ step, coded.steps[0]? = some step → step.code.Bars tokens
  second : ∀ step head next, coded.steps[0]? = some step → step.code = .head head →
    coded.steps[1]? = some next → next.code.Bars tokens

theorem bars_codeProduction {tokens : List Token} {heads : List Symbol} {head : Nat}
    {production : Production} (all : guarded (symbols production.steps) = true) :
    (Table.codeProduction tokens heads head production).Bars tokens := by
  obtain ⟨steps, weight⟩ := production
  constructor
  · intro step is
    cases steps with
    | nil => simp [Table.codeProduction] at is
    | cons first others =>
      simp only [Table.codeProduction, List.map_cons, List.getElem?_toArray,
        List.getElem?_cons_zero, Option.some.injEq] at is
      subst is
      exact Code.bars_code (closes_of_guarded all)
  · intro step number next is phrase behind
    cases steps with
    | nil => simp [Table.codeProduction] at is
    | cons first others =>
      simp only [Table.codeProduction, List.map_cons, List.getElem?_toArray,
        List.getElem?_cons_zero, Option.some.injEq] at is
      subst is
      have differs : first.symbol ≠ openingBrace := by
        intro same
        rw [same] at phrase
        cases phrase
      have rest := guarded_tail all differs
      cases others with
      | nil => simp [Table.codeProduction] at behind
      | cons second others =>
        simp only [Table.codeProduction, List.map_cons, List.getElem?_toArray,
          List.getElem?_cons_succ, List.getElem?_cons_zero, Option.some.injEq] at behind
        subst behind
        exact Code.bars_code (closes_of_guarded rest)

/-! ## First tokens -/

/-- Whether none of several sets has a token that closes anything. -/
def SetsBar (tokens : List Token) (sets : Array Nat) : Prop :=
  ∀ number, Bars tokens (sets.getD number 0)

namespace SetsBar

variable {tokens : List Token} {sets : Array Nat}

theorem modify (known : SetsBar tokens sets) (number : Nat) {change : Nat → Nat}
    (keeps : ∀ set, Bars tokens set → Bars tokens (change set)) :
    SetsBar tokens (sets.modify number change) := by
  intro other
  have own := known other
  rw [Array.getD_eq_getD_getElem?] at own
  rw [Array.getD_eq_getD_getElem?, Array.getElem?_modify]
  split
  · cases held : sets[other]? with
    | none => exact Bars.zero
    | some set =>
      rw [held] at own
      exact keeps set own
  · exact own

theorem of_mem (known : SetsBar tokens sets) {set : Nat} (member : set ∈ sets) :
    Bars tokens set := by
  obtain ⟨number, held⟩ := Array.mem_iff_getElem?.mp member
  have own := known number
  rw [Array.getD_eq_getD_getElem?, held] at own
  exact own

theorem replicate (size : Nat) : SetsBar tokens (Array.replicate size 0) := by
  intro number
  rw [Array.getD_eq_getD_getElem?, Array.getElem?_replicate]
  split <;> exact Bars.zero

theorem firstOf (known : SetsBar tokens sets) {code : Code} (bars : code.Bars tokens) :
    Bars tokens (Table.firstOf sets code) := by
  cases code with
  | token number => exact Bars.single bars
  | head number => exact known number

end SetsBar

section Coded

variable {tokens : List Token} {productions : Array CodedProduction}
  (all : ∀ coded ∈ productions, coded.Bars tokens)
include all

theorem growFirsts_bar {firsts : Array Nat} (known : SetsBar tokens firsts) :
    SetsBar tokens (Table.growFirsts productions firsts) := by
  rw [Table.growFirsts, ← Array.foldl_toList]
  refine List.foldlRecOn (motive := SetsBar tokens) _ _ known ?_
  intro grown before coded member
  have bars := all coded (Array.mem_toList_iff.mp member)
  cases is : coded.steps[0]? with
  | none => exact before
  | some step =>
    exact before.modify coded.head fun set own => own.or (before.firstOf (bars.first step is))

/-- No head begins with a token that closes anything. -/
theorem computeFirsts_bar (bound : Nat) {firsts : Array Nat} (known : SetsBar tokens firsts) :
    SetsBar tokens (Table.computeFirsts productions bound firsts) := by
  induction bound generalizing firsts with
  | zero => exact known
  | succ bound ih =>
    rw [Table.computeFirsts]
    split
    · exact known
    · exact ih (growFirsts_bar all known)

/-! ## Openings -/

/-- The tokens that can follow what is under way close nothing. -/
def UnderwayBars (tokens : List Token) (underway : Table.Underway) : Prop :=
  ∀ production follow inherits, underway.getD production none = some (follow, inherits) →
    Bars tokens follow

omit all in
theorem UnderwayBars.set {underway : Table.Underway} (known : UnderwayBars tokens underway)
    {follow : Nat} (bars : Bars tokens follow) (production : Nat) (inherits : Bool) :
    UnderwayBars tokens (underway.setIfInBounds production (some (follow, inherits))) := by
  intro other also inherited found
  rw [Array.getD_eq_getD_getElem?, Array.getElem?_setIfInBounds] at found
  split at found
  · split at found
    · cases found
      exact bars
    · cases found
  · exact known other also inherited (by rw [Array.getD_eq_getD_getElem?]; exact found)

omit all in
theorem addOpenings_bar (byHead : Array (List Nat)) (head : Nat) (inherits : Bool)
    (pending : List Nat) {follow : Nat} {underway : Table.Underway} (bars : Bars tokens follow)
    (known : UnderwayBars tokens underway) :
    UnderwayBars tokens
      (Table.addOpenings byHead head follow inherits underway pending).1 := by
  rw [Table.addOpenings]
  refine List.foldlRecOn
    (motive := fun reached : Table.Underway × List Nat => UnderwayBars tokens reached.1)
    _ _ known ?_
  rintro ⟨underway, pending⟩ before production -
  dsimp only
  cases held : underway.getD production none with
  | none => exact before.set bars production inherits
  | some entry =>
    obtain ⟨own, inherited⟩ := entry
    dsimp only
    split
    · exact before
    · exact before.set ((before production own inherited held).or bars) production _

omit all in
/-- What stays true whenever the head that a production begins with goes under way stays true of all
that is under way. -/
theorem spread_induction {byHead : Array (List Nat)} {firsts : Array Nat}
    {motive : Table.Underway → Prop}
    (step : ∀ {underway : Table.Underway} {number : Nat} {coded : CodedProduction}
      {follow head : Nat} {inherits : Bool} (pending : List Nat), motive underway →
        underway.getD number none = some (follow, inherits) → productions[number]? = some coded →
        coded.steps[0]?.map CodedStep.code = some (.head head) →
        (∀ next, coded.steps[1]? = some next → motive (Table.addOpenings byHead head
          (Table.firstOf firsts next.code) false underway pending).1) ∧
        motive (Table.addOpenings byHead head follow inherits underway pending).1)
    (bound : Nat) (pending : List Nat) {underway : Table.Underway} (known : motive underway) :
    motive (Table.spread productions byHead firsts bound underway pending) := by
  fun_induction Table.spread productions byHead firsts bound underway pending with
  | case1 => exact known
  | case2 => exact known
  | case3 bound underway production pending coded follow inherits held listed head next behind
      phrase reached waiting added ih =>
    have grown := (step pending known held listed phrase).1 next behind
    rw [added] at grown
    exact ih grown
  | case4 bound underway production pending coded follow inherits held listed head alone
      phrase reached waiting added ih =>
    have grown := (step pending known held listed phrase).2
    rw [added] at grown
    exact ih grown
  | case5 bound underway production pending coded follow inherits held listed no none ih =>
    exact ih known
  | case6 bound underway production pending none ih => exact ih known

theorem spread_bar (byHead : Array (List Nat)) {firsts : Array Nat}
    (begins : SetsBar tokens firsts) (bound : Nat) (pending : List Nat)
    {underway : Table.Underway} (known : UnderwayBars tokens underway) :
    UnderwayBars tokens (Table.spread productions byHead firsts bound underway pending) := by
  refine spread_induction (fun pending known held listed phrase => ⟨fun next behind => ?_, ?_⟩)
    bound pending known
  · obtain ⟨step, is, named⟩ := Option.map_eq_some_iff.mp phrase
    have bars := (all _ (Array.mem_of_getElem? listed)).second step _ next is named behind
    exact addOpenings_bar byHead _ false pending (begins.firstOf bars) known
  · exact addOpenings_bar byHead _ _ pending (known _ _ _ held) known

/-- What is under way where a head is expected is followed by nothing that closes anything, if it
does not end where the head ends. -/
theorem openingsOf_bar {byHead : Array (List Nat)} {firsts : Array Nat}
    (begins : SetsBar tokens firsts) (head : Nat) :
    ∀ opening ∈ Table.openingsOf productions byHead firsts head, Bars tokens opening.follow := by
  intro opening member
  have blank : UnderwayBars tokens (Array.replicate productions.size none) := by
    intro production follow inherits found
    rw [Array.getD_eq_getD_getElem?, Array.getElem?_replicate] at found
    split at found <;> cases found
  have known := spread_bar all byHead begins (64 * productions.size)
    (Table.addOpenings byHead head 0 true (Array.replicate productions.size none) []).2
    (addOpenings_bar byHead head true [] Bars.zero blank)
  obtain ⟨production, -, found⟩ := List.mem_filterMap.mp member
  obtain ⟨⟨follow, inherits⟩, held, rfl⟩ := Option.map_eq_some_iff.mp found
  exact known production follow inherits held

end Coded

/-! ## The table -/

/-- What is known of a table of a grammar in which closing braces stand behind opening ones. -/
structure Table.Bars (table : Table) : Prop where
  productions : ∀ coded ∈ table.productions, coded.Bars table.tokens.toList
  firsts : SetsBar table.tokens.toList table.firsts
  openings : ∀ head, ∀ opening ∈ table.openings.getD head [],
    Python.Bars table.tokens.toList opening.follow

theorem Table.build_bars (heads : List Symbol) {productions : List (List Production)}
    (all : ∀ own ∈ productions, ∀ production ∈ own,
      guarded (symbols production.steps) = true) :
    (build heads productions).Bars := by
  have coded : ∀ coded ∈ (build heads productions).productions,
      coded.Bars (grammarTokens productions) := by
    intro coded member
    rw [build] at member
    simp only [List.mem_toArray, List.mem_append, List.mem_flatMap, List.mem_map,
      List.mem_singleton] at member
    rcases member with ⟨entry, listed, production, inside, rfl⟩ | rfl
    · have own : entry.1 ∈ productions := by
        have found := List.mem_zipIdx_iff_getElem?.mp listed
        exact List.mem_of_getElem? found
      exact bars_codeProduction (all entry.1 own production inside)
    · constructor
      · intro step is
        cases is
        trivial
      · intro step head next _ _ behind
        cases behind
  have firsts : SetsBar (grammarTokens productions) (build heads productions).firsts :=
    computeFirsts_bar coded _ (.replicate _)
  refine ⟨coded, firsts, fun head opening member => ?_⟩
  rw [Array.getD_eq_getD_getElem?] at member
  cases held : (build heads productions).openings[head]? with
  | none =>
    rw [held] at member
    cases member
  | some openings =>
    rw [held] at member
    have listed := Array.mem_of_getElem? held
    rw [build] at listed
    simp only [List.mem_toArray, List.mem_map] at listed
    obtain ⟨number, -, rfl⟩ := listed
    exact openingsOf_bar coded firsts number opening member

/-! ## States -/

namespace Table

variable {table : Table} (bars : table.Bars)
include bars

theorem productionOf_bars (item : Item) :
    (table.productionOf item).Bars table.tokens.toList := by
  rw [productionOf, Array.getD_eq_getD_getElem?]
  cases held : table.productions[item.production]? with
  | none =>
    constructor
    · intro step is
      cases is
    · intro step head next _ _ behind
      cases behind
  | some coded => exact bars.productions coded (Array.mem_of_getElem? held)

/-- An item of which nothing is read. -/
structure Fresh (table : Table) (item : Item) : Prop where
  dot : item.dot = 0
  follow : Python.Bars table.tokens.toList item.follow

theorem followOfNext_bar {item : Item} (fresh : table.Fresh item) {head : Nat}
    (is : table.next? item = some (.head head)) :
    Python.Bars table.tokens.toList (table.followOfNext item) := by
  obtain ⟨step, found, code⟩ := Option.map_eq_some_iff.mp is
  rw [nextStep?, fresh.dot] at found
  rw [followOfNext, fresh.dot]
  cases behind : (table.productionOf item).steps[0 + 1]? with
  | none => exact fresh.follow
  | some next =>
    exact bars.firsts.firstOf
      ((productionOf_bars bars item).second step head next found code behind)

theorem addItemOpenings_bar {found : Array Nat} {item : Item} (fresh : table.Fresh item)
    (known : SetsBar table.tokens.toList found) :
    SetsBar table.tokens.toList (table.addItemOpenings found item) := by
  rw [addItemOpenings]
  split
  · rename_i head is
    refine List.foldlRecOn (motive := SetsBar table.tokens.toList) _ _ known ?_
    intro reached before opening member
    refine before.modify opening.production fun set own => ?_
    refine (own.or (bars.openings head opening member)).or ?_
    split
    · exact followOfNext_bar bars fresh is
    · exact Bars.zero
  · exact known

/-- Of all that is under way in a state nothing is read, if that is so of what the state was made
for. -/
theorem close_fresh {kernel : List Item} (fresh : ∀ item ∈ kernel, table.Fresh item) :
    ∀ item ∈ (table.close kernel).items, table.Fresh item := by
  have opened : ∀ opening ∈ (table.close kernel).openings,
      Python.Bars table.tokens.toList opening.2 := by
    rw [close]
    split
    · exact nofun
    · have known : SetsBar table.tokens.toList
          (kernel.foldl table.addItemOpenings (Array.replicate table.productions.size 0)) :=
        List.foldlRecOn (motive := SetsBar table.tokens.toList) _ _ (.replicate _)
          fun _ before item member => addItemOpenings_bar bars (fresh item member) before
      dsimp only
      rw [← Array.foldr_toList]
      refine List.foldrRecOn
        (motive := fun reached : Nat × List (Nat × Nat) =>
          ∀ opening ∈ reached.2, Python.Bars table.tokens.toList opening.2)
        _ _ nofun ?_
      rintro ⟨number, openings⟩ before follow member
      dsimp only
      split
      · exact before
      · rw [List.forall_mem_cons]
        exact ⟨known.of_mem (Array.mem_toList_iff.mp member), before⟩
  have same : (table.close kernel).kernel = kernel := by
    rw [close]
    split <;> rfl
  intro item member
  rcases List.mem_append.mp member with inside | inside
  · exact fresh item (same ▸ inside)
  · obtain ⟨opening, listed, rfl⟩ := List.mem_map.mp inside
    exact ⟨rfl, opened opening listed⟩

/-- In a state that has read nothing, nothing that closes anything is welcome. -/
theorem welcome_bar {state : State} (fresh : ∀ item ∈ state.items, table.Fresh item) :
    Python.Bars table.tokens.toList (table.welcome state) := by
  rw [welcome]
  refine List.foldlRecOn (motive := Python.Bars table.tokens.toList) _ _ Bars.zero ?_
  intro reached before item member
  have new := fresh item member
  split
  · rename_i number is
    refine before.or (Bars.single ?_)
    obtain ⟨step, found, code⟩ := Option.map_eq_some_iff.mp is
    rw [nextStep?, new.dot] at found
    rw [← code]
    exact (productionOf_bars bars item).first step found
  · exact before
  · exact before.or new.follow

/-- Where a source begins nothing that closes anything is welcome. -/
theorem welcomeTokens_start (last : table.tokens.toList.getLast? = some .endOfSource) :
    ∀ token ∈ Reading.welcomeTokens table table.start, token.closes = false := by
  have fresh : ∀ item ∈ table.start.items, table.Fresh item := by
    refine close_fresh bars fun item only => ?_
    rw [List.mem_singleton.mp only]
    refine ⟨rfl, Bars.single fun token known => ?_⟩
    rw [List.getLast?_eq_getElem?] at last
    have same := known.symm.trans last
    cases same
    rfl
  intro token member
  obtain ⟨⟨_, number⟩, listed, rfl⟩ := List.mem_map.mp member
  obtain ⟨inside, welcome⟩ := List.mem_filter.mp listed
  have known := List.mem_zipIdx_iff_getElem?.mp inside
  by_contra closes
  rw [Bool.not_eq_false] at closes
  have barred := welcome_bar bars fresh number _ known closes
  dsimp only at welcome closes
  rw [barred] at welcome
  simp only [Bool.false_or, Bool.or_eq_true, decide_eq_true_eq] at welcome
  rcases welcome with rfl | rfl <;> cases closes

end Table

/-! ## Reading -/

namespace Lexeme

/-- A token that does not close anything is not read off a closing brace. -/
theorem length_closingBrace {token : Token} (opens : token.closes = false) (afterBlanks : Bool)
    (rest : Text) : length? token afterBlanks ('\x7d' :: rest) = none := by
  cases token with
  | mark spelling =>
    rw [Token.closes] at opens
    rw [length?]
    cases spelled : spelling.toList with
    | nil =>
      rw [spelled] at opens
      cases opens
    | cons c others =>
      rw [spelled] at opens
      have differs : (c == '\x7d') = false := beq_eq_false_iff_ne.mpr (of_decide_eq_false opens)
      rw [List.isPrefixOf_cons_cons, differs, Bool.false_and, Bool.and_false]
      rfl
  | loneBackslash => cases afterBlanks <;> rfl
  | escapeSequence => cases afterBlanks <;> rfl
  | _ => rfl

theorem token_closingBrace {welcome : List Token} (all : ∀ token ∈ welcome, token.closes = false)
    {place : Place} {rest : Text} (brace : place.rest = '\x7d' :: rest) :
    token? welcome place = none := by
  have here : runLength isSeparator place.rest = 0 := by
    rw [brace]
    rfl
  have word : word? welcome place.rest = none := by
    rw [brace, word?]
    split
    · rfl
    · rfl
  rw [token?, here]
  dsimp only [Place.skip]
  rw [word, Option.map_eq_none_iff]
  refine List.foldlRecOn (motive := fun best : Option (Token × Nat) => best = none) _ _ rfl ?_
  intro best before token member
  rw [before, brace, length_closingBrace (all token member)]

end Lexeme

namespace Layout

theorem passGap_closingBrace (commentsCount : Bool) (gap : Gap) (rest : Text) :
    passGap commentsCount false gap ('\x7d' :: rest) = some gap := by
  simp [passGap]

/-- The layout has no token in front of a closing brace where a source begins. -/
theorem token_closingBrace (welcome : LayoutWelcome) {place : Place} {rest : Text}
    (brace : place.rest = '\x7d' :: rest) : start.token? welcome place = none := by
  have quotes : openingQuotes? place.rest = none := by
    rw [brace]
    rfl
  change start.betweenTokens? welcome place = none
  rw [betweenTokens?, brace, passGap_closingBrace]
  change start.openString? welcome _ place = none
  rw [openString?, quotes]
  split <;> rfl

end Layout

namespace Reading

variable {table : Table} (bars : table.Bars)
  (last : table.tokens.toList.getLast? = some .endOfSource)

include bars last in
/-- A reading does not begin with a closing brace. -/
theorem nextToken_closingBrace (rest : Text) :
    nextToken? table ⟨[], .start ('\x7d' :: rest), .start⟩ = none := by
  have place : afterMark (Place.start ('\x7d' :: rest)) = Place.start ('\x7d' :: rest) := rfl
  rw [nextToken?]
  dsimp only
  rw [place, Layout.token_closingBrace _ rfl]
  dsimp only
  rw [Option.map_eq_none_iff]
  exact Lexeme.token_closingBrace (Table.welcomeTokens_start bars last) rfl

omit bars in
theorem run_nil (bound : Nat) (whole : List (List Frame)) : run table bound [] whole = whole := by
  cases bound <;> rfl

include bars last in
theorem parts_closingBrace (rest : Text) : parts? table ('\x7d' :: rest) = none := by
  have bound : 64 * (('\x7d' :: rest).length + 16) = 64 * (rest.length + 16) + 63 + 1 := by
    rw [List.length_cons]
    omega
  have stopped : step table ⟨[], .start ('\x7d' :: rest), .start⟩ = ([], []) := by
    rw [step, nextToken_closingBrace bars last]
  rw [parts?, bound, run, pickEarliest, pickEarliest]
  dsimp only
  rw [stopped]
  dsimp only [List.foldl_nil, List.append_nil]
  rw [run_nil]
  rfl

end Reading

/-! ## The grammar -/

theorem grammarTable_bars : grammarTable.Bars := by
  refine Table.build_bars _ fun own member production inside => ?_
  obtain ⟨head, -, rfl⟩ := List.mem_map.mp member
  exact Grammar.productions_guarded inside

theorem Table.build_last (heads : List Symbol) (productions : List (List Production)) :
    (build heads productions).tokens.toList.getLast? = some .endOfSource := by
  change (grammarTokens productions).getLast? = some .endOfSource
  rw [grammarTokens, List.getLast?_append]
  rfl

/-- **No source that begins with a closing brace can be read.** -/
theorem parse_closingBrace (rest : Text) :
    ∃ line, parse ('\x7d' :: rest) = .error line := by
  rw [parse, Reading.parts_closingBrace grammarTable_bars (Table.build_last _ _)]
  exact ⟨_, rfl⟩

end Hygiene.Python
