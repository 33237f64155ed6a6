import Hygiene.Proofs.Python.Beginnings
import Hygiene.Proofs.Python.ClosingBrace

/-!
# What is under way where a source begins

Where a whole source is expected the productions of its symbol go under way, and with each of them
those of the symbol that it begins with. No production begins with the cases of a `match`, so theirs
do not go under way (`Table.Calm`), and the others begin neither with the end of a line nor with
deeper indentation. The production of a whole source without parts is put under way once. Since
nothing begins with a whole source, no other symbol brings it up again, and it waits for the end of
the source alone (`openingsOf_early`).

This is what the table of the grammar needs so that sources without code can be read by it
(`grammarTable_takesBlank`).
-/

set_option autoImplicit false

namespace Hygiene.Python

namespace Table

/-! ## Putting productions under way -/

/-- What is known of a production when it is put under way once more. -/
def joined (follow : Nat) (inherits : Bool) : Option (Nat × Bool) → Nat × Bool
  | none => (follow, inherits)
  | some (known, knownInherits) => (known ||| follow, knownInherits || inherits)

/-- One production put under way, as `addOpenings` does with each production of a head. -/
def putUnderway (follow : Nat) (inherits : Bool) (reached : Underway × List Nat)
    (number : Nat) : Underway × List Nat :=
  match reached.1.getD number none with
  | none => (reached.1.setIfInBounds number (some (follow, inherits)), number :: reached.2)
  | some (known, knownInherits) =>
    let merged := (known ||| follow, knownInherits || inherits)
    if merged = (known, knownInherits) then reached
    else (reached.1.setIfInBounds number (some merged), number :: reached.2)

theorem addOpenings_eq_foldl (byHead : Array (List Nat)) (head follow : Nat) (inherits : Bool)
    (underway : Underway) (pending : List Nat) :
    addOpenings byHead head follow inherits underway pending =
      (byHead.getD head []).foldl (putUnderway follow inherits) (underway, pending) :=
  rfl

variable (follow : Nat) (inherits : Bool)

theorem size_putUnderway (reached : Underway × List Nat) (number : Nat) :
    (putUnderway follow inherits reached number).1.size = reached.1.size := by
  rw [putUnderway]
  split
  · exact Array.size_setIfInBounds
  · dsimp only
    split
    · rfl
    · exact Array.size_setIfInBounds

theorem getD_putUnderway_of_ne (reached : Underway × List Nat) {number other : Nat}
    (apart : number ≠ other) :
    (putUnderway follow inherits reached number).1.getD other none =
      reached.1.getD other none := by
  have kept (entry : Option (Nat × Bool)) :
      (reached.1.setIfInBounds number entry).getD other none = reached.1.getD other none := by
    rw [Array.getD_eq_getD_getElem?, Array.getD_eq_getD_getElem?,
      Array.getElem?_setIfInBounds_ne apart]
  rw [putUnderway]
  split
  · exact kept _
  · dsimp only
    split
    · rfl
    · exact kept _

theorem getD_putUnderway_self (reached : Underway × List Nat) {number : Nat}
    (inside : number < reached.1.size) :
    (putUnderway follow inherits reached number).1.getD number none =
      some (joined follow inherits (reached.1.getD number none)) := by
  have written (entry : Option (Nat × Bool)) :
      (reached.1.setIfInBounds number entry).getD number none = entry := by
    rw [Array.getD_eq_getD_getElem?, Array.getElem?_setIfInBounds_self_of_lt inside]
    rfl
  rw [putUnderway]
  cases held : reached.1.getD number none with
  | none => exact written _
  | some entry =>
    dsimp only
    by_cases same : (entry.1 ||| follow, entry.2 || inherits) = entry
    · rw [if_pos same, held, joined, same]
    · rw [if_neg same]
      exact written _

variable (byHead : Array (List Nat)) (head : Nat) (underway : Underway) (pending : List Nat)

/-- Of a production of another head nothing is learnt. -/
theorem getD_addOpenings_of_not_mem {number : Nat} (apart : number ∉ byHead.getD head []) :
    (addOpenings byHead head follow inherits underway pending).1.getD number none =
      underway.getD number none := by
  rw [addOpenings_eq_foldl]
  refine List.foldlRecOn
    (motive := fun reached : Underway × List Nat =>
      reached.1.getD number none = underway.getD number none) _ _ rfl ?_
  intro reached before other member
  have differs : other ≠ number := by
    rintro rfl
    exact apart member
  rw [getD_putUnderway_of_ne follow inherits reached differs, before]

/-- Once an entry says no more than that its production waits for what its head waits for, it
stays so. -/
theorem getD_foldl_putUnderway {number : Nat} (numbers : List Nat)
    {reached : Underway × List Nat} (inside : number < reached.1.size)
    (known : reached.1.getD number none = some (0, true) ∨
      (reached.1.getD number none = none ∧ number ∈ numbers)) :
    (numbers.foldl (putUnderway 0 true) reached).1.getD number none = some (0, true) := by
  induction numbers generalizing reached with
  | nil => exact known.resolve_right fun both => List.not_mem_nil both.2
  | cons other others ih =>
    rw [List.foldl_cons]
    refine ih (by rwa [size_putUnderway]) ?_
    by_cases same : other = number
    · subst same
      -- Either it is there for the first time, or it is joined with what is known already.
      left
      rw [getD_putUnderway_self 0 true reached inside]
      rcases known with held | ⟨held, -⟩ <;> rw [held] <;> rfl
    · rw [getD_putUnderway_of_ne 0 true reached same]
      exact known.imp_right fun both =>
        ⟨both.1, (List.mem_cons.mp both.2).resolve_left (Ne.symm same)⟩

/-- Of a production that is put under way for the first time it is known that it waits for what
its head waits for. -/
theorem getD_addOpenings_first {number : Nat} (listed : number ∈ byHead.getD head [])
    (inside : number < underway.size) (first : underway.getD number none = none) :
    (addOpenings byHead head 0 true underway pending).1.getD number none = some (0, true) :=
  getD_foldl_putUnderway _ inside (.inr ⟨first, listed⟩)

/-! ## Following the first steps -/

/-- What is under way where a source begins: calm productions only, and the one without parts waits
for what the whole source waits for. -/
structure Early (calm : Nat → Prop) (blank : Nat) (underway : Underway) : Prop where
  calm : ∀ number entry, underway.getD number none = some entry → calm number
  blank : underway.getD blank none = some (0, true)

/-- What is known of numbered productions: those of a whole source are calm, and what a calm one
begins with brings up calm ones, but not the one without parts. -/
structure Calms (productions : Array CodedProduction) (byHead : Array (List Nat))
    (calm : Nat → Prop) (blank : Nat) : Prop where
  source : ∀ number ∈ byHead.getD 0 [], calm number
  first : ∀ number coded head, calm number → productions[number]? = some coded →
    coded.steps[0]?.map CodedStep.code = some (.head head) →
      ∀ opened ∈ byHead.getD head [], calm opened ∧ opened ≠ blank
  listed : blank ∈ byHead.getD 0 []
  inside : blank < productions.size

section Opened

variable {productions : Array CodedProduction} {byHead : Array (List Nat)} {calm : Nat → Prop}
  {blank : Nat} (calms : Calms productions byHead calm blank)

theorem Early.addOpenings {underway : Underway} (known : Early calm blank underway) {head : Nat}
    (opened : ∀ number ∈ byHead.getD head [], calm number ∧ number ≠ blank) (follow : Nat)
    (inherits : Bool) (pending : List Nat) :
    Early calm blank (addOpenings byHead head follow inherits underway pending).1 where
  calm number entry found := by
    by_cases member : number ∈ byHead.getD head []
    · exact (opened number member).1
    · rw [getD_addOpenings_of_not_mem follow inherits byHead head underway pending member] at found
      exact known.calm number entry found
  blank := by
    rw [getD_addOpenings_of_not_mem follow inherits byHead head underway pending, known.blank]
    exact fun member => (opened blank member).2 rfl

include calms

theorem early_start : Early calm blank
    (addOpenings byHead 0 0 true (Array.replicate productions.size none) []).1 where
  calm number entry found := by
    by_cases member : number ∈ byHead.getD 0 []
    · exact calms.source number member
    · rw [getD_addOpenings_of_not_mem 0 true byHead 0 _ [] member, Array.getD_eq_getD_getElem?,
        Array.getElem?_replicate] at found
      split at found <;> cases found
  blank := by
    refine getD_addOpenings_first byHead 0 _ [] calms.listed ?_ ?_
    · rw [Array.size_replicate]
      exact calms.inside
    · rw [Array.getD_eq_getD_getElem?, Array.getElem?_replicate]
      split <;> rfl

theorem early_spread (firsts : Array Nat) (bound : Nat) (pending : List Nat)
    {underway : Underway} (known : Early calm blank underway) :
    Early calm blank (spread productions byHead firsts bound underway pending) := by
  refine spread_induction (fun pending known held listed phrase => ?_) bound pending known
  have quiet := calms.first _ _ _ (known.calm _ _ held) listed phrase
  exact ⟨fun next _ => known.addOpenings quiet _ false pending,
    known.addOpenings quiet _ _ pending⟩

/-- **Where a whole source is expected** only calm productions are under way, and the one without
parts is, which waits for what the whole source waits for and for nothing else. -/
theorem openingsOf_early (firsts : Array Nat) :
    (∀ opening ∈ openingsOf productions byHead firsts 0, calm opening.production ∧
      (opening.production = blank → opening.follow = 0 ∧ opening.inherits = true)) ∧
    ∃ opening ∈ openingsOf productions byHead firsts 0, opening.production = blank := by
  have early := early_spread calms firsts (64 * productions.size)
    (Table.addOpenings byHead 0 0 true (Array.replicate productions.size none) []).2
    (early_start calms)
  constructor
  · intro opening member
    obtain ⟨production, -, found⟩ := List.mem_filterMap.mp member
    obtain ⟨⟨follow, inherits⟩, held, rfl⟩ := Option.map_eq_some_iff.mp found
    refine ⟨early.calm production _ held, ?_⟩
    rintro rfl
    have same := held.symm.trans early.blank
    rw [Option.some.injEq, Prod.mk.injEq] at same
    exact same
  · refine ⟨⟨blank, 0, true⟩, List.mem_filterMap.mpr ⟨blank, ?_, ?_⟩, rfl⟩
    · exact List.mem_range.mpr calms.inside
    · exact Option.map_eq_some_iff.mpr ⟨(0, true), early.blank, rfl⟩

end Opened

/-! ## Productions by their heads -/

/-- The numbers of productions by their heads, as `build` lists them. -/
def numbersByHead (coded : Array CodedProduction) (size : Nat) : Array (List Nat) :=
  coded.zipIdx.foldr
    (fun entry byHead => byHead.modify entry.1.head fun numbers => entry.2 :: numbers)
    (Array.replicate size [])

/-- A production stands among those of its head. -/
theorem mem_foldr_modify (entries : List (CodedProduction × Nat)) {size head number : Nat} :
    number ∈ (entries.foldr
        (fun entry byHead => byHead.modify entry.1.head fun numbers => entry.2 :: numbers)
        (Array.replicate size [])).getD head [] ↔
      head < size ∧ ∃ entry ∈ entries, entry.1.head = head ∧ entry.2 = number := by
  have same (entries : List (CodedProduction × Nat)) :
      (entries.foldr
        (fun entry byHead => byHead.modify entry.1.head fun numbers => entry.2 :: numbers)
        (Array.replicate size [])).size = size := by
    induction entries with
    | nil => exact Array.size_replicate
    | cons entry others ih => rw [List.foldr_cons, Array.size_modify, ih]
  induction entries with
  | nil =>
    simp only [List.foldr_nil, Array.getD_eq_getD_getElem?, Array.getElem?_replicate]
    split <;> simp
  | cons entry others ih =>
    rw [Array.getD_eq_getD_getElem?] at ih ⊢
    rw [List.foldr_cons, Array.getElem?_modify]
    split
    · rename_i own
      subst own
      cases held : (others.foldr
        (fun entry byHead => byHead.modify entry.1.head fun numbers => entry.2 :: numbers)
        (Array.replicate size []))[entry.1.head]? with
      | none =>
        have outside : size ≤ entry.1.head := by
          rw [← same others]
          exact Array.getElem?_eq_none_iff.mp held
        simp [Nat.not_lt.mpr outside]
      | some numbers =>
        have inside : entry.1.head < size := by
          rw [← same others]
          exact (Array.getElem?_eq_some_iff.mp held).1
        rw [held, Option.getD_some] at ih
        rw [List.exists_mem_cons_iff, Option.map_some, Option.getD_some, List.mem_cons]
        simp only [ih, inside, true_and, eq_comm]
    · rename_i other
      refine ih.trans ?_
      simp [other]

theorem mem_numbersByHead (coded : Array CodedProduction) {size head number : Nat} :
    number ∈ (numbersByHead coded size).getD head [] ↔
      head < size ∧ ∃ production, coded[number]? = some production ∧ production.head = head := by
  rw [numbersByHead, ← Array.foldr_toList, mem_foldr_modify, Array.toList_zipIdx]
  refine and_congr_right fun inside => ⟨?_, ?_⟩
  · rintro ⟨entry, member, own, rfl⟩
    have listed := List.mem_zipIdx_iff_getElem?.mp member
    rw [Array.getElem?_toList] at listed
    exact ⟨entry.1, listed, own⟩
  · rintro ⟨production, listed, own⟩
    refine ⟨(production, number), List.mem_zipIdx_iff_getElem?.mpr ?_, own, rfl⟩
    rwa [Array.getElem?_toList]

end Table

/-! ## What is known of a table -/

/-- The symbols with which nothing begins that is under way where a source begins. -/
def Grammar.barred : List Symbol :=
  [.phrase .source, .token .endOfSource, .phrase .matchBlock, .token .newline, .token .indent]

theorem Grammar.not_mem_barred {head first : Symbol} (begins : mayBegin head (some first) = true)
    (differs : head ≠ .phrase .matchBlock) : first ∉ barred := by
  simp only [mayBegin, Bool.and_eq_true, Bool.or_eq_true, decide_eq_true_eq, differs,
    false_or] at begins
  simp [barred, begins]

namespace Table

/-- A production that can be under way where a source begins: one of a symbol other than the cases
of a `match`. -/
def Calm (table : Table) (number : Nat) : Prop :=
  ∃ coded head, table.productions[number]? = some coded ∧
    table.symbol? (.head coded.head) = some head ∧ head ≠ .phrase .matchBlock

/-- The number of the production that makes up a whole source. -/
def wholeNumber (table : Table) : Nat :=
  table.productions.size - 1

/-- What is known of a table by which sources without code can be read, and of the number of its
production of a whole source without parts. -/
structure TakesBlank (table : Table) (blank : Nat) : Prop where
  source : table.symbol? (.head 0) = some (.phrase .source)
  last : ∃ others, table.tokens.toList = others ++ [.endOfSource] ∧ .endOfSource ∉ others
  whole : ∃ coded, table.productions[table.wholeNumber]? = some coded ∧
    coded.steps.size = 1 ∧ coded.steps[0]?.map CodedStep.code = some (.head 0)
  empty : ∃ coded, table.productions[blank]? = some coded ∧ coded.head = 0 ∧ coded.steps = #[]
  filled : ∀ number coded, table.productions[number]? = some coded → coded.steps = #[] →
    number = blank
  begins : ∀ number coded code, table.Calm number → table.productions[number]? = some coded →
    coded.steps[0]?.map CodedStep.code = some code →
      ∀ symbol, table.symbol? code = some symbol → symbol ∉ Grammar.barred
  opened : ∀ opening ∈ table.openings.getD 0 [], table.Calm opening.production ∧
    (opening.production = blank → opening.follow = 0 ∧ opening.inherits = true)
  opensBlank : ∃ opening ∈ table.openings.getD 0 [], opening.production = blank

section Build

variable (heads : List Symbol) (productions : List (List Production))

/-- The last production of a table makes up a whole source. -/
theorem build_whole :
    (build heads productions).productions[(build heads productions).wholeNumber]? =
      some ⟨heads.length, #[⟨.head 0, 0, none, none, none⟩], 0⟩ := by
  rw [wholeNumber, build]
  simp only [List.size_toArray, List.length_append, List.length_singleton, Nat.add_sub_cancel,
    List.getElem?_toArray, List.getElem?_concat_length]

/-- The head of the last production has no symbol, so the last production is not calm. -/
theorem build_whole_not_calm :
    ¬ (build heads productions).Calm (build heads productions).wholeNumber := by
  rintro ⟨coded, head, listed, known, -⟩
  rw [build_whole, Option.some.injEq] at listed
  subst listed
  change heads.toArray[heads.length]? = some head at known
  rw [List.getElem?_toArray, List.getElem?_length] at known
  cases known

variable {productions} {full blank : Production} {others : List (List Production)}
  (source : productions = [full, blank] :: others)
include source

theorem build_blank (empty : blank.steps = []) :
    ∃ coded, (build heads productions).productions[1]? = some coded ∧ coded.head = 0 ∧
      coded.steps = #[] := by
  subst source
  refine ⟨codeProduction (grammarTokens ([full, blank] :: others)) heads 0 blank, rfl, rfl, ?_⟩
  simp [codeProduction, empty]

/-- When no production but the second one is without steps, the same is so of the numbered
ones. -/
theorem build_filled (filled : full.steps ≠ [])
    (rest : ∀ own ∈ others, ∀ production ∈ own, production.steps ≠ []) {number : Nat}
    {coded : CodedProduction} (listed : (build heads productions).productions[number]? = some coded)
    (none : coded.steps = #[]) : number = 1 := by
  subst source
  have emptied {head : Nat} {production : Production}
      (none : (codeProduction (grammarTokens ([full, blank] :: others)) heads head
        production).steps = #[]) : production.steps = [] := by
    simpa [codeProduction] using none
  rw [build] at listed
  simp only [List.getElem?_toArray, List.zipIdx_cons, List.flatMap_cons, List.map_cons,
    List.map_nil, List.cons_append, List.nil_append] at listed
  cases number with
  | zero =>
    rw [List.getElem?_cons_zero, Option.some.injEq] at listed
    subst listed
    exact absurd (emptied none) filled
  | succ number =>
    cases number with
    | zero => rfl
    | succ number =>
      rw [List.getElem?_cons_succ, List.getElem?_cons_succ] at listed
      rcases List.mem_append.mp (List.mem_of_getElem? listed) with inside | inside
      · obtain ⟨⟨own, head⟩, entry, inside⟩ := List.mem_flatMap.mp inside
        obtain ⟨production, member, rfl⟩ := List.mem_map.mp inside
        have own := List.fst_mem_of_mem_zipIdx entry
        exact absurd (emptied none) (rest _ own production member)
      · rw [List.mem_singleton.mp inside] at none
        cases none

end Build

/-- The productions under way where a whole source is expected. -/
theorem build_openings {heads : List Symbol} (productions : List (List Production))
    (bound : 0 < heads.length) :
    (build heads productions).openings.getD 0 [] =
      openingsOf (build heads productions).productions
        (numbersByHead (build heads productions).productions heads.length)
        (build heads productions).firsts 0 := by
  rw [Array.getD_eq_getD_getElem?]
  change (((List.range heads.length).map (openingsOf _ _ _)).toArray[0]?).getD [] = _
  rw [List.getElem?_toArray, List.getElem?_map, List.getElem?_range bound]
  rfl

/-- The end of a source is the last token of a grammar, and no other one, if no production holds
it. -/
theorem grammarTokens_last {productions : List (List Production)}
    (endless : ∀ symbol ∈ symbolsOf productions, symbol ≠ .token .endOfSource) :
    ∃ others, grammarTokens productions = others ++ [.endOfSource] ∧ .endOfSource ∉ others := by
  refine ⟨_, (List.append_assoc _ [Token.comment, Token.lineContinuation] _).symm, ?_⟩
  rw [List.mem_append, List.mem_eraseDups, List.mem_filterMap]
  rintro (⟨symbol, member, is⟩ | aside)
  · split at is
    · exact endless _ member (congrArg Symbol.token (Option.some.inj is))
    · cases is
  · exact absurd aside (by decide)

section Grammar

variable {heads : List Symbol}

/-- A calm production of a grammar begins with no barred symbol, if its symbols begin as they
may. -/
theorem build_begins
    (begins : ∀ head ∈ heads, ∀ beginning ∈ Grammar.beginningsOf head,
      Grammar.mayBegin head beginning = true)
    {number : Nat} {coded : CodedProduction} {code : Code}
    (calm : (build heads (heads.map Grammar.productions)).Calm number)
    (listed : (build heads (heads.map Grammar.productions)).productions[number]? = some coded)
    (first : coded.steps[0]?.map CodedStep.code = some code) {symbol : Symbol}
    (known : (build heads (heads.map Grammar.productions)).symbol? code = some symbol) :
    symbol ∉ Grammar.barred := by
  -- The last production is not of the grammar. It is not calm, as its head has no symbol.
  have inner : number + 1 ≠ (build heads (heads.map Grammar.productions)).productions.size := by
    intro last
    refine build_whole_not_calm heads (heads.map Grammar.productions) ?_
    rwa [wholeNumber, ← last, Nat.add_sub_cancel]
  obtain ⟨own, production, entry, member, is⟩ := mem_of_build inner listed
  obtain ⟨same, head, found, name, differs⟩ := calm
  rw [listed, Option.some.injEq] at found
  subst found
  have named : heads[coded.head]? = some head := (List.getElem?_toArray ..).symm.trans name
  rw [List.getElem?_map, named, Option.map_some, Option.some.injEq] at entry
  subst entry
  have beginning := Grammar.beginning_of_mem_productions member
  cases steps : production.steps with
  | nil =>
    rw [is, codeProduction] at first
    simp [steps] at first
  | cons step others =>
    have same : code = Table.code (grammarTokens (heads.map Grammar.productions)) heads
        step.symbol := by
      rw [is, codeProduction] at first
      simpa [steps] using first.symm
    rw [same] at known
    rw [symbol_code known]
    rw [steps] at beginning
    exact Grammar.not_mem_barred (begins head (List.mem_of_getElem? named) _ beginning) differs

/-- What a calm production begins with makes only calm ones go under way. -/
theorem build_calms {blank : Nat} (source : heads[0]? = some (.phrase .source))
    (begins : ∀ head ∈ heads, ∀ beginning ∈ Grammar.beginningsOf head,
      Grammar.mayBegin head beginning = true)
    (empty : ∃ coded, (build heads (heads.map Grammar.productions)).productions[blank]? =
      some coded ∧ coded.head = 0 ∧ coded.steps = #[]) :
    Calms (build heads (heads.map Grammar.productions)).productions
      (numbersByHead (build heads (heads.map Grammar.productions)).productions heads.length)
      (build heads (heads.map Grammar.productions)).Calm blank := by
  obtain ⟨whole, found, ofSource, -⟩ := empty
  have symbol (head : Nat) :
      (build heads (heads.map Grammar.productions)).symbol? (.head head) = heads[head]? :=
    List.getElem?_toArray ..
  have bound := (List.getElem?_eq_some_iff.mp source).1
  constructor
  · intro number member
    obtain ⟨-, coded, listed, own⟩ := (mem_numbersByHead _).mp member
    exact ⟨coded, .phrase .source, listed, by rw [symbol, own, source], nofun⟩
  · intro number coded head calm listed first opened member
    obtain ⟨inside, other, also, own⟩ := (mem_numbersByHead _).mp member
    obtain ⟨name, named⟩ : ∃ name, heads[head]? = some name :=
      ⟨_, List.getElem?_eq_getElem inside⟩
    have barred := build_begins begins calm listed first ((symbol head).trans named)
    constructor
    · refine ⟨other, name, also, by rw [symbol, own, named], ?_⟩
      rintro rfl
      exact barred (by decide)
    · rintro rfl
      rw [found, Option.some.injEq] at also
      rw [← own, ← also, ofSource, source, Option.some.injEq] at named
      subst named
      exact barred (by decide)
  · exact (mem_numbersByHead _).mpr ⟨bound, whole, found, ofSource⟩
  · exact (Array.getElem?_eq_some_iff.mp found).1

end Grammar

end Table

/-! ## The grammar -/

/-- The end of a source stands in no production. -/
theorem Grammar.slot_ne_endOfSource : ∀ head ∈ heads, ∀ slot ∈ slotsOf head,
    slot.symbol ≠ .token .endOfSource := by
  decide +kernel

/-- A whole source has statements or nothing. -/
theorem Grammar.productions_source : ∃ full blank, productions (.phrase .source) = [full, blank] ∧
    full.steps ≠ [] ∧ blank.steps = [] := by
  have shown : (productions (.phrase .source)).map (fun production => production.steps.isEmpty) =
      [false, true] := by
    decide +kernel
  obtain ⟨full, rest, same, filled, shown⟩ := List.map_eq_cons_iff.mp shown
  obtain ⟨blank, rest, rfl, empty, shown⟩ := List.map_eq_cons_iff.mp shown
  obtain rfl := List.map_eq_nil_iff.mp shown
  exact ⟨full, blank, same, by simpa using filled, by simpa using empty⟩

/-- Nothing but a whole source is without parts. -/
theorem Grammar.steps_ne_nil {head : Symbol} (listed : head ∈ heads)
    (differs : head ≠ .phrase .source) {production : Production}
    (member : production ∈ productions head) : production.steps ≠ [] := by
  intro empty
  have begins := heads_begin head listed _ (beginning_of_mem_productions member)
  rw [empty] at begins
  exact differs (of_decide_eq_true begins)

theorem Grammar.heads_eq_cons : heads = .phrase .source :: heads.tail := by
  rfl

theorem Grammar.source_not_mem_tail : Symbol.phrase .source ∉ heads.tail := by
  decide +kernel

theorem Grammar.symbol_ne_endOfSource :
    ∀ symbol ∈ Table.symbolsOf (heads.map productions), symbol ≠ .token .endOfSource := by
  intro symbol member
  obtain ⟨own, entry, member⟩ := List.mem_flatMap.mp member
  obtain ⟨head, listed, rfl⟩ := List.mem_map.mp entry
  obtain ⟨production, inside, member⟩ := List.mem_flatMap.mp member
  obtain ⟨step, among, rfl⟩ := List.mem_map.mp member
  exact slot_ne_endOfSource head listed _ (slot_of_mem_productions inside among)

/-- **What is known of the table of the grammar.** -/
theorem grammarTable_takesBlank : grammarTable.TakesBlank 1 := by
  obtain ⟨full, blank, own, filled, empty⟩ := Grammar.productions_source
  have productions : Grammar.heads.map Grammar.productions =
      [full, blank] :: Grammar.heads.tail.map Grammar.productions := by
    rw [← own, ← List.map_cons, ← Grammar.heads_eq_cons]
  have source : Grammar.heads[0]? = some (.phrase .source) := by
    rw [Grammar.heads_eq_cons, List.getElem?_cons_zero]
  have rest : ∀ own ∈ Grammar.heads.tail.map Grammar.productions, ∀ production ∈ own,
      production.steps ≠ [] := by
    intro own entry production member
    obtain ⟨head, later, rfl⟩ := List.mem_map.mp entry
    refine Grammar.steps_ne_nil (List.mem_of_mem_tail later) ?_ member
    rintro rfl
    exact Grammar.source_not_mem_tail later
  have one := Table.build_blank Grammar.heads productions empty
  have early := Table.openingsOf_early (Table.build_calms source Grammar.heads_begin one)
    (Table.build Grammar.heads (Grammar.heads.map Grammar.productions)).firsts
  rw [← Table.build_openings _ (List.getElem?_eq_some_iff.mp source).1] at early
  rw [grammarTable]
  exact {
    source := (List.getElem?_toArray ..).trans source
    last := Table.grammarTokens_last Grammar.symbol_ne_endOfSource
    whole := ⟨_, Table.build_whole _ _, rfl, rfl⟩
    empty := one
    filled := fun number coded listed none =>
      Table.build_filled Grammar.heads productions filled rest listed none
    begins := fun number coded code calm listed first symbol known =>
      Table.build_begins Grammar.heads_begin calm listed first known
    opened := early.1
    opensBlank := early.2 }

end Hygiene.Python
