import Hygiene.Proofs.Python.Commented
import Hygiene.Proofs.Python.Slots
import Hygiene.Proofs.Python.Stack
import Hygiene.Python.Source

/-!
# The trees of sources are grammatical

Every tree that a source is read as has its names where the grammar asks for them
(`grammatical_of_parse`). What shows for a part of a production is known from its slot: the part
itself, under its kind and in its role, or what is inside a part that is hidden. So it is enough to
look at the slots of each symbol (`heads_sound`): in the phrases with names the slots for names are
filled with names, and what is inside a hidden part has no role that asks for one.
-/

set_option autoImplicit false

namespace Hygiene.Python

open Hygiene.Pointwise

/-! ## Slots with names -/

/-- Whether a symbol is a token. -/
def Symbol.isToken : Symbol → Bool
  | .token _ => true
  | _ => false

/-- The kind under which a symbol shows by itself. -/
def Symbol.kind? : Symbol → Option Kind
  | .token found => if found.isHidden then none else some (.token found)
  | .phrase found => if found.isHidden then none else some (.phrase found)
  | .group _ => none

/-- The roles that ask for a name and that nothing has inside a hidden part. -/
def Symbol.hides : Symbol → List Role
  | .token _ => []
  | .phrase .primaryExpression => [.member, .moduleName]
  | _ => [.moduleName]

/-- Whether all that is inside a hidden part is spelled. -/
def Symbol.spells : Symbol → Bool
  | .group number => Grammar.groups[number]? = some (.symbol (.phrase .stringLiteral))
  | .phrase _ => false
  | .token _ => true

/-- Whether a phrase of a kind may have any parts. -/
def Kind.isPlain : Kind → Bool
  | .phrase found =>
    match found with
    | .functionDefinition | .classDefinition | .aliasedImport | .attributeAccess
    | .importFromStatement | .concatenatedString => false
    | _ => true
  | .token _ => true

namespace Slot

/-- The kind under which the part in a slot shows, if it is not hidden. -/
def kind? (slot : Slot) : Option Kind :=
  slot.shownAs.or slot.symbol.kind?

/-- Whether all that shows for a slot in a role is of a fitting kind. -/
def allows (slot : Slot) (role : Role) (fits : Kind → Bool) : Bool :=
  match slot.kind? with
  | some kind => slot.role ≠ some role || fits kind
  | none =>
    slot.symbol.isToken || (slot.role ≠ some role && slot.symbol.hides.contains role)

/-- Whether all that shows for a slot is spelled. -/
def spells (slot : Slot) : Bool :=
  match slot.kind? with
  | some kind => kind.isSpelled
  | none => slot.symbol.spells

/-- Whether a slot has no names but those that the grammar asks for in a phrase. -/
def isNamedIn (slot : Slot) : Phrase → Bool
  | .functionDefinition | .classDefinition => slot.allows .name Kind.isSpelled
  | .aliasedImport => slot.allows .name Kind.isSpelled && slot.allows .asName Kind.isSpelled
  | .attributeAccess => slot.allows .member Kind.isSpelled
  | .importFromStatement =>
    slot.allows .moduleName fun kind => kind.isSpelled || kind = .phrase .relativeImport
  | .concatenatedString => slot.spells
  | _ => true

/-- Whether a slot hides what a symbol hides. -/
def isHiddenIn (slot : Slot) (head : Symbol) : Bool :=
  (head.hides.all fun role => slot.allows role fun _ => false) && (!head.spells || slot.spells)

/-- Whether a slot can be one of a symbol. -/
def isSound (slot : Slot) (head : Symbol) : Bool :=
  slot.shownAs.all Kind.isPlain &&
    match head.kind? with
    | some (.phrase found) => slot.isNamedIn found
    | _ => slot.isHiddenIn head

theorem isNamedIn_of_isSound {slot : Slot} {head : Symbol} {found : Phrase}
    (sound : slot.isSound head = true) (shown : head.kind? = some (.phrase found)) :
    slot.isNamedIn found = true := by
  rw [isSound, shown] at sound
  exact (Bool.and_eq_true_iff.mp sound).2

/-- Tokens without a role may be laid aside in every phrase. -/
theorem isSound_token (token : Token) (head : Symbol) :
    (Slot.mk (.token token) none none).isSound head = true := by
  have allows (role : Role) (fits : Kind → Bool) :
      (Slot.mk (.token token) none none).allows role fits = true := by
    rw [Slot.allows]
    split <;> rfl
  have spells : (Slot.mk (.token token) none none).spells = true := by
    rw [Slot.spells, kind?, Symbol.kind?]
    cases token.isHidden <;> rfl
  rw [isSound]
  split
  · unfold isNamedIn
    split <;> simp [allows, spells]
  · simp [isHiddenIn, allows, spells]

end Slot

theorem Symbol.phrase_of_kind {symbol : Symbol} {kind : Kind} (proper : symbol.isToken = false)
    (shown : symbol.kind? = some kind) : ∃ phrase, kind = .phrase phrase := by
  cases symbol with
  | token token => cases proper
  | phrase phrase =>
    rw [kind?] at shown
    split at shown
    · cases shown
    · exact ⟨phrase, (Option.some.inj shown).symm⟩
  | group number => cases shown

/-- Whether a symbol is no token and has sound slots. -/
def Symbol.isSound (head : Symbol) : Bool :=
  !head.isToken && (Grammar.slotsOf head).all fun slot => slot.isSound head

/-- **The symbols of the grammar have sound slots.** -/
theorem heads_sound : ∀ head ∈ Grammar.heads, head.isSound = true := by
  rw [← List.all_eq_true]
  decide +kernel

/-- What is read by a production of the grammar is a symbol with sound slots. -/
theorem Table.Slotted.sound {table : Table} (slotted : table.Slotted Grammar.heads)
    {production : Nat} (inner : production + 1 ≠ table.productions.size) :
    ∃ head, table.symbol? (.head (table.productions.getD production default).head) = some head ∧
      head.isToken = false ∧ ∀ step ∈ (table.productions.getD production default).steps.toList,
        ∃ slot : Slot, slot.isSound head = true ∧ step.Has table slot := by
  obtain ⟨head, listed, known, steps⟩ := slotted production inner
  have all := heads_sound head listed
  rw [Symbol.isSound, Bool.and_eq_true, Bool.not_eq_true', List.all_eq_true] at all
  refine ⟨head, known, all.1, fun step member => ?_⟩
  obtain ⟨slot, among, has⟩ := steps step member
  exact ⟨slot, all.2 slot among, has⟩

/-! ## What shows -/

namespace Tree

theorem grammatical_inRole {tree : Tree} (grammatical : tree.Grammatical) (role : Option Role) :
    (tree.inRole role).Grammatical := by
  obtain ⟨kind, own, start, text, children⟩ := tree
  rw [inRole]
  split
  · exact grammatical
  · rw [grammatical_iff] at grammatical ⊢
    exact grammatical

theorem kind_inRole (tree : Tree) (role : Option Role) : (tree.inRole role).kind = tree.kind := by
  obtain ⟨kind, own, start, text, children⟩ := tree
  rw [inRole]
  split <;> rfl

/-- A tree is in a role when it has it already or gets it. -/
theorem role_inRole {tree : Tree} {role : Option Role} {found : Role}
    (has : (tree.inRole role).role = some found) : tree.role = some found ∨ role = some found := by
  obtain ⟨kind, own, start, text, children⟩ := tree
  rw [inRole] at has
  split at has
  · exact .inl has
  · exact (Option.or_eq_some_iff.mp has).imp_right And.right

theorem between_eq (kind : Kind) (role : Option Role) (first last : Option Place)
    (children : List Tree) :
    ∃ start text, between kind role first last children = .node kind role start text children := by
  unfold between
  split <;> exact ⟨_, _, rfl⟩

/-- A phrase that may have any parts has the names that the grammar asks for. -/
theorem isWellNamed_of_isPlain {tree : Tree} (plain : tree.kind.isPlain = true) :
    tree.isWellNamed = true := by
  rw [isWellNamed]
  split
  · rename_i found is
    rw [is] at plain
    unfold isNamedAs
    split <;> first | rfl | cases plain
  · rfl

end Tree

/-- What is known of a tree that shows for a slot. -/
structure Slot.Shows (slot : Slot) (tree : Tree) : Prop where
  grammatical : tree.Grammatical
  allows : ∀ role fits, slot.allows role fits = true → tree.role = some role →
    fits tree.kind = true
  spells : slot.spells = true → tree.kind.isSpelled = true

namespace Tree

/-- The part in a role is of a fitting kind, if nothing else is allowed. -/
theorem all_child {tree : Tree} {role : Role} {fits : Kind → Bool}
    (children : ∀ child ∈ tree.children,
      ∃ slot : Slot, slot.allows role fits = true ∧ slot.Shows child) :
    (tree.child? role).all (fun part => fits part.kind) = true := by
  rw [Option.all_eq_true, child?]
  intro part found
  obtain ⟨slot, allowed, shows⟩ := children part (List.mem_of_find?_eq_some found)
  have has := List.find?_some found
  exact shows.allows role fits allowed (of_decide_eq_true has)

/-- What shows for slots that have the names of a phrase has them. -/
theorem isNamedAs_of_slots {tree : Tree} {found : Phrase}
    (children : ∀ child ∈ tree.children,
      ∃ slot : Slot, slot.isNamedIn found = true ∧ slot.Shows child) :
    tree.isNamedAs found = true := by
  unfold isNamedAs
  split
  · exact all_child children
  · exact all_child children
  · rw [isSpelledIn, isSpelledIn, Bool.and_eq_true]
    constructor
    · refine all_child fun child member => ?_
      obtain ⟨slot, named, shows⟩ := children child member
      exact ⟨slot, (Bool.and_eq_true_iff.mp named).1, shows⟩
    · refine all_child fun child member => ?_
      obtain ⟨slot, named, shows⟩ := children child member
      exact ⟨slot, (Bool.and_eq_true_iff.mp named).2, shows⟩
  · exact all_child children
  · exact all_child children
  · rw [List.all_eq_true]
    intro part member
    obtain ⟨slot, spelled, shows⟩ := children part (List.mem_filter.mp member).1
    exact shows.spells spelled
  · rfl

end Tree

namespace Slot

/-- A node of the kind and in the role of a slot shows for it. -/
theorem shows_node {slot : Slot} {kind : Kind} (is : slot.kind? = some kind) {start : Position}
    {text : Text} {children : List Tree}
    (grammatical : (Tree.node kind slot.role start text children).Grammatical) :
    slot.Shows (.node kind slot.role start text children) := by
  refine ⟨grammatical, fun role fits allowed has => ?_, fun spelled => ?_⟩
  · rw [allows, is] at allowed
    change slot.role = some role at has
    change fits kind = true
    simpa [has] using allowed
  · rwa [spells, is] at spelled

/-- What shows inside a hidden part shows for its slot, in the role of the slot when it has none. -/
theorem Shows.inRole {slot outer : Slot} {tree : Tree} (shows : slot.Shows tree)
    (sound : slot.isSound outer.symbol = true) (hidden : outer.kind? = none)
    (proper : outer.symbol.isToken = false) : outer.Shows (tree.inRole outer.role) := by
  have own : outer.symbol.kind? = none := (Option.or_eq_none_iff.mp hidden).2
  rw [isSound, own, isHiddenIn, Bool.and_eq_true, Bool.and_eq_true] at sound
  obtain ⟨-, hides, spelled⟩ := sound
  constructor
  · exact Tree.grammatical_inRole shows.grammatical _
  · intro role fits allowed has
    rw [Slot.allows, hidden, proper, Bool.false_or, Bool.and_eq_true, decide_eq_true_iff,
      List.contains_iff_mem] at allowed
    obtain ⟨differs, listed⟩ := allowed
    -- Nothing inside has the role, and the slot does not give it.
    have absent := shows.allows role (fun _ => false) (List.all_eq_true.mp hides role listed)
    rcases Tree.role_inRole has with inside | given
    · exact absurd (absent inside) Bool.false_ne_true
    · exact absurd given differs
  · intro spells
    rw [Slot.spells, hidden] at spells
    dsimp only at spells
    rw [tree.kind_inRole]
    apply shows.spells
    rwa [spells] at spelled

end Slot

/-! ## The trees of parts -/

/-- The parts of a phrase. -/
def Part.parts : Part → List Part
  | .phrase _ _ parts => parts
  | _ => []

/-- What holds of a part whenever it holds of its parts holds of every part. -/
theorem Part.partInduction {motive : Part → Prop}
    (step : ∀ part, (∀ inner ∈ part.parts, motive inner) → motive part) (part : Part) :
    motive part :=
  step part fun inner member =>
    have smaller : sizeOf inner < sizeOf part := by
      cases part with
      | token number first last => cases member
      | aside number first last => cases member
      | phrase production weight parts =>
        have := List.sizeOf_lt_of_mem member
        simp only [Part.parts, Part.phrase.sizeOf_spec] at this ⊢
        omega
    partInduction step inner
termination_by sizeOf part

/-- A part shows for the slot of every step that it fits. -/
def Part.ShowsFitting (table : Table) (part : Part) : Prop :=
  ∀ (step : CodedStep) (slot : Slot), Fits table step.code part → step.Has table slot →
    slot.shownAs.all Kind.isPlain = true →
      ∀ tree ∈ Tree.ofPart table step.shownAs step.role part, slot.Shows tree

namespace Tree

variable {table : Table}

theorem tokenKind_eq (number : Nat) :
    tokenKind? table number = (table.symbol? (.token number)).bind Symbol.kind? := by
  rw [tokenKind?, Table.symbol?]
  cases table.tokens[number]? <;> rfl

theorem phraseKind_eq {production : Nat} {head : Symbol} (proper : head.isToken = false)
    (known : table.symbol? (.head (table.productions.getD production default).head) = some head) :
    phraseKind? table production = head.kind? := by
  rw [Table.symbol?] at known
  rw [phraseKind?, known]
  cases head with
  | token token => cases proper
  | phrase phrase => rfl
  | group number => rfl

/-- A token shows for a slot that can have it. -/
theorem shows_leaves {slot : Slot} {number : Nat} (plain : slot.shownAs.all Kind.isPlain = true)
    (known : ∀ found, table.symbol? (.token number) = some found → found = slot.symbol)
    (first last : Place) :
    ∀ tree ∈ leaves (slot.shownAs.or (tokenKind? table number)) slot.role first last,
      slot.Shows tree := by
  intro tree member
  cases kind : slot.shownAs.or (tokenKind? table number) with
  | none =>
    rw [kind] at member
    cases member
  | some shown =>
    rw [kind] at member
    have both : slot.kind? = some shown ∧ shown.isPlain = true := by
      rw [tokenKind_eq] at kind
      rw [Slot.kind?]
      rcases Option.or_eq_some_iff.mp kind with own | ⟨unnamed, named⟩
      · rw [own] at plain ⊢
        exact ⟨rfl, plain⟩
      · obtain ⟨symbol, listed, is⟩ := Option.bind_eq_some_iff.mp named
        obtain rfl := known symbol listed
        obtain ⟨token, -, same⟩ := Option.map_eq_some_iff.mp listed
        rw [unnamed, is]
        rw [← same, Symbol.kind?] at is
        split at is
        · cases is
        · cases is
          exact ⟨rfl, rfl⟩
    obtain ⟨start, text, node⟩ := between_eq shown slot.role (some first) (some last) []
    rw [List.mem_singleton.mp member, node]
    exact Slot.shows_node both.1
      (grammatical_iff.mpr ⟨isWellNamed_of_isPlain both.2, nofun⟩)

/-- What was laid aside shows for a token without a role. -/
theorem shows_aside (number : Nat) (first last : Place) :
    ∀ tree ∈ leaves (tokenKind? table number) none first last,
      ∃ token, (Slot.mk (.token token) none none).Shows tree := by
  intro tree member
  cases listed : table.tokens[number]? with
  | none =>
    rw [tokenKind?, listed] at member
    cases member
  | some token =>
    refine ⟨token, shows_leaves rfl (fun found known => ?_) first last tree member⟩
    rw [Table.symbol?, listed] at known
    exact (Option.some.inj known).symm

/-- What shows for the parts of a phrase shows for slots of it. -/
theorem shows_ofParts {head : Symbol} {steps : List CodedStep} {parts : List Part}
    (sound : ∀ step ∈ steps, ∃ slot : Slot, slot.isSound head = true ∧ step.Has table slot)
    (fit : FitSteps table steps parts) (each : ∀ part ∈ parts, part.ShowsFitting table) :
    ∀ tree ∈ ofParts table steps parts,
      ∃ slot : Slot, slot.isSound head = true ∧ slot.Shows tree := by
  induction fit with
  | nil =>
    rw [ofParts]
    exact nofun
  | @kept step part steps parts fits _ ih =>
    rw [List.forall_mem_cons] at sound each
    obtain ⟨slot, good, has⟩ := sound.1
    have cons : ofParts table (step :: steps) (part :: parts) =
        ofPart table step.shownAs step.role part ++ ofParts table steps parts := by
      generalize step.code = code at fits
      cases fits <;> rfl
    rw [cons, List.forall_mem_append]
    refine ⟨fun tree member => ⟨slot, good, ?_⟩, ih sound.2 each.2⟩
    exact each.1 step slot fits has (Bool.and_eq_true_iff.mp good).1 tree member
  | @added part steps parts aside _ ih =>
    rw [List.forall_mem_cons] at each
    cases part with
    | token number first last => cases aside
    | phrase production weight parts => cases aside
    | aside number first last =>
      rw [ofParts, List.forall_mem_append]
      refine ⟨fun tree member => ?_, ih sound each.2⟩
      obtain ⟨token, shows⟩ := shows_aside number first last tree member
      exact ⟨_, Slot.isSound_token token head, shows⟩

/-- **Every part shows for the slots that it fits.** -/
theorem shows_ofPart (slotted : table.Slotted Grammar.heads) (part : Part) :
    part.ShowsFitting table := by
  induction part using Part.partInduction with
  | step part ih =>
    intro step slot fits has plain tree member
    generalize is : step.code = code at fits
    rw [has.shownAs, has.role] at member
    cases fits with
    | token number first last =>
      rw [ofPart] at member
      exact shows_leaves plain (fun found known => has.symbol found (is ▸ known)) _ _ tree member
    | @phrase production parts weight inner fit =>
      obtain ⟨head, known, proper, slots⟩ := slotted.sound inner
      obtain rfl := has.symbol head (is ▸ known)
      have children := shows_ofParts slots fit ih
      rw [ofPart, phraseKind_eq proper known] at member
      change tree ∈ (match slot.kind? with
        | some kind => _
        | none => _) at member
      cases kind : slot.kind? with
      | none =>
        rw [kind] at member
        obtain ⟨child, inside, rfl⟩ := List.mem_map.mp member
        obtain ⟨own, good, shows⟩ := children child inside
        exact shows.inRole good kind proper
      | some shown =>
        rw [kind] at member
        obtain ⟨start, text, node⟩ := between_eq shown slot.role (Part.firstOfAll? parts)
          (Part.lastOfAll? parts)
          (ofParts table (table.productions.getD production default).steps.toList parts)
        rw [List.mem_singleton.mp member, node]
        refine Slot.shows_node kind (grammatical_iff.mpr ⟨?_, fun child inside => ?_⟩)
        · rcases Option.or_eq_some_iff.mp kind with own | ⟨-, named⟩
          · apply isWellNamed_of_isPlain
            rwa [own] at plain
          · obtain ⟨found, rfl⟩ := Symbol.phrase_of_kind proper named
            refine isNamedAs_of_slots fun child inside => ?_
            obtain ⟨own, good, shows⟩ := children child inside
            exact ⟨own, Slot.isNamedIn_of_isSound good named, shows⟩
        · obtain ⟨_, -, shows⟩ := children child inside
          exact shows.grammatical

/-- What shows for parts that are put together as the table says is grammatical. -/
theorem grammatical_ofWhole (slotted : table.Slotted Grammar.heads) (source : Text)
    {parts : List Part}
    (fit : ∀ part ∈ parts, part.isAside = true ∨ ∃ code, Fits table code part) :
    (ofWhole table source parts).Grammatical := by
  refine grammatical_iff.mpr ⟨rfl, fun child member => ?_⟩
  obtain ⟨part, listed, inside⟩ := List.mem_flatMap.mp member
  rcases fit part listed with aside | ⟨code, fits⟩
  · cases part with
    | token number first last => cases aside
    | phrase production weight parts => cases aside
    | aside number first last =>
      obtain ⟨token, shows⟩ := shows_aside number first last child inside
      exact shows.grammatical
  · cases fits with
    | token number first last =>
      obtain ⟨token, shows⟩ := shows_aside number first last child inside
      exact shows.grammatical
    | @phrase production parts weight inner fit =>
      obtain ⟨head, -, -, slots⟩ := slotted.sound inner
      have children := shows_ofParts slots fit fun part _ => shows_ofPart slotted part
      obtain ⟨slot, -, shows⟩ := children child inside
      exact shows.grammatical

end Tree

/-- **The trees of sources are grammatical.** -/
theorem grammatical_of_parse {source : Text} {tree : Tree} (parsed : parse source = .ok tree) :
    tree.Grammatical := by
  rw [parse] at parsed
  cases read : Reading.parts? grammarTable source with
  | none =>
    rw [read] at parsed
    cases parsed
  | some parts =>
    rw [read] at parsed
    cases parsed
    exact Tree.grammatical_ofWhole grammarTable_slotted source (Reading.fits_of_parts read)

end Hygiene.Python
