import Hygiene.Python.Table

/-!
# The automaton of the grammar

A state is the set of the productions that can be under way, each with the point
it has reached and the tokens that can follow it. The items that were reached by
reading something are the kernel; the productions that can begin at that point
are the openings of the state.

On a token a state can read on, and it can complete productions. When both go on,
the ranks decide: a higher rank of what is read on keeps the reading, a lower one
keeps the completion, and at equal rank the side decides. A part that is repeated
is always completed first. What is still undecided then is followed in every way.
-/

set_option autoImplicit false

namespace Hygiene.Python

/-- A production that is under way: how many of its steps are read, and the tokens
that can follow it. -/
structure Item where
  production : Nat
  dot : Nat
  follow : Nat
  deriving DecidableEq, Repr, Inhabited

/-- A state of the automaton. -/
structure State where
  kernel : List Item
  openings : List (Nat × Nat)
  deriving DecidableEq, Inhabited

/-- All items of a state. -/
def State.items (state : State) : List Item :=
  state.kernel ++ state.openings.map fun (production, follow) => ⟨production, 0, follow⟩

namespace Table

variable (table : Table)

/-- The production of an item. -/
def productionOf (item : Item) : CodedProduction :=
  table.productions.getD item.production default

/-- The step that an item waits for. -/
def nextStep? (item : Item) : Option CodedStep :=
  (table.productionOf item).steps[item.dot]?

/-- The symbol that an item waits for. -/
def next? (item : Item) : Option Code :=
  (table.nextStep? item).map CodedStep.code

/-- Whether all steps of an item are read. -/
def isComplete (item : Item) : Bool :=
  (table.productionOf item).steps.size ≤ item.dot

/-- The rank of an item is that of its last step. -/
def rankOf (item : Item) : Int :=
  if item.dot = 0 then 0
  else match (table.productionOf item).steps[item.dot - 1]? with
    | some step => step.rank
    | none => 0

/-- The side of an item is that of its last step. -/
def sideOf (item : Item) : Option Side :=
  if item.dot = 0 then none
  else (table.productionOf item).steps[item.dot - 1]?.bind CodedStep.side

/-- The tokens that can follow the symbol that an item waits for. -/
def followOfNext (item : Item) : Nat :=
  match (table.productionOf item).steps[item.dot + 1]? with
  | some step => firstOf table.firsts step.code
  | none => item.follow

/-- Adds the openings of the head that an item waits for. -/
def addItemOpenings (found : Array Nat) (item : Item) : Array Nat :=
  match table.next? item with
  | some (.head head) =>
    let following := table.followOfNext item
    (table.openings.getD head []).foldl
      (fun found opening =>
        found.modify opening.production fun known =>
          known ||| opening.follow ||| if opening.inherits then following else 0)
      found
  | _ => found

/-- The state with a given kernel. -/
def close (kernel : List Item) : State :=
  if kernel.all fun item => !(table.next? item matches some (.head _)) then ⟨kernel, []⟩
  else
    let found := kernel.foldl table.addItemOpenings (Array.replicate table.productions.size 0)
    let openings := found.foldr
      (fun follow (number, openings) =>
        (number - 1, if follow = 0 then openings else (number - 1, follow) :: openings))
      (found.size, [])
    ⟨kernel, openings.2⟩

/-- The state in which a source begins. -/
def start : State :=
  table.close [⟨table.productions.size - 1, 0, single (table.tokens.size - 1)⟩]

/-- The items that have read a symbol. -/
def advanced (state : State) (code : Code) : List Item :=
  state.items.filterMap fun item =>
    if table.next? item = some code then some { item with dot := item.dot + 1 } else none

/-- The tokens with which a state can do something. -/
def welcome (state : State) : Nat :=
  state.items.foldl
    (fun tokens item =>
      match table.next? item with
      | some (.token number) => tokens ||| single number
      | some (.head _) => tokens
      | none => tokens ||| item.follow)
    0

/-- The items that a token completes, and of these the ones of the highest rank. -/
def completions (state : State) (token : Nat) : List Item :=
  let complete := state.items.filter fun item =>
    table.isComplete item && item.follow.testBit token
  complete.filter fun item => complete.all fun other => table.rankOf other ≤ table.rankOf item

/-- The items that are under way and can go on with a token. -/
def continuations (state : State) (token : Nat) : List Item :=
  state.kernel.filter fun item =>
    0 < item.dot && match table.next? item with
      | some code => (firstOf table.firsts code).testBit token
      | none => false

/-- Whether a head is a repeated group. -/
def isGroup (head : Nat) : Bool :=
  table.heads[head]? matches some (.group _)

/-- Whether the undecided items all belong to one repeated group. -/
def isRepetition (undecided : List Item) : Bool :=
  match undecided with
  | [] => false
  | item :: others =>
    let head := (table.productionOf item).head
    table.isGroup head && others.all fun other => (table.productionOf other).head = head

/-- What a state does with a token: the items that read it, and the productions
that are completed before it. -/
structure Moves where
  read : List Item
  complete : List Nat

/-- The decision between reading a token and completing productions before it. -/
def decide (state : State) (token : Nat) (reading complete : List Item) : Moves :=
  let productions := complete.map Item.production
  let going := table.continuations state token
  let ending := state.items.filter fun item =>
    table.isComplete item && item.follow.testBit token
  let rank := (complete.head?.map table.rankOf).getD 0
  let more := going.any fun item => rank < table.rankOf item
  let less := going.any fun item => table.rankOf item < rank
  if table.isRepetition (going ++ ending) then ⟨[], productions⟩
  else if more && !less then ⟨reading, []⟩
  else if less && !more then ⟨[], productions⟩
  else if !more && !less then
    if complete.all fun item => table.sideOf item = some .left then ⟨[], productions⟩
    else if complete.all fun item => table.sideOf item = some .right then ⟨reading, []⟩
    else ⟨reading, productions⟩
  else ⟨reading, productions⟩

/-- What a state does with a token. -/
def moves (state : State) (token : Nat) : Moves :=
  let reading := table.advanced state (.token token)
  let complete := table.completions state token
  if reading.isEmpty || complete.isEmpty then ⟨reading, complete.map Item.production⟩
  else table.decide state token reading complete

/-- The state after a head. -/
def goto? (state : State) (head : Nat) : Option State :=
  match table.advanced state (.head head) with
  | [] => none
  | item :: others => some (table.close (item :: others))

end Table

end Hygiene.Python
