import Hygiene.Python.Repair.Piece
import Hygiene.Python.Parse

/-!
# Attempts at a broken source

An attempt is one way to read a broken source up to a place. While it is sound it
is a stack of pieces, each with the state after it. When no token fits any more
it breaks: the stacks that it can still become by completing phrases are kept
below the break, and the tokens that are passed over pile up above it, until one
of them fits a state further down.

Attempts are ranked by price. A lower price prevails at once over an attempt that
is broken, and otherwise only when the difference is large for the number of
tokens read since the last break; until then it only goes first.
-/

set_option autoImplicit false

namespace Hygiene.Python.Repair

/-- The next token of an attempt, and the memory of the layout after it. Text that
is no token has no number. -/
structure Lookahead where
  number : Option Nat
  first : Place
  last : Place
  layout : Layout

/-- How far an attempt is pursued. -/
inductive Status where
  /-- It goes on. -/
  | active
  /-- No action fits its next token. -/
  | stuck (lookahead : Lookahead)
  /-- It is given up, or it has reached the end. -/
  | over

/-- An attempt at reading a source. The pieces are those above the break when there
is one, the last piece first. -/
structure Attempt where
  pieces : List Piece
  below : Option (List (List Piece))
  place : Place
  layout : Layout
  /-- The size of the attempt when it broke for the last time. -/
  sizeAtBreak : Nat
  status : Status

namespace Attempt

variable (table : Table)

/-- The state after a stack of pieces. -/
def stateAfter (pieces : List Piece) : State :=
  match pieces with
  | [] => table.start
  | piece :: _ => piece.state

/-- The state of an attempt that is not broken. -/
def state? (attempt : Attempt) : Option State :=
  match attempt.below with
  | none => some (stateAfter table attempt.pieces)
  | some _ => none

/-- Whether an attempt goes on. -/
def isActive (attempt : Attempt) : Bool :=
  attempt.status matches .active

/-- Whether an attempt waits at a token that does not fit. -/
def isStuck (attempt : Attempt) : Bool :=
  attempt.status matches .stuck _

/-- Whether an attempt is over. -/
def isOver (attempt : Attempt) : Bool :=
  attempt.status matches .over

/-- The number of tokens and phrases of an attempt. -/
def size (attempt : Attempt) : Nat :=
  Piece.totalSize attempt.pieces +
    (attempt.below.getD []).foldl (fun most stack => max most (Piece.totalSize stack)) 0

/-- The number of tokens and phrases read since the last break. -/
def progress (attempt : Attempt) : Nat :=
  attempt.size - attempt.sizeAtBreak

/-- The price of the pieces of an attempt. -/
def piecesPrice (attempt : Attempt) : Nat :=
  Piece.totalPrice attempt.pieces +
    match attempt.below with
    | some (stack :: _) => Piece.totalPrice stack
    | _ => 0

/-- The price of an attempt. A break is paid for as soon as it happens. -/
def price (attempt : Attempt) : Nat :=
  attempt.piecesPrice +
    if attempt.isStuck || (attempt.below.isSome && attempt.pieces.isEmpty) then prices.repair
    else 0

/-- The weight of an attempt. -/
def weight (attempt : Attempt) : Int :=
  Piece.totalWeight attempt.pieces +
    match attempt.below with
    | some (stack :: _) => Piece.totalWeight stack
    | _ => 0

/-! ## Comparing attempts -/

/-- What attempts are compared by. -/
structure Rank where
  price : Nat
  progress : Nat
  weight : Int
  isBroken : Bool

/-- The rank of an attempt. -/
def rank (attempt : Attempt) : Rank :=
  { price := attempt.price + if attempt.isStuck then prices.part else 0,
    progress := attempt.progress,
    weight := attempt.weight,
    isBroken := attempt.isStuck || attempt.below.isSome }

/-- The outcome of a comparison: one attempt prevails and the other is given up, or
one of them goes first. -/
inductive Contest where
  | firstPrevails
  | firstLeads
  | even
  | secondLeads
  | secondPrevails
  deriving DecidableEq, Repr

/-- The difference in price, taken as often as there are tokens and phrases since
the last break and once more, above which an attempt prevails. -/
def decisive : Nat := 16 * prices.part

/-- Compares two ranks. -/
def Rank.contest (first second : Rank) : Contest :=
  if !first.isBroken && second.isBroken then
    if first.price < second.price then .firstPrevails else .firstLeads
  else if first.isBroken && !second.isBroken then
    if second.price < first.price then .secondPrevails else .secondLeads
  else if first.price < second.price then
    if decisive < (second.price - first.price) * (1 + first.progress) then .firstPrevails
    else .firstLeads
  else if second.price < first.price then
    if decisive < (first.price - second.price) * (1 + second.progress) then .secondPrevails
    else .secondLeads
  else if second.weight < first.weight then .firstLeads
  else if first.weight < second.weight then .secondLeads
  else .even

/-! ## Attempts that have come to the same -/

/-- A state as the points that its productions have reached, whatever follows. -/
def points (state : State) : List (Nat × Nat) :=
  state.kernel.map fun item => (item.production, item.dot)

/-- Whether two attempts go on in the same way at the same price. -/
def agree (first second : Attempt) : Bool :=
  first.isActive && second.isActive && first.place.offset = second.place.offset &&
    first.layout = second.layout && first.piecesPrice = second.piecesPrice &&
    match first.below, second.below with
    | none, none =>
      (first.pieces.map fun piece => points piece.state) =
        second.pieces.map fun piece => points piece.state
    | some _, some _ => true
    | _, _ => false

/-- The preferred one of two attempts that agree. -/
def preferred (first second : Attempt) : Attempt :=
  if first.weight < second.weight then second else first

/-! ## Completing productions -/

/-- The pieces taken off a stack, in order, when the given number of them cannot
stand anywhere, and what is left of the stack. -/
def takePieces : (count : Nat) → List Piece → List Piece → Option (List Piece × List Piece)
  | 0, stack, taken => some (taken, stack)
  | _, [], _ => none
  | count + 1, piece :: stack, taken =>
    if piece.standsAnywhere then takePieces (count + 1) stack (piece :: taken)
    else takePieces count stack (piece :: taken)

/-- The parts of a phrase as they show in it, each with its step: a part that is
hidden otherwise shows where the step names it, and with it a fault that it is. -/
def asParts : List CodedStep → List Piece → List Piece
  | _, [] => []
  | [], pieces => pieces
  | step :: steps, piece :: pieces =>
    if piece.standsAnywhere then piece :: asParts (step :: steps) pieces
    else if step.shownAs.isNone then piece :: asParts steps pieces
    else
      let fault := if piece.isSupposed then some piece.first.line else piece.fault
      { piece with isShown := true, fault } :: asParts steps pieces

/-- Whether a symbol shows in the tree. -/
def isShownSymbol : Symbol → Bool
  | .token token => !token.isHidden
  | .phrase phrase => !phrase.isHidden
  | .group _ => false

/-- A phrase that stands for one of several others. -/
def isUmbrella (symbol : Symbol) : Bool :=
  [.expression, .primaryExpression, .pattern, .parameter, .simpleStatement,
    .compoundStatement].any fun phrase => symbol = .phrase phrase

/-- Whether a completed production only hands one part on, where nothing else was
possible: it has one plain step, and its head does not show. -/
def handsOn (state : State) (production : CodedProduction) (head : Symbol) : Bool :=
  state.openings.isEmpty && state.kernel.length = 1 && production.weight = 0 &&
    !isShownSymbol head && !isUmbrella head &&
    match production.steps.toList with
    | [step] => step.role.isNone && step.shownAs.isNone
    | _ => false

/-- The stack after a production is completed. Pieces on top of the stack that can
stand anywhere stay there. -/
def completeOn (number : Nat) (place : Place) (stack : List Piece) : Option (List Piece) :=
  let production := table.productions.getD number default
  let state := stateAfter table stack
  let onTop := if production.steps.isEmpty then [] else stack.takeWhile Piece.standsAnywhere
  match takePieces production.steps.size (stack.drop onTop.length) [],
      table.heads[production.head]? with
  | some (parts, under), some head =>
    (table.goto? (stateAfter table under) production.head).map fun next =>
      let parts := asParts production.steps.toList parts
      let own := if handsOn state production head then 0 else 1
      let piece : Piece :=
        { nature := .sound, state := next,
          first := Piece.firstPlace place parts,
          last := (parts.getLast?.map Piece.last).getD place,
          isShown := isShownSymbol head,
          shownParts := Piece.totalShown parts,
          size := own + Piece.totalSize parts,
          price := Piece.totalPrice parts,
          contents := 0,
          weight := production.weight + Piece.totalWeight parts,
          isSupposed := false,
          fault := Piece.firstFault parts }
      onTop.map (fun piece => { piece with state := next }) ++ piece :: under
  | _, _ => none

/-- The attempt after a production is completed. -/
def complete (number : Nat) (attempt : Attempt) : Option Attempt :=
  if attempt.below.isSome then none
  else (completeOn table number attempt.place attempt.pieces).map fun pieces =>
    { attempt with pieces }

/-- The attempt after its next token is read, in the state after it. -/
def push (attempt : Attempt) (piece : Piece) (lookahead : Lookahead) : Attempt :=
  { attempt with
    pieces := piece :: attempt.pieces, place := lookahead.last, layout := lookahead.layout }

end Attempt

end Hygiene.Python.Repair
