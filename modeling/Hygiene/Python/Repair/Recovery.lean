import Hygiene.Python.Repair.Completion

/-!
# Breaking off and going on

An attempt that is stuck breaks at the token that does not fit:

* a token is supposed before it, if that completes phrases after which it fits;
* the attempt goes back to a state further down in which the token fits, and sets
  aside as faulty what was read since;
* the token is passed over, and the next one is tried in the same way.

Each of these makes an attempt of its own, unless it would come out worse than
another attempt that has come as far. At the end of the source a broken attempt
ends with all of the source as one fault.
-/

set_option autoImplicit false

namespace Hygiene.Python.Repair

open Attempt (stateAfter points)

namespace Search

variable (table : Table)

/-- How far down in a stack an attempt goes back. -/
def deepestReturn : Nat := 16

/-! ## Going back -/

/-- A state further down in a broken attempt: how many pieces lie above it, with
the break counted as one, and where it was reached. -/
structure Return where
  depth : Nat
  state : State
  place : Place

/-- The states on a stack, from the top, each with the number of pieces above it. -/
def statesDown (start : Place) : (depth : Nat) → List Piece → List Return
  | depth, [] => [⟨depth, table.start, start⟩]
  | depth, piece :: under =>
    ⟨depth, piece.state, piece.last⟩ ::
      statesDown start (if piece.standsAnywhere then depth else depth + 1) under

/-- The first elements of several lists, then the second ones, and so on. The bound
is at least the length of the longest list. -/
def inTurns {α : Type} : (bound : Nat) → List (List α) → List α
  | 0, _ => []
  | bound + 1, lists =>
    lists.filterMap List.head? ++ inTurns bound (lists.map List.tail)

/-- The states to which a broken attempt can return. -/
def returns (start : Place) (below : List (List Piece)) : List Return :=
  let all := inTurns (below.foldl (fun most stack => max most stack.length) 0 + 1)
    (below.map (statesDown table start 1))
  all.foldl
    (fun found entry =>
      if deepestReturn < entry.depth || found.any fun other =>
          other.depth = entry.depth && points other.state = points entry.state then found
      else found ++ [entry])
    []

/-- Whether a state does something with a token. Comments and joined lines are
welcome everywhere. -/
def welcomes (state : State) (number : Nat) : Bool :=
  (table.welcome state).testBit number

/-- A stack on which pieces in order are set aside as faulty. Pieces at their end
that can stand anywhere stay outside, and a fault on top of the stack takes the
pieces in. -/
def setAside (stack pieces : List Piece) : List Piece :=
  let state := stateAfter table stack
  let after := (pieces.reverse.takeWhile Piece.standsAnywhere)
  let inside := pieces.take (pieces.length - after.length)
  let after := after.map fun piece => { piece with state }
  match stack, inside, inside.getLast? with
  | top :: under, _ :: _, some last =>
    if top.nature = .fault then
      after ++ Piece.broken .fault state top.first last.last top.contents (top.size - 1) inside
        :: under
    else
      after ++ Piece.broken .fault state (Piece.firstPlace last.last inside) last.last 0 0 inside
        :: stack
  | [], _ :: _, some last =>
    after ++ [Piece.broken .fault state (Piece.firstPlace last.last inside) last.last 0 0 inside]
  | _, _, _ => after ++ stack

/-- The attempts that return to a state under a number of pieces. -/
def goBack (attempt : Attempt) (depth : Nat) (state : State) : List Attempt :=
  let reached := (attempt.below.getD []).filterMap fun stack =>
    (Attempt.takePieces depth stack []).bind fun (pieces, under) =>
      if points (stateAfter table under) = points state then
        some (under, setAside table under (pieces ++ attempt.pieces.reverse))
      else none
  (reached.foldl
    (fun found (under, pieces) =>
      if found.any fun (other : List Piece × List Piece) => other.1.length = under.length then found
      else found ++ [(under, pieces)])
    []).map fun (_, pieces) => { attempt with pieces, below := none }

/-- The attempts that go back as little as possible to a state in which the token
fits. -/
def tryReturns (search : Search) (index : Nat) (attempt : Attempt) (number : Nat) :
    List Return → List Attempt
  | [] => []
  | entry :: entries =>
    if entry.place.offset = attempt.place.offset then
      tryReturns search index attempt number entries
    else if search.attempts.any fun other =>
        (other.state? table).any (fun state => points state = points entry.state) &&
          other.place.offset = attempt.place.offset then
      tryReturns search index attempt number entries
    else
      let price := attempt.price + prices.part * entry.depth +
        extentPrice entry.place attempt.place
      if search.isSurpassed index attempt price then []
      else if welcomes table entry.state number then
        match goBack table attempt (entry.depth - 1) entry.state with
        | [] => tryReturns search index attempt number entries
        | found => found
      else tryReturns search index attempt number entries

/-! ## Passing over -/

/-- The ways in which a broken attempt ends: all of the source is one fault. -/
def endingsOf (attempt : Attempt) (last : Place) : List Ending :=
  (attempt.below.getD [[]]).map fun stack =>
    let pieces := stack.reverse ++ attempt.pieces.reverse
    let whole := Piece.broken .fault table.start (Piece.firstPlace last pieces) last 0 0 pieces
    ⟨whole.price, whole.weight, whole.fault⟩

/-- The attempt after the token is passed over. What was passed over before becomes
one piece with it. -/
def passOver (attempt : Attempt) (lookahead : Lookahead) : Attempt :=
  let isShown := match lookahead.number.bind fun number => table.tokens[number]? with
    | some token => !token.isHidden
    | none => true
  let nature : Nature := if lookahead.number.isSome then .sound else .unreadable
  let token := Piece.ofToken nature table.start isShown lookahead.first lookahead.last
  let pass (pieces : List Piece) : Piece :=
    Piece.broken .passed table.start (Piece.firstPlace lookahead.first pieces) lookahead.last 0 0
      pieces
  let piece := if attempt.pieces.isEmpty then pass [token]
    else pass (attempt.pieces.reverse ++ [pass [token]])
  { attempt with pieces := [piece], place := lookahead.last, layout := lookahead.layout }

/-! ## At a token that does not fit -/

/-- What becomes of a broken attempt at a token. -/
def recover (search : Search) (index : Nat) (attempt : Attempt) (start : Place)
    (lookahead : Lookahead) : Search :=
  let found := match lookahead.number with
    | some number =>
      tryReturns table search index attempt number
        (returns table start (attempt.below.getD []))
    | none => []
  let search := { search with attempts := search.attempts ++ found }
  let returned := !found.isEmpty
  let price := attempt.price + prices.part + extentPrice attempt.place lookahead.last
  if returned && mostAttempts < search.attempts.length then search.giveUp index
  else if returned && lookahead.layout ≠ attempt.layout then search.giveUp index
  else if lookahead.number = some (table.tokens.size - 1) then
    search.finish index (endingsOf table attempt lookahead.last)
  else if search.isSurpassed index attempt price then search.giveUp index
  else search.withAttempt index (passOver table attempt lookahead)

/-- The search after a stuck attempt breaks at its token. -/
def breakAt (search : Search) (index : Nat) (attempt : Attempt) (start : Place)
    (lookahead : Lookahead) : Search :=
  let attempt := { attempt with status := .active }
  let (completed, _) :=
    completeAll table true (tokenNumbers table) 64 0 [attempt] [] [] false
  let supposed := (completed.findSome? fun attempt =>
    match supposing table lookahead attempt with
    | [] => none
    | found => some found).getD []
  let broken : Attempt :=
    { attempt with pieces := [], below := some (completed.map Attempt.pieces) }
  let broken := { broken with sizeAtBreak := broken.size }
  let search := search.withAttempt index broken
  let search := supposed.foldl (fun search attempt => (search.add none attempt).1) search
  recover table search index broken start lookahead

end Search

end Hygiene.Python.Repair
