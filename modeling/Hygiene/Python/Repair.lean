import Hygiene.Python.Repair.Scan
import Hygiene.Python.Repair.Recovery

/-!
# The search for a repair

The attempts at a source are pursued round by round, each as far as the others.
After each round they are compared: those that can no longer prevail are given up,
and when the best one is stuck it breaks. The search ends when an attempt that
reached the end of the source is cheaper than all others, and the source is at
fault where the first repair of that attempt begins.
-/

set_option autoImplicit false

namespace Hygiene.Python.Repair

namespace Search

variable (table : Table)

/-! ## One attempt -/

/-- What becomes of an attempt at its next token. The bound limits how many
productions are completed before it. -/
def consume (start : Place) (lookahead : Lookahead) : (bound index : Nat) → Search → Search
  | 0, index, search => search.giveUp index
  | bound + 1, index, search =>
    match search.attempts[index]? with
    | none => search
    | some attempt =>
      let token := lookahead.number.bind fun number => table.tokens[number]?
      if token = some .comment || token = some .lineContinuation then
        let state := (attempt.state? table).getD table.start
        let piece := Piece.ofToken .aside state true lookahead.first lookahead.last
        search.withAttempt index (attempt.push piece lookahead)
      else match attempt.state? table, lookahead.number with
        | none, _ => recover table search index attempt start lookahead
        | some _, none => search.withAttempt index { attempt with status := .stuck lookahead }
        | some state, some number =>
          let moves := table.moves state number
          if moves.complete.any fun production => production + 1 = table.productions.size then
            search.finish index
              [⟨attempt.piecesPrice, attempt.weight, Piece.firstFault attempt.pieces.reverse⟩]
          else
            let (search, made) := moves.complete.foldl
              (fun (search, made) production =>
                match attempt.complete table production with
                | none => (search, made)
                | some completed =>
                  let (search, index) := search.add (some index) completed
                  (search, index.or made))
              (search, none)
            if !moves.read.isEmpty then
              let isShown := match token with
                | some token => !token.isHidden
                | none => true
              let piece := Piece.ofToken .sound (table.close moves.read) isShown
                lookahead.first lookahead.last
              search.withAttempt index (attempt.push piece lookahead)
            else match made with
              | some source => consume start lookahead bound index (search.moveTo source index)
              | none =>
                if moves.complete.isEmpty then
                  search.withAttempt index { attempt with status := .stuck lookahead }
                else search.giveUp index

/-- Pursues one attempt until it has come as far as the others, and the offset that
was reached. The bound limits the number of tokens. -/
def pursue (start : Place) : (bound index reached : Nat) → Search → Search × Nat
  | 0, index, reached, search => (search.giveUp index, reached)
  | bound + 1, index, reached, search =>
    match search.attempts[index]? with
    | none => (search, reached)
    | some attempt =>
      if !attempt.isActive then (search, reached)
      else
        let bound' := 64 * (attempt.pieces.length + 16)
        let search := consume table start (attempt.scan table) bound' index search
        let offset := (search.attempts[index]?.map fun attempt => attempt.place.offset).getD reached
        if reached < offset || (0 < index && offset = reached) then (search, offset)
        else pursue start bound index reached search

/-- Pursues all attempts from an index on, also those that are added meanwhile. -/
def pursueFrom (start : Place) (steps : Nat) :
    (bound index reached : Nat) → Search → Search × Nat
  | 0, _, reached, search => (search, reached)
  | bound + 1, index, reached, search =>
    if index < search.attempts.length then
      let (search, reached) := pursue table start steps index reached search
      pursueFrom start steps bound (index + 1) reached search
    else (search, reached)

/-! ## Between two rounds -/

/-- Compares an attempt with those that are kept, in order: an attempt that does not
prevail is given up or goes behind, and attempts that agree are merged. -/
def rankAmong (attempt : Attempt) : List Attempt → List Attempt
  | [] => [attempt]
  | other :: others =>
    match other.rank.contest attempt.rank with
    | .firstPrevails => other :: others
    | .firstLeads | .even =>
      if other.agree attempt then other.preferred attempt :: others
      else other :: rankAmong attempt others
    | .secondLeads =>
      if other.agree attempt then other.preferred attempt :: others
      else attempt :: rankAmong other others
    | .secondPrevails => rankAmong attempt others

/-- The attempts that are still pursued after a round, in order. -/
def ranked (attempts : List Attempt) : List Attempt :=
  (attempts.foldl
    (fun kept attempt => if attempt.isOver then kept else rankAmong attempt kept) []).take
    mostAttempts

/-- The search after the stuck attempts have been dealt with: when the best attempt
is stuck it breaks, and all others that are stuck are given up. -/
def unstick (start : Place) (search : Search) : Search :=
  match search.attempts with
  | [] => search
  | attempt :: _ =>
    let others := search.attempts.tail.filter fun attempt => !attempt.isStuck
    match attempt.status with
    | .stuck lookahead =>
      if search.endings < mostAttempts then
        breakAt table { search with attempts := attempt :: others } 0 attempt start lookahead
      else { search with attempts := others }
    | _ => { search with attempts := attempt :: others }

/-- Whether an ending is cheaper than the best attempt, when that one is stuck, and
otherwise than all attempts that are not broken. -/
def isSettled (search : Search) : Bool :=
  match search.ending, search.attempts with
  | none, _ => false
  | some _, [] => true
  | some ending, attempt :: attempts =>
    if attempt.isStuck then ending.price < attempt.price
    else (attempt :: attempts).all fun attempt =>
      attempt.rank.isBroken || ending.price < attempt.price

/-! ## The whole search -/

/-- Runs the search to its end. The bound limits the number of rounds. -/
def run (start : Place) (steps : Nat) : (bound reached : Nat) → Search → Search
  | 0, _, search => search
  | bound + 1, reached, search =>
    if search.attempts.isEmpty then search
    else
      let (search, reached) := pursueFrom table start steps (4 * mostAttemptsInRound) 0 reached search
      let search := { search with attempts := ranked search.attempts }
      let settled := search.isSettled
      let search := search.unstick table start
      if settled then search else run start steps bound reached search

end Search

/-- The line of the first fault of a source, counted from one: the first one when
there is no fault. -/
def faultLine (table : Table) (source : Text) : Nat :=
  let start : Place := .start source
  let attempt : Attempt :=
    { pieces := [], below := none, place := start, layout := .start, sizeAtBreak := 0,
      status := .active }
  let bound := 16 * (source.length + 16)
  let search := Search.run table start bound bound 0 ⟨[attempt], none, 0⟩
  ((search.ending.bind Ending.fault).getD 0) + 1

end Hygiene.Python.Repair
