import Hygiene.Python.Repair.Search

/-!
# Completing phrases at a fault

When no token fits an attempt, the phrases under way may still be complete: all
ways to complete them are tried, whatever comes next. The same is done for one
token at a time, to see whether a token that is only supposed leads to a state that
reads the one that is really there.
-/

set_option autoImplicit false

namespace Hygiene.Python.Repair

open Attempt (stateAfter points)

namespace Search

variable (table : Table)

/-- The productions that a state completes before some token, without those that
have no steps. -/
def completions (state : State) (tokens : List Nat) : List Nat :=
  (tokens.flatMap fun token => (table.moves state token).complete).eraseDups.filter fun number =>
    !(table.productions.getD number default).steps.isEmpty && number + 1 < table.productions.size

/-- Whether a state reads one of the tokens. -/
def reads (state : State) (tokens : List Nat) : Bool :=
  tokens.any fun token => !(table.moves state token).read.isEmpty

/-- All that an attempt can become by completing productions before one of the
tokens, and whether one of the tokens is read then. The first flag says whether
what reads none of the tokens is kept. The pending attempts are still to be
completed; the points reached by those already completed are not completed again.
In the first few rounds an attempt that reads none of the tokens gives way to what it
can become. The bound limits the number of attempts. -/
def completeAll (keepsAll : Bool) (tokens : List Nat) : (bound rounds : Nat) →
    (pending : List Attempt) → (reached : List (List (Nat × Nat))) →
    (kept : List Attempt) → (fits : Bool) → List Attempt × Bool
  | 0, _, pending, _, kept, fits => (kept ++ pending, fits)
  | _, _, [], _, kept, fits => (kept, fits)
  | bound + 1, rounds, attempt :: pending, reached, kept, fits =>
    let state := stateAfter table attempt.pieces
    if reached.contains (points state) then
      let kept := if kept.any attempt.agree then kept else kept ++ [attempt]
      completeAll keepsAll tokens bound (rounds + 1) pending reached kept fits
    else
      let completed := (completions table state tokens).filterMap fun number =>
        attempt.complete table number
      let reached := if kept.isEmpty then reached else points state :: reached
      if reads table state tokens then
        completeAll keepsAll tokens bound (rounds + 1) (pending ++ completed) reached
          (kept ++ [attempt]) true
      else match completed.reverse with
        | [] =>
          let kept := if keepsAll then kept ++ [attempt] else kept
          completeAll keepsAll tokens bound (rounds + 1) pending reached kept fits
        | last :: others =>
          if rounds < mostAttempts then
            completeAll keepsAll tokens bound (rounds + 1)
              (last :: pending ++ others.reverse) reached kept fits
          else
            let kept := if keepsAll then kept ++ [attempt] else kept
            completeAll keepsAll tokens bound (rounds + 1) (pending ++ completed) reached kept fits

/-- The numbers of all tokens but the end of the source. -/
def tokenNumbers : List Nat :=
  List.range (table.tokens.size - 1)

/-- What an attempt can become by completing productions before a token, or before
any token at the end of the source and in front of unreadable text; and whether
that token is read then. -/
def completeBefore (token : Option Nat) (attempt : Attempt) : List Attempt × Bool :=
  let isEnd := token = some (table.tokens.size - 1)
  let tokens := if isEnd then tokenNumbers table else token.toList
  completeAll table isEnd tokens 64 0 [attempt] [] [] false

/-! ## Supposing a token -/

/-- A token that the layout gives. -/
def isOfLayout : Token → Bool
  | .newline | .indent | .dedent | .stringStart | .stringChunk | .doubledBrace
  | .stringEnd => true
  | _ => false

/-- The tokens in the order in which they are supposed: an identifier, then what is
written, then what the layout gives. -/
def supposable : List Nat :=
  let (ofLayout, written) := (tokenNumbers table).partition fun number =>
    table.tokens[number]?.any isOfLayout
  let (identifier, others) := written.partition fun number =>
    table.tokens[number]? = some .identifier
  identifier ++ others ++ ofLayout

/-- The attempts in which a token is supposed that lets productions be completed
before the token that does not fit. -/
def supposing (lookahead : Lookahead) (attempt : Attempt) : List Attempt :=
  match lookahead.number with
  | none => []
  | some number =>
    let state := stateAfter table attempt.pieces
    ((supposable table).findSome? fun token =>
      let read := (table.moves state token).read
      if read.isEmpty then none
      else
        let next := table.close read
        if (table.moves next number).complete.isEmpty then none
        else
          let isShown := match table.tokens[token]? with
            | some token => !token.isHidden
            | none => false
          let piece := Piece.supposed next isShown attempt.place
          let supposed := { attempt with pieces := piece :: attempt.pieces }
          let (completed, fits) := completeBefore table (some number) supposed
          if fits then some completed else none).getD []

end Search

end Hygiene.Python.Repair
