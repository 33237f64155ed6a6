import Hygiene.Python.Repair.Attempt

/-!
# Searching among attempts

Several attempts at a source are pursued side by side. A search holds those that
are still pursued, in order of rank as far as they have been compared, and the best
ending that was reached. There is room for few attempts, and those that have come
to the same are one from then on.
-/

set_option autoImplicit false

namespace Hygiene.Python.Repair

/-- A whole source as it was read at last. -/
structure Ending where
  price : Nat
  weight : Int
  /-- The line of the first fault, counted from zero. -/
  fault : Option Nat

/-- The attempts that are pursued, and the best one that has reached the end. -/
structure Search where
  attempts : List Attempt
  ending : Option Ending
  /-- How many attempts have reached the end. -/
  endings : Nat

namespace Search

/-- The number of attempts that are pursued from one round to the next. -/
def mostAttempts : Nat := 6

/-- The number of attempts that are pursued within a round. -/
def mostAttemptsInRound : Nat := 10

/-- The search with one attempt replaced. -/
def withAttempt (search : Search) (index : Nat) (attempt : Attempt) : Search :=
  { search with attempts := search.attempts.set index attempt }

/-- The search with one more attempt, and its index. An attempt that agrees with
another one is merged into it, and there is no room for too many. -/
def add (search : Search) (from? : Option Nat) (attempt : Attempt) : Search × Option Nat :=
  let merged := search.attempts.zipIdx.findIdx? fun (other, index) =>
    some index ≠ from? && other.agree attempt
  match merged with
  | some index =>
    ({ search with attempts := search.attempts.modify index (·.preferred attempt) }, none)
  | none =>
    if mostAttemptsInRound < search.attempts.length then (search, none)
    else ({ search with attempts := search.attempts ++ [attempt] }, some search.attempts.length)

/-- The search with an attempt given up. -/
def giveUp (search : Search) (index : Nat) : Search :=
  { search with
    attempts := search.attempts.modify index fun attempt => { attempt with status := .over } }

/-- The search with one attempt moved to the index of another. -/
def moveTo (search : Search) (source target : Nat) : Search :=
  match search.attempts[source]? with
  | some attempt =>
    { search with attempts := (search.attempts.set target attempt).eraseIdx source }
  | none => search

/-- The better one of two endings; the later one when both are equally faulty. -/
def betterEnding (ending : Option Ending) (other : Ending) : Ending :=
  match ending with
  | none => other
  | some ending =>
    if other.price < ending.price then other
    else if ending.price < other.price then ending
    else if ending.weight < other.weight then other
    else if other.weight < ending.weight then ending
    else if 0 < ending.price then other
    else ending

/-- The search with an attempt that has reached the end in one or several ways. -/
def finish (search : Search) (index : Nat) (endings : List Ending) : Search :=
  let search := search.giveUp index
  { search with
    ending := endings.foldl (fun best other => some (betterEnding best other)) search.ending,
    endings := search.endings + endings.length }

/-- Whether an attempt that would come to a price is worse than another one, or than
an ending. -/
def isSurpassed (search : Search) (index : Nat) (attempt : Attempt) (price : Nat) : Bool :=
  (search.ending.any fun ending => ending.price ≤ price) ||
    search.attempts.zipIdx.any fun (other, number) =>
      number ≠ index && other.isActive && attempt.place.offset ≤ other.place.offset &&
        Attempt.Rank.contest ⟨price, attempt.progress, attempt.weight, false⟩ other.rank =
          .secondPrevails

end Search

end Hygiene.Python.Repair
