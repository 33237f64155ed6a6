import Hygiene.Python.Automaton
import Hygiene.Python.Layout
import Hygiene.Python.Lexeme

/-!
# Parsing

A reading is a stack of the parts read so far, each with the state reached after
it. A token extends a reading after the productions that end before it have been
completed; where the automaton leaves both open a reading forks. Readings of the
same text that reach the same states are one reading from then on, and the
preferred parts are kept: those of greater weight, then those whose phrases come
first in the grammar, then those with fewer parts.

Comments and joined lines can stand between any two tokens. They are laid aside:
they belong to the phrase around them and change no state.
-/

set_option autoImplicit false

namespace Hygiene.Python

/-- What has been read of a source: a token, something laid aside, or a phrase with
its production, its weight and its parts. -/
inductive Part where
  | token (number : Nat) (first last : Place)
  | aside (number : Nat) (first last : Place)
  | phrase (production : Nat) (weight : Int) (parts : List Part)
  deriving Inhabited

namespace Part

/-- The weight of a part. -/
def weight : Part → Int
  | phrase _ weight _ => weight
  | _ => 0

/-- Whether a part is laid aside. -/
def isAside : Part → Bool
  | aside _ _ _ => true
  | _ => false

mutual

/-- The order of two parts of equal weight: the one that comes first is preferred. -/
def compare (table : Table) : Part → Part → Ordering
  | .phrase production _ parts, .phrase other _ otherParts =>
    let head (number : Nat) : Nat := (table.productions.getD number default).head
    (Ord.compare (head production) (head other)).then
      ((Ord.compare parts.length otherParts.length).then (compareAll table parts otherParts))
  | .phrase _ _ _, _ => .gt
  | _, .phrase _ _ _ => .lt
  | .token number _ _, .token other _ _ => Ord.compare number other
  | .token number _ _, .aside other _ _ => Ord.compare number other
  | .aside number _ _, .token other _ _ => Ord.compare number other
  | .aside number _ _, .aside other _ _ => Ord.compare number other

/-- The order of the first parts that differ. -/
def compareAll (table : Table) : List Part → List Part → Ordering
  | [], _ => .eq
  | _, [] => .eq
  | part :: parts, other :: others =>
    (compare table part other).then (compareAll table parts others)

end

end Part

/-- A part with the state reached after it. -/
structure Frame where
  part : Part
  state : State

/-- One reading of the source up to a place, innermost part first. -/
structure Reading where
  frames : List Frame
  place : Place
  layout : Layout

/-- A token with its number and extent, and the memory of the layout after it. -/
structure ReadToken where
  number : Nat
  token : Token
  first : Place
  last : Place
  layout : Layout

namespace Reading

variable (table : Table)

/-- The state of a stack. -/
def stateOf (frames : List Frame) : State :=
  match frames with
  | [] => table.start
  | frame :: _ => frame.state

/-- Which tokens of the layout are welcome, among those that are welcome at all. -/
def layoutWelcome (welcome : List Token) : LayoutWelcome :=
  { newline := welcome.contains .newline, indent := welcome.contains .indent,
    dedent := welcome.contains .dedent, stringStart := welcome.contains .stringStart,
    stringChunk := welcome.contains .stringChunk,
    doubledBrace := welcome.contains .doubledBrace,
    closing := welcome.contains (.mark "]") || welcome.contains (.mark ")") ||
      welcome.contains (.mark "\x7d") }

/-- The tokens that can extend a stack, and those that can be laid aside. -/
def welcomeTokens (state : State) : List Token :=
  let set := table.welcome state
  (table.tokens.toList.zipIdx.filter fun (token, number) =>
    set.testBit number || token = .comment || token = .lineContinuation).map Prod.fst

/-- The place after a byte order mark at the front of a source. -/
def afterMark (place : Place) : Place :=
  if place.offset = 0 && place.rest.head? = some '\ufeff' then place.next else place

/-- The next token of a reading. -/
def nextToken? (reading : Reading) : Option ReadToken :=
  let welcome := welcomeTokens table (stateOf table reading.frames)
  let place := afterMark reading.place
  match reading.layout.token? (layoutWelcome welcome) place with
  | some found =>
    some ⟨table.tokenNumber found.token, found.token, found.first, found.last, found.layout⟩
  | none =>
    (Lexeme.token? welcome place).map fun (token, first, last) =>
      ⟨table.tokenNumber token, token, first, last, reading.layout⟩

/-- The parts of a phrase taken off a stack, first part first, when the phrase has
the given number of parts that are not laid aside. -/
def takeParts : (count : Nat) → List Frame → List Part → List Part × List Frame
  | 0, frames, parts => (parts, frames)
  | _, [], parts => (parts, [])
  | count + 1, frame :: frames, parts =>
    if frame.part.isAside then takeParts (count + 1) frames (frame.part :: parts)
    else takeParts count frames (frame.part :: parts)

/-- The stack after a production is completed. What was laid aside on top of the
stack stays there. -/
def complete (production : Nat) (frames : List Frame) : Option (List Frame) :=
  let coded := table.productions.getD production default
  let asides := if coded.steps.isEmpty then [] else
    frames.takeWhile fun frame => frame.part.isAside
  let (parts, below) := takeParts coded.steps.size (frames.drop asides.length) []
  let weight := parts.foldl (fun sum part => sum + part.weight) coded.weight
  (table.goto? (stateOf table below) coded.head).map fun state =>
    asides.map (fun frame => { frame with state }) ++
      { part := .phrase production weight parts, state } :: below

/-- What becomes of a stack at a token: the stacks that read it, and the stacks
that make up a whole source. -/
structure Outcome where
  extended : List (List Frame)
  whole : List (List Frame)

/-- Completes productions and reads the token, in every way, on all pending stacks.
The bound limits the number of stacks that are looked at. -/
def extend (token : ReadToken) : (bound : Nat) → List (List Frame) → Outcome → Outcome
  | 0, _, outcome => outcome
  | _, [], outcome => outcome
  | bound + 1, frames :: pending, outcome =>
    let state := stateOf table frames
    let moves := table.moves state token.number
    let completed := moves.complete.filterMap fun production =>
      if production + 1 = table.productions.size then none else complete table production frames
    let whole := if moves.complete.any fun production => production + 1 = table.productions.size
      then [frames] else []
    let part := Part.token token.number token.first token.last
    let extended := if moves.read.isEmpty then []
      else [{ part, state := table.close moves.read } :: frames]
    extend token bound (completed ++ pending)
      ⟨outcome.extended ++ extended, outcome.whole ++ whole⟩

/-- The states of a stack. -/
def states (frames : List Frame) : List (List Item) :=
  frames.map fun frame => frame.state.kernel

/-- Whether the parts of the first stack are preferred to those of the second. -/
def isPreferred (first second : List Frame) : Bool :=
  let total (frames : List Frame) : Int :=
    frames.foldl (fun sum frame => sum + frame.part.weight) 0
  if total first = total second then
    Part.compareAll table (first.map Frame.part).reverse (second.map Frame.part).reverse != .gt
  else total second < total first

/-- Adds a reading to others, keeping the preferred one of two readings that have
come to the same. -/
def insert (reading : Reading) : List Reading → List Reading
  | [] => [reading]
  | other :: others =>
    if reading.place.offset = other.place.offset && reading.layout = other.layout &&
        states reading.frames = states other.frames then
      (if isPreferred table other.frames reading.frames then other else reading) :: others
    else other :: insert reading others

/-- The readings after the next token of a reading, and the whole sources that end
there. -/
def step (reading : Reading) : List Reading × List (List Frame) :=
  match reading.nextToken? table with
  | none => ([], [])
  | some token =>
    if token.token = .comment || token.token = .lineContinuation then
      let part := Part.aside token.number token.first token.last
      let frame : Frame := { part, state := stateOf table reading.frames }
      ([{ frames := frame :: reading.frames, place := token.last, layout := token.layout }], [])
    else
      let bound := 64 * (reading.frames.length + 16)
      let outcome := extend table token bound [reading.frames] ⟨[], []⟩
      (outcome.extended.map fun frames =>
        { frames, place := token.last, layout := token.layout }, outcome.whole)

/-- The reading that has come least far, and the others. -/
def pickEarliest : List Reading → Option (Reading × List Reading)
  | [] => none
  | reading :: others =>
    match pickEarliest others with
    | none => some (reading, [])
    | some (earliest, rest) =>
      if earliest.place.offset < reading.place.offset then some (earliest, reading :: rest)
      else some (reading, earliest :: rest)

/-- Runs all readings to the end of the source, and collects the stacks that make up
a whole source. The bound limits the number of tokens that are read. -/
def run : (bound : Nat) → List Reading → List (List Frame) → List (List Frame)
  | 0, _, whole => whole
  | bound + 1, readings, whole =>
    match pickEarliest readings with
    | none => whole
    | some (reading, others) =>
      let (next, ended) := reading.step table
      run bound (next.foldl (fun readings reading => insert table reading readings) others)
        (whole ++ ended)

/-- The preferred one of several stacks. -/
def preferred? : List (List Frame) → Option (List Frame)
  | [] => none
  | frames :: others =>
    match preferred? others with
    | none => some frames
    | some best => some (if isPreferred table frames best then frames else best)

/-- The parts of a source, when it can be read. -/
def parts? (source : Text) : Option (List Part) :=
  let reading : Reading := { frames := [], place := .start source, layout := .start }
  (preferred? table (run table (64 * (source.length + 16)) [reading] [])).map fun frames =>
    (frames.map Frame.part).reverse

end Reading

end Hygiene.Python
