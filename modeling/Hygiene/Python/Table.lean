import Hygiene.Python.Production

/-!
# The table of the grammar

The productions of the grammar with their symbols numbered, so that a set of
tokens is the set of bits of a natural number. The table also holds, for each
head,

* the tokens with which it can begin (`firsts`);
* the productions that can be under way where the head is expected, each with the
  tokens that can follow it (`openings`).
-/

set_option autoImplicit false

namespace Hygiene.Python

/-- The number of a symbol among the tokens or among the heads. -/
inductive Code where
  | token (number : Nat)
  | head (number : Nat)
  deriving DecidableEq, Repr, Inhabited

/-- A step of a production with its symbol numbered. -/
structure CodedStep where
  code : Code
  rank : Int
  side : Option Side
  shownAs : Option Kind
  role : Option Role
  deriving Inhabited

/-- A production with its symbols numbered. -/
structure CodedProduction where
  head : Nat
  steps : Array CodedStep
  weight : Int
  deriving Inhabited

/-- A production that can be under way where a head is expected. The tokens that
can follow it are those given, and, when it can end where the head ends, also the
tokens that can follow the head. -/
structure Opening where
  production : Nat
  follow : Nat
  inherits : Bool
  deriving Inhabited

/-- The numbered grammar. -/
structure Table where
  /-- The tokens by number. -/
  tokens : Array Token
  /-- The heads by number. -/
  heads : Array Symbol
  /-- The productions. The last one makes up a whole source and has no head. -/
  productions : Array CodedProduction
  /-- The tokens with which each head can begin. -/
  firsts : Array Nat
  /-- The productions under way where each head is expected. -/
  openings : Array (List Opening)

namespace Table

/-- The set of one token. -/
def single (number : Nat) : Nat := 1 <<< number

/-- The tokens with which a symbol can begin. -/
def firstOf (firsts : Array Nat) : Code → Nat
  | .token number => single number
  | .head number => firsts.getD number 0

/-- One round of the computation of the first tokens: each head can begin with
what the first step of one of its productions can begin with. -/
def growFirsts (productions : Array CodedProduction) (firsts : Array Nat) : Array Nat :=
  productions.foldl
    (fun firsts production =>
      match production.steps[0]? with
      | none => firsts
      | some step =>
        firsts.modify production.head fun known => known ||| firstOf firsts step.code)
    firsts

/-- The first tokens of each head: rounds until nothing changes, as many as the
bound allows. -/
def computeFirsts (productions : Array CodedProduction) : (bound : Nat) → Array Nat → Array Nat
  | 0, firsts => firsts
  | bound + 1, firsts =>
    let grown := growFirsts productions firsts
    if grown == firsts then firsts else computeFirsts productions bound grown

/-- What is known of the productions under way: for each production its follow
set and whether it inherits, when it is under way at all. -/
abbrev Underway := Array (Option (Nat × Bool))

/-- Adds the productions of a head with a follow set; the numbers of those for
which something new was learnt are put in front of the pending ones. -/
def addOpenings (byHead : Array (List Nat)) (head follow : Nat) (inherits : Bool)
    (underway : Underway) (pending : List Nat) : Underway × List Nat :=
  (byHead.getD head []).foldl
    (fun (underway, pending) production =>
      match (underway.getD production none) with
      | none => (underway.setIfInBounds production (some (follow, inherits)), production :: pending)
      | some (known, knownInherits) =>
        let merged := (known ||| follow, knownInherits || inherits)
        if merged = (known, knownInherits) then (underway, pending)
        else (underway.setIfInBounds production (some merged), production :: pending))
    (underway, pending)

/-- Follows the first steps of the pending productions until nothing new is
learnt, as long as the bound allows. -/
def spread (productions : Array CodedProduction) (byHead : Array (List Nat))
    (firsts : Array Nat) : (bound : Nat) → Underway → List Nat → Underway
  | 0, underway, _ => underway
  | _, underway, [] => underway
  | bound + 1, underway, production :: pending =>
    match productions[production]?, underway.getD production none with
    | some coded, some (follow, inherits) =>
      match coded.steps[0]?.map CodedStep.code, coded.steps[1]? with
      | some (.head head), some next =>
        let (underway, pending) :=
          addOpenings byHead head (firstOf firsts next.code) false underway pending
        spread productions byHead firsts bound underway pending
      | some (.head head), none =>
        let (underway, pending) := addOpenings byHead head follow inherits underway pending
        spread productions byHead firsts bound underway pending
      | _, _ => spread productions byHead firsts bound underway pending
    | _, _ => spread productions byHead firsts bound underway pending

/-- The productions under way where a head is expected. -/
def openingsOf (productions : Array CodedProduction) (byHead : Array (List Nat))
    (firsts : Array Nat) (head : Nat) : List Opening :=
  let empty : Underway := Array.replicate productions.size none
  let (underway, pending) := addOpenings byHead head 0 true empty []
  let spreadOut := spread productions byHead firsts (64 * productions.size) underway pending
  (List.range productions.size).filterMap fun production =>
    (spreadOut.getD production none).map fun (follow, inherits) =>
      ⟨production, follow, inherits⟩

/-- The symbols in the steps of some productions. -/
def symbolsOf (productions : List (List Production)) : List Symbol :=
  productions.flatMap fun own => own.flatMap fun production => production.steps.map Step.symbol

/-- The tokens of the grammar: those in its productions, then those that can stand
between any two others, then the end of the source. -/
def grammarTokens (productions : List (List Production)) : List Token :=
  ((symbolsOf productions).filterMap fun
    | .token token => some token
    | _ => none).eraseDups ++ [.comment, .lineContinuation, .endOfSource]

/-- The number of a symbol. -/
def code (tokens : List Token) (heads : List Symbol) : Symbol → Code
  | .token token => .token (tokens.idxOf token)
  | other => .head (heads.idxOf other)

/-- A production with its symbols numbered. -/
def codeProduction (tokens : List Token) (heads : List Symbol) (head : Nat)
    (production : Production) : CodedProduction :=
  { head, weight := production.weight,
    steps := (production.steps.map fun step =>
      { code := code tokens heads step.symbol, rank := step.rank.getD 0, side := step.side,
        shownAs := step.shownAs, role := step.role }).toArray }

/-- The table of the grammar whose heads have the given productions. The first head
is the whole source. -/
def build (heads : List Symbol) (productions : List (List Production)) : Table :=
  let tokens := grammarTokens productions
  let wholeStep : CodedStep :=
    { code := .head 0, rank := 0, side := none, shownAs := none, role := none }
  let whole : CodedProduction := { head := heads.length, steps := #[wholeStep], weight := 0 }
  let coded := (productions.zipIdx.flatMap fun entry =>
    entry.1.map (codeProduction tokens heads entry.2)) ++ [whole] |>.toArray
  let byHead := coded.zipIdx.foldr
    (fun entry byHead => byHead.modify entry.1.head fun numbers => entry.2 :: numbers)
    (Array.replicate heads.length [])
  let firsts := computeFirsts coded (heads.length + 1) (Array.replicate heads.length 0)
  { tokens := tokens.toArray, heads := heads.toArray, productions := coded, firsts,
    openings := ((List.range heads.length).map (openingsOf coded byHead firsts)).toArray }

/-- The number of a token. -/
def tokenNumber (table : Table) (token : Token) : Nat :=
  table.tokens.toList.idxOf token

end Table

/-- The table of the grammar. -/
def grammarTable : Table :=
  Table.build Grammar.heads (Grammar.heads.map Grammar.productions)

end Hygiene.Python
