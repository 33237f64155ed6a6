import Hygiene.Python.Repair
import Hygiene.Python.Tree

/-!
# From a source to its tree

The parts that a source was read by become its tree: hidden phrases and tokens
give way to their children, and the steps of each production say under which kind
and in which role a part shows. A role given to a hidden part is the role of what
shows in its place.
-/

set_option autoImplicit false

namespace Hygiene.Python

namespace Part

mutual

/-- The place where a part begins. -/
def first? : Part → Option Place
  | .token _ first _ => some first
  | .aside _ first _ => some first
  | .phrase _ _ parts => firstOfAll? parts

/-- The place where the first of several parts begins. -/
def firstOfAll? : List Part → Option Place
  | [] => none
  | part :: parts => (first? part).or (firstOfAll? parts)

end

mutual

/-- The place where a part ends. -/
def last? : Part → Option Place
  | .token _ _ last => some last
  | .aside _ _ last => some last
  | .phrase _ _ parts => lastOfAll? parts

/-- The place where the last of several parts ends. -/
def lastOfAll? : List Part → Option Place
  | [] => none
  | part :: parts => (lastOfAll? parts).or (last? part)

end

end Part

namespace Tree

/-- A node that covers the text between two places. -/
def between (kind : Kind) (role : Option Role) (first last : Option Place)
    (children : List Tree) : Tree :=
  match first, last with
  | some first, some last => .node kind role ⟨first.line, first.column⟩ (first.textTo last) children
  | _, _ => .node kind role ⟨0, 0⟩ [] children

/-- The tree in a role, when it has none yet. Comments and joined lines have no
role. -/
def inRole (role : Option Role) : Tree → Tree
  | .node kind own start text children =>
    if kind = .token .comment || kind = .token .lineContinuation then
      .node kind own start text children
    else .node kind (own.or role) start text children

variable (table : Table)

/-- The kind of a token when it shows under its own name. -/
def tokenKind? (number : Nat) : Option Kind :=
  match table.tokens[number]? with
  | some token => if token.isHidden then none else some (.token token)
  | none => none

/-- The kind of a phrase when it shows under its own name. -/
def phraseKind? (production : Nat) : Option Kind :=
  match table.heads[(table.productions.getD production default).head]? with
  | some (.phrase phrase) => if phrase.isHidden then none else some (.phrase phrase)
  | _ => none

/-- The nodes of a leaf. -/
def leaves (kind : Option Kind) (role : Option Role) (first last : Place) : List Tree :=
  match kind with
  | some kind => [between kind role (some first) (some last) []]
  | none => []

mutual

/-- The nodes as which a part shows, under a kind and in a role that the step gave
it. -/
def ofPart (shownAs : Option Kind) (role : Option Role) : Part → List Tree
  | .token number first last =>
    leaves (shownAs.or (tokenKind? table number)) role first last
  | .aside number first last => leaves (tokenKind? table number) none first last
  | .phrase production _ parts =>
    let steps := (table.productions.getD production default).steps.toList
    let children := ofParts steps parts
    match shownAs.or (phraseKind? table production) with
    | some kind =>
      [between kind role (Part.firstOfAll? parts) (Part.lastOfAll? parts) children]
    | none => children.map (inRole role)

/-- The nodes as which the parts of a phrase show, each with its own step. -/
def ofParts : List CodedStep → List Part → List Tree
  | _, [] => []
  | steps, .aside number first last :: parts =>
    leaves (tokenKind? table number) none first last ++ ofParts steps parts
  | [], part :: parts => ofPart none none part ++ ofParts [] parts
  | step :: steps, part :: parts =>
    ofPart step.shownAs step.role part ++ ofParts steps parts

end

/-- The parts of a whole source: what was laid aside beside its root belongs to the
root. -/
def ofWhole (source : Text) (parts : List Part) : Tree :=
  let children := parts.flatMap fun part =>
    match part with
    | .phrase production _ inner =>
      ofParts table (table.productions.getD production default).steps.toList inner
    | other => ofPart table none none other
  .node (.phrase .source) none ⟨0, 0⟩ source children

end Tree

/-! ## The tree of a source -/

/-- The tree of a source when the grammar takes it, and otherwise the line of the
first fault, counted from one. -/
def parse (source : Text) : Except Nat Tree :=
  match Reading.parts? grammarTable source with
  | some parts => .ok (Tree.ofWhole grammarTable source parts)
  | none => .error (Repair.faultLine grammarTable source)

end Hygiene.Python
