import Hygiene.Text.Basic

/-!
# Glob patterns

A pattern is a sequence of pieces. Besides characters there are `?`, `*`,
classes in brackets and groups in braces, whose branches stand between commas.
`**` reaches across directories where it stands for whole components: at the
beginning of a branch, between slashes and behind the last slash. Elsewhere it is
two single stars. A backslash takes the meaning from the next character.

A pattern is read character by character. What is read of it is kept in a draft,
with the groups that are still open; a step can take several characters at once,
and the reading then skips those that it has taken.
-/

set_option autoImplicit false

namespace Hygiene.Glob

/-- A piece of a pattern. -/
inductive Piece where
  /-- A character that stands for itself. -/
  | char (c : Char)
  /-- `?`: something other than a slash. -/
  | any
  /-- `*`: any amount of what is no slash. -/
  | star
  /-- `**` at the beginning, with the slash behind it: any directories or none. -/
  | leading
  /-- `**` at the end, with the slash before it: everything below. -/
  | trailing
  /-- `**` with a slash on both sides: a slash, with or without directories. -/
  | between
  /-- A class: what lies in one of the ranges, or outside all of them. -/
  | oneOf (negated : Bool) (ranges : List (Char × Char))
  /-- A group: one of its branches. A group without branches stands for nothing. -/
  | choice (branches : List (List Piece))
  deriving Repr

/-- A pattern. -/
abbrev Pattern := List Piece

/-- Why a text is no pattern. -/
inductive Fault where
  | unclosedClass
  | invalidRange (low high : Char)
  | unopenedGroup
  | unclosedGroup
  | danglingEscape
  deriving DecidableEq, Repr

namespace Fault

/-- What is said of a fault. -/
def reason : Fault → String
  | unclosedClass => "unclosed character class; missing ']'"
  | invalidRange low high =>
    "invalid range; '" ++ low.toString ++ "' > '" ++ high.toString ++ "'"
  | unopenedGroup =>
    "unopened alternate group; missing '\x7b' (maybe escape '\x7d' with '[\x7d]'?)"
  | unclosedGroup =>
    "unclosed alternate group; missing '\x7d' (maybe escape '\x7b' with '[\x7b]'?)"
  | danglingEscape => "dangling '\\'"

/-- What is said of a fault in a given pattern. -/
def message (pattern : Text) (fault : Fault) : String :=
  "error parsing glob '" ++ String.ofList pattern ++ "': " ++ fault.reason

end Fault

/-! ## Classes -/

/-- The ranges of a class, from the text behind its opening bracket or negation on, and
the number of characters through the closing bracket. The ranges that were read are kept
with the last one first. A closing bracket or a hyphen at the front is a member, and so
is a hyphen at the end. Without a closing bracket there is no class. -/
def readRanges (atFront inRange : Bool) (ranges : List (Char × Char)) (taken : Nat) :
    Text → Except Fault (Option (List (Char × Char) × Nat))
  | [] => .ok none
  | c :: rest =>
    if c = ']' && !atFront then
      .ok (some ((if inRange then ('-', '-') :: ranges else ranges).reverse, taken + 1))
    else if c = '-' && !atFront && !inRange then readRanges false true ranges (taken + 1) rest
    else match inRange, ranges with
      | true, (low, _) :: others =>
        if c < low then .error (.invalidRange low c)
        else readRanges false false ((low, c) :: others) (taken + 1) rest
      | _, _ => readRanges false false ((c, c) :: ranges) (taken + 1) rest

/-- The class whose opening bracket stands before the text, and the number of characters
that it takes from the text. -/
def readClass (text : Text) : Except Fault (Option (Piece × Nat)) :=
  let negated := text.head? == some '!' || text.head? == some '^'
  let sign := if negated then 1 else 0
  (readRanges true false [] sign (text.drop sign)).map fun read =>
    read.map fun (ranges, taken) => (.oneOf negated ranges, taken)

/-! ## Drafts -/

/-- A group that is still open: the pieces before it and its finished branches, in both
cases with the last one first. -/
structure OpenGroup where
  before : List Piece
  branches : List (List Piece)

/-- A pattern while it is read. -/
structure Draft where
  /-- The open groups, the innermost one first. -/
  groups : List OpenGroup
  /-- The pieces of the branch that is read, the last one first. -/
  branch : List Piece
  /-- A bracket was found that is never closed, so further ones are characters. -/
  bracketsAreText : Bool

namespace Draft

/-- The draft before anything is read. -/
def empty : Draft := ⟨[], [], false⟩

/-- A piece is added to the branch. -/
def push (draft : Draft) (piece : Piece) : Draft :=
  { draft with branch := piece :: draft.branch }

/-- A group begins. -/
def openGroup (draft : Draft) : Draft :=
  { draft with groups := ⟨draft.branch, []⟩ :: draft.groups, branch := [] }

/-- A comma ends a branch inside a group. Outside it is a character. -/
def comma (draft : Draft) : Draft :=
  match draft.groups with
  | [] => draft.push (.char ',')
  | group :: outer =>
    let branches := draft.branch.reverse :: group.branches
    { draft with groups := { group with branches := branches } :: outer, branch := [] }

/-- Whether a branch stands for nothing but the empty text. -/
def isVoid (branch : List Piece) : Bool :=
  branch.all fun
    | .choice [] => true
    | _ => false

/-- The innermost group ends. Its void branches are no choices. -/
def closeGroup (draft : Draft) : Except Fault Draft :=
  match draft.groups with
  | [] => .error .unopenedGroup
  | group :: outer =>
    let branches := (draft.branch.reverse :: group.branches).reverse
    let choice := Piece.choice (branches.filter fun branch => !isVoid branch)
    .ok { draft with groups := outer, branch := choice :: group.before }

/-- The last piece is replaced by one that reaches across directories. It is the slash
before the stars, or a piece that reaches across them already and is kept. -/
def reach (draft : Draft) (piece : Piece) : Draft :=
  match draft.branch with
  | [] => draft.push piece
  | last :: before =>
    match last with
    | .leading | .trailing => draft
    | _ => { draft with branch := piece :: before }

/-- Stars, when `previous` stands before the first one and `rest` behind it. The number
tells how many further characters they take. -/
def stars (draft : Draft) (previous : Option Char) (rest : Text) : Draft × Nat :=
  match rest with
  | '*' :: behind =>
    let single := (draft.push .star |>.push .star, 1)
    let inGroup := !draft.groups.isEmpty
    if draft.branch.isEmpty then
      match behind with
      | [] => (draft.push .leading, 1)
      | '/' :: _ => (draft.push .leading, 2)
      | _ => single
    else if !(previous == some '/' ||
        (inGroup && (previous == some ',' || previous == some '\x7b'))) then single
    else match behind with
      | [] => (draft.reach .trailing, 1)
      | '/' :: _ => (draft.reach .between, 2)
      | c :: _ => if inGroup && (c = ',' || c = '\x7d') then (draft.reach .trailing, 1) else single
  | _ => (draft.push .star, 0)

/-- A bracket. With `lenient` one that is never closed is a character. -/
def bracket (lenient : Bool) (draft : Draft) (rest : Text) : Except Fault (Draft × Nat) :=
  if draft.bracketsAreText then .ok (draft.push (.char '['), 0)
  else do
    match ← readClass rest with
    | some (piece, taken) => return (draft.push piece, taken)
    | none =>
      if lenient then return ({ draft.push (.char '[') with bracketsAreText := true }, 0)
      else throw .unclosedClass

/-- One character, with the one before it and what stands behind it. The number tells
how many further characters are taken with it. -/
def step (lenient : Bool) (draft : Draft) (previous : Option Char) (c : Char) (rest : Text) :
    Except Fault (Draft × Nat) :=
  match c with
  | '?' => .ok (draft.push .any, 0)
  | '*' => .ok (draft.stars previous rest)
  | '[' => draft.bracket lenient rest
  | '\x7b' => .ok (draft.openGroup, 0)
  | '\x7d' => draft.closeGroup.map fun closed => (closed, 0)
  | ',' => .ok (draft.comma, 0)
  | '\\' =>
    match rest with
    | [] => .error .danglingEscape
    | escaped :: _ => .ok (draft.push (.char escaped), 1)
  | _ => .ok (draft.push (.char c), 0)

/-- The draft after the text, of which the first characters are skipped. -/
def read (lenient : Bool) : (skipped : Nat) → Option Char → Draft → Text → Except Fault Draft
  | _, _, draft, [] => .ok draft
  | skipped + 1, _, draft, c :: rest => read lenient skipped (some c) draft rest
  | 0, previous, draft, c :: rest => do
    let (next, taken) ← draft.step lenient previous c rest
    read lenient taken (some c) next rest

end Draft

/-- The pattern that a text writes down. -/
def readPattern (lenient : Bool) (text : Text) : Except Fault Pattern := do
  let draft ← Draft.read lenient 0 none Draft.empty text
  if draft.groups.isEmpty then return draft.branch.reverse
  else throw .unclosedGroup

/-- The pattern that a text writes down, where every bracket must be closed. -/
def read (text : Text) : Except Fault Pattern :=
  readPattern false text

end Hygiene.Glob
