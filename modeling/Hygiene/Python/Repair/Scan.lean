import Hygiene.Python.Repair.Attempt

/-!
# The next token of an attempt

An attempt that is not broken reads the tokens that its state welcomes, and those
that cannot be confused with them, so that a token out of place is found as such.
Where this gives no token, and in an attempt that is broken, any token is read that
the grammar knows; text at which no token begins is taken together up to the place
where one does.

A token without extent is of no use behind a repair, unless it changes the memory
of the layout: without that condition an attempt could read it for ever.
-/

set_option autoImplicit false

namespace Hygiene.Python.Repair

namespace Attempt

variable (table : Table)

/-- Whether text was read on a stack since a repair. The stack stands on a piece
that ends at the given offset. -/
def hasAdvanced (bottom : Nat) : List Piece → Bool
  | [] => false
  | piece :: under =>
    let before := (under.head?.map fun piece => piece.last.offset).getD bottom
    if before < piece.last.offset then true
    else piece.price = 0 && hasAdvanced bottom under

/-- Whether a token without extent can be read. -/
def takesEmptyTokens (attempt : Attempt) : Bool :=
  attempt.below.isNone && (attempt.piecesPrice = 0 || hasAdvanced 0 attempt.pieces)

/-- Whether a token is a keyword. -/
def isKeyword : Token → Bool
  | .mark spelling => Lexeme.isWord spelling
  | _ => false

/-- The tokens that are read where any token is, with the keywords that are
welcome. The text of a format specifier would swallow all others. -/
def anyToken (keywords : List Token) : List Token :=
  (table.tokens.toList.filter fun token => !isKeyword token && token ≠ .formatText) ++
    keywords.filter isKeyword

/-- All keywords. -/
def allKeywords : List Token := table.tokens.toList.filter isKeyword

/-- All tokens of the layout are welcome. -/
def anyLayout : LayoutWelcome := ⟨true, true, true, true, true, true, true⟩

/-- The token at a place, when there is one of the given ones. -/
def scanAt (layout : Layout) (welcome : LayoutWelcome) (tokens : List Token)
    (takesEmpty : Bool) (place : Place) : Option Lookahead :=
  let lexeme := (Lexeme.token? tokens place).map fun (token, first, last) =>
    { number := some (table.tokenNumber token), first, last, layout : Lookahead }
  match layout.token? welcome place with
  | some found =>
    if found.last.offset = place.offset && !takesEmpty && found.layout = layout then lexeme
    else some ⟨some (table.tokenNumber found.token), found.first, found.last, found.layout⟩
  | none => lexeme

/-- The text up to the place where a token begins. The bound is at least the number
of characters that are left. -/
def unreadable (layout : Layout) (tokens : List Token) (first : Place) :
    (bound : Nat) → (last : Place) → Lookahead
  | 0, last => ⟨none, first, last, layout⟩
  | bound + 1, last =>
    match scanAt table layout anyLayout tokens false last with
    | some _ => ⟨none, first, last, layout⟩
    | none =>
      unreadable layout tokens first bound
        (last.skip (Lexeme.runLength Lexeme.isSeparator last.rest)).next

/-- The token at a place, or the text up to the next one. -/
def scanAny (layout : Layout) (tokens : List Token) (place : Place) : Lookahead :=
  match scanAt table layout anyLayout tokens false place with
  | some found => found
  | none =>
    let first := place.skip (Lexeme.runLength Lexeme.isSeparator place.rest)
    unreadable table layout tokens first place.rest.length first.next

/-- The tokens that are read beside the welcome ones because they cannot be confused
with any of them. After a value, where a dot is welcome and three dots are not, three
dots would hide the dot; no number begins there either. Where an arrow, a starred
keyword, the text of a format specifier or an escape is welcome, nothing else is
read. -/
def harmless (welcome : List Token) : List Token :=
  let confusing : List Token := [.mark "->", .mark "except*", .formatText, .escapeSequence]
  let afterValue := welcome.contains (.mark ".") && !welcome.contains (.mark "...")
  if confusing.any welcome.contains then []
  else table.tokens.toList.filter fun
    | .identifier => true
    | .integer | .float | .endOfSource => !afterValue
    | .typeConversion => afterValue
    | .mark spelling =>
      !Lexeme.isWord spelling && !confusing.contains (.mark spelling) &&
        !(afterValue && spelling = "...")
    | _ => false

/-- The next token of an attempt. -/
def scan (attempt : Attempt) : Lookahead :=
  let place := Reading.afterMark attempt.place
  match attempt.state? table with
  | none => scanAny table attempt.layout (anyToken table (allKeywords table)) place
  | some state =>
    let welcome := Reading.welcomeTokens table state
    match scanAt table attempt.layout (Reading.layoutWelcome welcome)
        (welcome ++ harmless table welcome) attempt.takesEmptyTokens place with
    | some found => found
    | none => scanAny table attempt.layout (anyToken table welcome) place

end Attempt

end Hygiene.Python.Repair
