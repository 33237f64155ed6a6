import Hygiene.Python.Automaton
import Hygiene.Python.Place

/-!
# Pieces of a broken source

A source that the grammar refuses can still be read when it is repaired: tokens
are passed over, phrases that lead nowhere are set aside as faulty, or a token is
supposed that is not there. Each repair has a price, so that of several ways to
repair a source the cheapest can be told.

A piece is what has been read of such a source, as far as repairs are concerned:
its extent, its price, and the line of the first fault in it. The price of a
faulty piece covers what it takes to set it aside, the tokens and phrases that
show in it, and its length in bytes and lines.
-/

set_option autoImplicit false

namespace Hygiene.Python.Repair

/-! ## Prices -/

/-- What the parts of a repair cost. -/
structure Prices where
  /-- A repair of any kind. -/
  repair : Nat
  /-- A token that is supposed. -/
  missing : Nat
  /-- A token or phrase that shows in a faulty piece. -/
  part : Nat
  /-- A byte of a faulty piece. -/
  byte : Nat
  /-- A line end in a faulty piece. -/
  line : Nat

/-- The prices by which repairs are chosen. -/
def prices : Prices := { repair := 500, missing := 110, part := 100, byte := 1, line := 30 }

/-- The number of encoded bytes between two places. -/
def bytesBetween (first last : Place) : Nat :=
  (first.textTo last).foldl (fun sum c => sum + c.utf8Size) 0

/-- The price of the text between two places. -/
def extentPrice (first last : Place) : Nat :=
  prices.byte * bytesBetween first last + prices.line * (last.line - first.line)

/-! ## Pieces -/

/-- What a piece is to the repair of a source. -/
inductive Nature where
  /-- A token or a phrase. -/
  | sound
  /-- A comment or a joined line, which can stand anywhere. -/
  | aside
  /-- Pieces that are set aside as faulty, which can then stand anywhere. -/
  | fault
  /-- Tokens that are passed over in search of one at which to go on. -/
  | passed
  /-- Text that is no token. -/
  | unreadable
  deriving DecidableEq, Repr

/-- A piece of a source, with the state of the automaton after it. -/
structure Piece where
  nature : Nature
  state : State
  first : Place
  last : Place
  /-- Whether the piece shows in the tree under a name or a spelling of its own. -/
  isShown : Bool
  /-- How many pieces show directly below it. -/
  shownParts : Nat
  /-- The number of tokens and phrases in the piece. -/
  size : Nat
  price : Nat
  /-- The price of what is in a faulty piece, without the piece itself. -/
  contents : Nat
  weight : Int
  /-- Whether the piece is a token that is only supposed. -/
  isSupposed : Bool
  /-- The line of the first fault that shows, counted from zero. -/
  fault : Option Nat

namespace Piece

/-- Whether a piece can stand anywhere and changes no state. -/
def standsAnywhere (piece : Piece) : Bool :=
  piece.nature = .aside || piece.nature = .fault

/-- How many pieces show for a piece in the phrase around it. -/
def shownCount (piece : Piece) : Nat :=
  if piece.isShown then 1 else piece.shownParts

/-- A piece of one token. -/
def ofToken (nature : Nature) (state : State) (isShown : Bool) (first last : Place) : Piece :=
  { nature, state, first, last, isShown, shownParts := 0, size := 1, price := 0, contents := 0,
    weight := 0, isSupposed := false, fault := none }

/-- A token that is supposed to stand at a place. It is at fault where it shows. -/
def supposed (state : State) (isShown : Bool) (place : Place) : Piece :=
  { ofToken .sound state isShown place place with
    price := prices.repair + prices.missing,
    isSupposed := true,
    fault := if isShown then some place.line else none }

/-- The number of tokens and phrases in several pieces. -/
def totalSize (pieces : List Piece) : Nat :=
  pieces.foldl (fun sum piece => sum + piece.size) 0

/-- The price of several pieces that are read as they stand. -/
def totalPrice (pieces : List Piece) : Nat :=
  pieces.foldl (fun sum piece => sum + piece.price) 0

/-- The weight of several pieces. -/
def totalWeight (pieces : List Piece) : Int :=
  pieces.foldl (fun sum piece => sum + piece.weight) 0

/-- The price of a piece that stands in a faulty one. -/
def priceInFault (piece : Piece) : Nat :=
  match piece.nature with
  | .sound => piece.price + prices.part * piece.shownCount
  | .passed => prices.part * piece.shownParts
  | .aside | .fault => piece.price
  | .unreadable => 0

/-- The price of pieces that stand in a faulty one. -/
def totalPriceInFault (pieces : List Piece) : Nat :=
  pieces.foldl (fun sum piece => sum + piece.priceInFault) 0

/-- How many pieces show for several pieces in the phrase around them. -/
def totalShown (pieces : List Piece) : Nat :=
  pieces.foldl (fun sum piece => sum + piece.shownCount) 0

/-- The line of the first fault in pieces that are given in order. -/
def firstFault (pieces : List Piece) : Option Nat :=
  pieces.findSome? fault

/-- The place where pieces begin that are given in order; a given place when there
are none. -/
def firstPlace (place : Place) (pieces : List Piece) : Place :=
  (pieces.head?.map first).getD place

/-- A faulty piece, or tokens that are passed over, made of pieces in order.
`contents` and `size` are those of pieces in front that were faulty already. -/
def broken (nature : Nature) (state : State) (first last : Place) (contents size : Nat)
    (pieces : List Piece) : Piece :=
  let contents := contents + totalPriceInFault pieces
  { nature, state, first, last, contents,
    isShown := nature = .fault,
    shownParts := totalShown pieces,
    size := 1 + size + totalSize pieces,
    price := contents + prices.repair + extentPrice first last,
    weight := totalWeight pieces,
    isSupposed := false,
    fault := some first.line }

end Piece

end Hygiene.Python.Repair
