import Hygiene.Text.Basic

/-!
# Places in a source

A place is a point between two characters: what follows it, how many characters
stand before it, and its line and column. Lines are counted from zero and end
after a line feed; a column is the number of encoded bytes since the line began.
-/

set_option autoImplicit false

namespace Hygiene.Python

/-- A point in a source. -/
structure Place where
  rest : Text
  offset : Nat
  line : Nat
  column : Nat
  deriving DecidableEq, Inhabited

namespace Place

/-- The beginning of a source. -/
def start (source : Text) : Place := ⟨source, 0, 0, 0⟩

/-- The place after the next character. -/
def next (place : Place) : Place :=
  match place.rest with
  | [] => place
  | c :: rest =>
    if c = '\n' then ⟨rest, place.offset + 1, place.line + 1, 0⟩
    else ⟨rest, place.offset + 1, place.line, place.column + c.utf8Size⟩

/-- The place after some characters. -/
def skip (place : Place) : Nat → Place
  | 0 => place
  | count + 1 => place.next.skip count

/-- The text from one place to a later one. -/
def textTo (first last : Place) : Text :=
  first.rest.take (last.offset - first.offset)

end Place

end Hygiene.Python
