import Hygiene.Toml.Moment
import Hygiene.Toml.Value

/-!
# Handing over the values of a document

The values of a document are handed over to whoever asks for them, at once or after they
were kept for a while. A moment is handed over as a table with its spelling behind a mark.
So a table of a document that begins with the mark is taken for a moment, and it is not
handed over when no moment is spelled behind the mark. What else stands in such a table is
not looked at, unless it was kept: then there must be nothing else.

When a text cannot be read, or a value in it is not what is asked for, this is told in words
that name the place in the text. They are those of whoever reads the text and are not known
here (`Words`).
-/

set_option autoImplicit false

namespace Hygiene.Toml

/-- What is told of a text that cannot be read: the place of the fault, the line there and what
is wrong with it. -/
class Words where
  describe : Text → String

/-- The mark in front of a moment. -/
def momentMark : Text := "$__toml_private_datetime".toList

/-- The value behind the mark with which a table begins, and what follows. -/
def marked? : Entries → Option (Value × Entries)
  | [] => none
  | (key, value) :: others => if key = momentMark then some (value, others) else none

/-- The moment that a value behind the mark spells. -/
def momentOf? : Value → Option Value
  | .string text => if isHandedMoment text then some (.moment text) else none
  | _ => none

mutual

/-- A value as it is handed over, at once or after it was kept. -/
def Value.handed? (kept : Bool) : Value → Option Value
  | .array items => (itemsHanded? kept items).map .array
  | .table entries =>
    match marked? entries with
    | some (value, others) => if kept && !others.isEmpty then none else momentOf? value
    | none => (entriesHanded? kept entries).map .table
  | value => some value

/-- The items of an array as they are handed over. -/
def itemsHanded? (kept : Bool) : List Value → Option (List Value)
  | [] => some []
  | item :: others => do
    return (← item.handed? kept) :: (← itemsHanded? kept others)

/-- The entries of a table as they are handed over. -/
def entriesHanded? (kept : Bool) : List (Text × Value) → Option (List (Text × Value))
  | [] => some []
  | (key, value) :: others => do
    return (key, ← value.handed? kept) :: (← entriesHanded? kept others)

end

end Hygiene.Toml
