import Hygiene.Text.Basic

/-!
# TOML values

A value is a string, a number, a truth value, a moment in time, an array or a
table. Floating-point numbers and moments are kept as they are spelled, since
nothing is ever computed with them.
-/

set_option autoImplicit false

namespace Hygiene.Toml

/-- A TOML value. -/
inductive Value where
  | string (text : Text)
  | integer (number : Int)
  | float (spelling : Text)
  | boolean (value : Bool)
  | moment (spelling : Text)
  | array (items : List Value)
  | table (entries : List (Text × Value))
  deriving Inhabited

/-- The entries of a table. -/
abbrev Entries := List (Text × Value)

/-- The value of a key. -/
def Entries.get? (entries : Entries) (key : Text) : Option Value :=
  entries.lookup key

namespace Value

/-- The text of a string. -/
def string? : Value → Option Text
  | string text => some text
  | _ => none

/-- The number that an integer is. -/
def integer? : Value → Option Int
  | integer number => some number
  | _ => none

/-- The truth value. -/
def boolean? : Value → Option Bool
  | boolean value => some value
  | _ => none

/-- The texts of an array of strings. -/
def strings? : Value → Option (List Text)
  | array items => items.mapM string?
  | _ => none

/-- The entries of a table. -/
def table? : Value → Option Entries
  | table entries => some entries
  | _ => none

end Value

end Hygiene.Toml
