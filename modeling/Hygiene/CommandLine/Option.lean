import Hygiene.Text.Basic

/-!
# Options

An option has a long name behind two hyphens and perhaps a letter behind one. It
is a flag, or it takes a value, once or as often as it is given. Two options ask
for a text about the program instead of running it.

A value is checked when it is given. Years have four digits, counts fit in 64
bits, and paths are not empty.
-/

set_option autoImplicit false

namespace Hygiene.CommandLine

/-- Why a command line is refused. Two of the reasons ask for a text that the
program shows about itself. -/
inductive Refusal where
  | unknownArgument
  /-- A value is missing, empty, or none of those that are possible. -/
  | invalidValue
  /-- A number that is malformed or out of range. -/
  | badNumber
  /-- An option that is given twice. -/
  | conflict
  /-- A value for a flag. -/
  | superfluousValue
  | missingOperand
  | help
  | version
  deriving DecidableEq, Repr

/-- The code with which a program ends that refuses its command line. -/
def Refusal.exitCode : Refusal → Nat
  | .help | .version => 0
  | _ => 2

/-- What the value of an option must be. -/
inductive ValueKind where
  | text
  | path
  | year
  | count
  | format
  deriving DecidableEq, Repr

/-- The natural number that digits spell, with or without a plus sign. -/
def readNat? (text : Text) : Option Nat :=
  let digits := match text with
    | '+' :: rest => rest
    | _ => text
  if !digits.isEmpty && digits.all Char.isDigit then
    some (digits.foldl (fun number c => 10 * number + (c.toNat - '0'.toNat)) 0)
  else none

/-- A year of four digits. -/
def readYear? (text : Text) : Option Nat :=
  (readNat? text).filter fun year => 1000 ≤ year && year ≤ 9999

/-- A number of 64 bits. -/
def readCount? (text : Text) : Option Nat :=
  (readNat? text).filter (· < UInt64.size)

/-- The forms in which a report is written. -/
inductive Format where
  | text
  | json
  deriving DecidableEq, Repr

/-- The name of a form. -/
def Format.name : Format → String
  | .text => "text"
  | .json => "json"

/-- The form with a given name. -/
def Format.ofName? (name : Text) : Option Format :=
  [Format.text, Format.json].find? fun format => format.name.toList = name

/-- Why a value is refused, if it is. -/
def ValueKind.refusal? (kind : ValueKind) (value : Text) : Option Refusal :=
  match kind with
  | .text => none
  | .path => if value.isEmpty then some .invalidValue else none
  | .year => if (readYear? value).isSome then none else some .badNumber
  | .count => if (readCount? value).isSome then none else some .badNumber
  | .format => if (Format.ofName? value).isSome then none else some .invalidValue

/-- What an option does. -/
inductive Effect where
  /-- It is given or not. -/
  | flag
  /-- It takes one value. -/
  | value (kind : ValueKind)
  /-- It takes a value each time it is given. -/
  | values (kind : ValueKind)
  /-- It takes values between commas each time it is given. -/
  | commaValues (kind : ValueKind)
  | help
  | version
  deriving DecidableEq, Repr

/-- An option of a program. -/
structure OptionSpec where
  long : Text
  short : Option Char
  effect : Effect
  deriving DecidableEq, Repr

namespace OptionSpec

/-- Whether the option takes values. -/
def takesValue (option : OptionSpec) : Bool :=
  match option.effect with
  | .value _ | .values _ | .commaValues _ => true
  | .flag | .help | .version => false

/-- Whether the option may be given more than once. -/
def isRepeatable (option : OptionSpec) : Bool :=
  match option.effect with
  | .values _ | .commaValues _ => true
  | _ => false

/-- The values that are given at once. -/
def split (option : OptionSpec) (values : List Text) : List Text :=
  match option.effect with
  | .commaValues _ => values.flatMap fun value => value.fields (· == ',')
  | _ => values

/-- Why a value of the option is refused, if it is. -/
def refusal? (option : OptionSpec) (value : Text) : Option Refusal :=
  match option.effect with
  | .value kind | .values kind | .commaValues kind => kind.refusal? value
  | .flag | .help | .version => none

end OptionSpec

end Hygiene.CommandLine
