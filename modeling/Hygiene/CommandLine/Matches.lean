import Hygiene.CommandLine.Option

/-!
# Reading a command line

The words of a command line are read from left to right. A word with two hyphens
names an option, with its value behind `=` or in the next word; a word with one
hyphen names options by their letters, and what follows the letter of an option
with a value is that value. Every other word is an operand, as is every word
after `--` and a hyphen on its own.

What is given is taken into account when the next option or operand begins, so a
value is refused only then; but a value behind `=` or behind a letter is judged at
once. After the last word a variable of the environment can stand in for the
option that names the settings.
-/

set_option autoImplicit false

namespace Hygiene.CommandLine

/-- The command line of a program. -/
structure Grammar where
  options : List OptionSpec
  needsOperand : Bool

/-- What a command line gives. -/
structure Matches where
  /-- The options with the values that they are given each time, in order. -/
  given : List (Text × List Text)
  operands : List Text
  deriving DecidableEq, Repr

namespace Matches

/-- Nothing is given. -/
def empty : Matches := ⟨[], []⟩

/-- Whether an option is given. -/
def isGiven (found : Matches) (name : String) : Bool :=
  found.given.any fun entry => entry.1 = name.toList

/-- All values of an option. -/
def values (found : Matches) (name : String) : List Text :=
  (found.given.filter fun entry => entry.1 = name.toList).flatMap Prod.snd

/-- The value of an option. -/
def value? (found : Matches) (name : String) : Option Text :=
  (found.values name).head?

/-- An option is given with values. -/
def give (found : Matches) (option : OptionSpec) (values : List Text) : Except Refusal Matches :=
  match option.effect with
  | .help => .error .help
  | .version => .error .version
  | _ =>
    if option.takesValue && values.isEmpty then .error .invalidValue
    else if !option.isRepeatable && found.given.any fun entry => entry.1 = option.long then
      .error .conflict
    else
      let parts := option.split values
      match parts.findSome? option.refusal? with
      | some refusal => .error refusal
      | none => .ok { found with given := found.given ++ [(option.long, parts)] }

/-- Operands are given. They are paths. -/
def giveOperands (found : Matches) (values : List Text) : Except Refusal Matches :=
  match values.findSome? ValueKind.path.refusal? with
  | some refusal => .error refusal
  | none => .ok { found with operands := found.operands ++ values }

end Matches

/-- What is not yet taken into account. -/
inductive Pending where
  | nothing
  /-- An option that has its value or waits for it. -/
  | option (option : OptionSpec) (values : List Text)
  | operands (values : List Text)

/-- A command line while it is read. -/
structure Progress where
  found : Matches
  pending : Pending
  /-- Every further word is an operand. -/
  onlyOperands : Bool

namespace Progress

/-- The beginning of a command line. -/
def start : Progress := ⟨Matches.empty, .nothing, false⟩

/-- What is pending is taken into account. -/
def settle (progress : Progress) : Except Refusal Progress :=
  match progress.pending with
  | .nothing => .ok progress
  | .option option values =>
    (progress.found.give option values).map fun found =>
      { progress with found := found, pending := .nothing }
  | .operands values =>
    (progress.found.giveOperands values).map fun found =>
      { progress with found := found, pending := .nothing }

/-- An option is given with all its values at once. -/
def give (progress : Progress) (option : OptionSpec) (values : List Text) :
    Except Refusal Progress := do
  let settled ← progress.settle
  let found ← settled.found.give option values
  return { settled with found := found }

/-- An option begins whose value is the next word. -/
def await (progress : Progress) (option : OptionSpec) : Except Refusal Progress := do
  return { ← progress.settle with pending := .option option [] }

/-- A word that stands on its own is the value of the option that waits for it, or
else an operand. -/
def takeWord (progress : Progress) (word : Text) : Except Refusal Progress :=
  match progress.pending with
  | .option option [] =>
    if progress.onlyOperands then
      progress.settle.map fun settled => { settled with pending := .operands [word] }
    else .ok { progress with pending := .option option [word] }
  | .operands values => .ok { progress with pending := .operands (values ++ [word]) }
  | _ => progress.settle.map fun settled => { settled with pending := .operands [word] }

end Progress

namespace Grammar

/-- The option with a long name. -/
def byLong? (grammar : Grammar) (name : Text) : Option OptionSpec :=
  grammar.options.find? fun option => option.long = name

/-- The option with a letter. -/
def byShort? (grammar : Grammar) (letter : Char) : Option OptionSpec :=
  grammar.options.find? fun option => option.short = some letter

/-- A word behind two hyphens. -/
def takeLong (grammar : Grammar) (progress : Progress) (word : Text) :
    Except Refusal Progress :=
  let name := word.takeWhile (· != '=')
  match grammar.byLong? name, word.drop name.length with
  | none, _ => .error .unknownArgument
  | some option, [] =>
    if option.takesValue then progress.await option else progress.give option []
  | some option, _ :: value =>
    if option.takesValue then progress.give option [value] else .error .superfluousValue

/-- The letters behind one hyphen. -/
def takeLetters (grammar : Grammar) : Progress → Text → Except Refusal Progress
  | progress, [] => .ok progress
  | progress, letter :: rest =>
    match grammar.byShort? letter with
    | none => .error .unknownArgument
    | some option =>
      if option.takesValue then
        match rest with
        | [] => progress.await option
        | '=' :: value => progress.give option [value]
        | value => progress.give option [value]
      else (progress.give option []).bind fun next => takeLetters grammar next rest

/-- One word of a command line. -/
def takeWord (grammar : Grammar) (progress : Progress) (word : Text) : Except Refusal Progress :=
  if progress.onlyOperands then progress.takeWord word
  else match word with
    | ['-', '-'] => .ok { progress with onlyOperands := true }
    | '-' :: '-' :: rest => grammar.takeLong progress rest
    | '-' :: letter :: rest => grammar.takeLetters progress (letter :: rest)
    | _ => progress.takeWord word

/-- What a command line gives, with the setting of the environment that stands in for
an option. -/
def read (grammar : Grammar) (environment : List (Text × Text)) (words : List Text) :
    Except Refusal Matches := do
  let last ← words.foldlM grammar.takeWord Progress.start
  let settled ← last.settle
  let found ← environment.foldlM
    (fun found (name, value) =>
      match grammar.byLong? name with
      | none => .ok found
      | some option =>
        if found.given.any fun entry => entry.1 = name then .ok found
        else found.give option [value])
    settled.found
  if grammar.needsOperand && found.operands.isEmpty then throw .missingOperand
  return found

end Grammar

end Hygiene.CommandLine
