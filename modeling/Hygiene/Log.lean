/-!
# The log

What a program does is told as a sequence of events for whoever maintains it.
An event has a level, a message and named values; it is shown on one line. The
functions of this library that have something to tell return their events
beside their result, in the order in which they happen.
-/

set_option autoImplicit false

namespace Hygiene.Log

/-- How much an event matters. -/
inductive Level where
  | error
  | warn
  | info
  | debug
  | trace
  deriving DecidableEq, Repr

/-- The name of a level in front of an event. -/
def Level.label : Level → String
  | .error => "ERROR"
  | .warn => "WARN"
  | .info => "INFO"
  | .debug => "DEBUG"
  | .trace => "TRACE"

/-- A value that an event carries. -/
inductive Value where
  /-- A text as it is. -/
  | plain (text : String)
  /-- A text between quotation marks. -/
  | quoted (text : String)
  /-- A size in bytes that is shown in millions. -/
  | millions (size : Nat)
  deriving DecidableEq, Repr

/-- The digits of a fraction without zeros at the end, at least one. -/
def fractionDigits (digits : List Char) : List Char :=
  match (digits.reverse.dropWhile (· == '0')).reverse with
  | [] => ['0']
  | kept => kept

/-- A number of bytes in millions, exactly and without superfluous zeros. -/
def showMillions (size : Nat) : String :=
  let digits := Nat.toDigits 10 (1000000 + size % 1000000)
  s!"{size / 1000000}." ++ String.ofList (fractionDigits (digits.drop 1))

/-- How a value is shown. -/
def Value.display : Value → String
  | .plain text => text
  | .quoted text => "\x22" ++ text ++ "\x22"
  | .millions size => showMillions size

/-- Something that happened. -/
structure Event where
  level : Level
  message : String
  fields : List (String × Value) := []
  deriving DecidableEq, Repr

namespace Event

/-- Something that ought not to happen. -/
def warn (message : String) : Event := { level := .warn, message := message }

/-- Something worth knowing. -/
def info (message : String) : Event := { level := .info, message := message }

/-- Something that helps to follow what is done. -/
def debug (message : String) : Event := { level := .debug, message := message }

/-- The line on which an event is shown. -/
def display (event : Event) : String :=
  String.intercalate " "
    (event.level.label :: event.message ::
      event.fields.map fun (name, value) => name ++ "=" ++ value.display)

end Event

/-! ## Telling what is done -/

/-- A value, with the events that happened while it was found. -/
structure Told (α : Type) where
  value : α
  events : List Event

namespace Told

/-- What follows from a value, with the events of both. -/
def bind {α β : Type} (first : Told α) (next : α → Told β) : Told β :=
  let second := next first.value
  ⟨second.value, first.events ++ second.events⟩

instance : Monad Told where
  pure value := ⟨value, []⟩
  bind := bind

/-- An event is told. -/
def tell (event : Event) : Told Unit := ⟨(), [event]⟩

@[simp] theorem pure_value {α : Type} (value : α) : (pure value : Told α).value = value := rfl

@[simp] theorem bind_value {α β : Type} (first : Told α) (next : α → Told β) :
    (first >>= next).value = (next first.value).value := rfl

end Told

end Hygiene.Log
