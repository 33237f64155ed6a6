import Hygiene.Path

/-!
# Paths of the system

The system knows a path as a sequence of bytes, which need not be a text. The programs keep
the paths that they are given, so what they do with a path that is no text is said for any
kind of paths that can be shown (`Spelled`). A path is shown as the text that it is; where it
is none, a character stands in for what cannot be read.

Elsewhere paths are texts, as most are, and such paths can be read back from what is shown.
-/

set_option autoImplicit false

namespace Hygiene

/-- A kind of paths that can be shown, some of which are texts. -/
class Spelled (π : Type) where
  display : π → String
  /-- The text that a path is, if it is one. -/
  text? : π → Option Text
  /-- A path that is a text is shown as this text. -/
  display_eq : ∀ {path : π} {text : Text}, text? path = some text →
    display path = String.ofList text

instance : Spelled Path where
  display := Path.display
  text? path := some path.spelling
  display_eq same := by
    cases same
    rfl

/-- A path as the system knows it. -/
structure SystemPath where
  bytes : List UInt8
  deriving DecidableEq

namespace SystemPath

/-- The text that the bytes encode, if they encode one. -/
def text? (path : SystemPath) : Option Text :=
  (String.fromUTF8? ⟨path.bytes.toArray⟩).map String.toList

/-! ## Bytes that are no text -/

/-- The character that stands in for bytes that encode none. -/
def replacement : Char := '\ufffd'

/-- A character that is begun: its bits so far, the bounds of the next byte, and how many more
bytes follow that one. -/
structure Begun where
  bits : Nat
  low : UInt8
  high : UInt8
  more : Nat

/-- The character of several bytes that a first byte begins. -/
def begin? (byte : UInt8) : Option Begun :=
  if 0xC2 ≤ byte && byte ≤ 0xDF then some ⟨byte.toNat - 0xC0, 0x80, 0xBF, 0⟩
  else if byte = 0xE0 then some ⟨0, 0xA0, 0xBF, 1⟩
  else if byte = 0xED then some ⟨0xD, 0x80, 0x9F, 1⟩
  else if 0xE1 ≤ byte && byte ≤ 0xEF then some ⟨byte.toNat - 0xE0, 0x80, 0xBF, 1⟩
  else if byte = 0xF0 then some ⟨0, 0x90, 0xBF, 2⟩
  else if 0xF1 ≤ byte && byte ≤ 0xF3 then some ⟨byte.toNat - 0xF0, 0x80, 0xBF, 2⟩
  else if byte = 0xF4 then some ⟨4, 0x80, 0x8F, 2⟩
  else none

/-- A byte where no character is begun: what is shown of it, and the character that it begins. -/
def first (byte : UInt8) : Text × Option Begun :=
  if byte < 0x80 then ([Char.ofNat byte.toNat], none)
  else match begin? byte with
    | some begun => ([], some begun)
    | none => ([replacement], none)

/-- A byte behind a character that may be begun. One that does not go on with the character is
read anew, behind what stands in for the character. -/
def next (begun : Option Begun) (byte : UInt8) : Text × Option Begun :=
  match begun with
  | none => first byte
  | some ⟨bits, low, high, more⟩ =>
    if low ≤ byte && byte ≤ high then
      let read := 64 * bits + (byte.toNat - 0x80)
      match more with
      | 0 => ([Char.ofNat read], none)
      | more + 1 => ([], some ⟨read, 0x80, 0xBF, more⟩)
    else
      let (shown, anew) := first byte
      (replacement :: shown, anew)

/-- What is shown of bytes behind a character that may be begun. -/
def shownAfter : Option Begun → List UInt8 → Text
  | none, [] => []
  | some _, [] => [replacement]
  | begun, byte :: rest => (next begun byte).1 ++ shownAfter (next begun byte).2 rest

example : shownAfter none [0x61, 0xE2, 0x82, 0xFF, 0xC3, 0xA9] = "a\ufffd\ufffdé".toList := by
  decide

/-- The text that the bytes encode, or what is shown where they encode none. -/
def display (path : SystemPath) : String :=
  String.ofList (path.text?.getD (shownAfter none path.bytes))

instance : Spelled SystemPath where
  display := display
  text? := text?
  display_eq same := by rw [display, same, Option.getD_some]

end SystemPath

end Hygiene
