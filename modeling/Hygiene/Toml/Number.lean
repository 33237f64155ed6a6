import Hygiene.Text.Basic

/-!
# TOML numbers

An integer is written in decimal with an optional sign, or behind `0x`, `0o` or
`0b` in base sixteen, eight or two, and it fits in 64 bits with a sign. A
floating-point number is a decimal integer with a fraction or an exponent or
both, or one of `inf` and `nan`. Underscores may stand between two digits. A
decimal number of more than one digit does not begin with a zero.

The functions here judge a whole spelling.
-/

set_option autoImplicit false

namespace Hygiene.Toml

/-- A digit in base sixteen. -/
def isHexDigit (c : Char) : Bool :=
  c.isDigit || ('a' ≤ c && c ≤ 'f') || ('A' ≤ c && c ≤ 'F')

/-- The value of a digit in base sixteen. -/
def hexDigitValue (c : Char) : Nat :=
  if c.isDigit then c.toNat - '0'.toNat
  else if 'a' ≤ c then c.toNat - 'a'.toNat + 10
  else c.toNat - 'A'.toNat + 10

/-- The number that digits spell in a base. -/
def ofDigits (base : Nat) (digits : Text) : Nat :=
  digits.foldl (fun number c => base * number + hexDigitValue c) 0

/-- The digits of a spelling in which underscores may stand between digits. -/
def digits? (isDigit : Char → Bool) (spelling : Text) : Option Text :=
  let groups := spelling.fields (· == '_')
  if groups.all fun group => !group.isEmpty && group.all isDigit then some groups.flatten
  else none

/-- The digits of a decimal number, which do not begin with a superfluous zero. -/
def decimalDigits? (spelling : Text) : Option Text :=
  (digits? Char.isDigit spelling).filter fun digits =>
    digits.length == 1 || digits.head? != some '0'

/-- The sign in front of a spelling, and what follows it. -/
def splitSign : Text → Bool × Text
  | '+' :: rest => (false, rest)
  | '-' :: rest => (true, rest)
  | spelling => (false, spelling)

/-! ## Integers -/

/-- The range of integers. -/
def isInRange (number : Int) : Bool :=
  Int64.minValue.toInt ≤ number && number ≤ Int64.maxValue.toInt

/-- A number in a base other than ten. -/
def readInBase? (base : Nat) (isDigit : Char → Bool) (spelling : Text) : Option Int :=
  (digits? isDigit spelling).map fun digits => Int.ofNat (ofDigits base digits)

/-- The integer that a spelling stands for. -/
def readInteger? (spelling : Text) : Option Int :=
  let number := match spelling with
    | '0' :: 'x' :: rest => readInBase? 16 isHexDigit rest
    | '0' :: 'o' :: rest => readInBase? 8 (fun c => '0' ≤ c && c ≤ '7') rest
    | '0' :: 'b' :: rest => readInBase? 2 (fun c => c == '0' || c == '1') rest
    | _ =>
      let (negative, rest) := splitSign spelling
      (decimalDigits? rest).map fun digits =>
        let magnitude := Int.ofNat (ofDigits 10 digits)
        if negative then -magnitude else magnitude
  number.filter isInRange

/-! ## Floating-point numbers -/

/-- A decimal number, as digits and the power of ten that they are multiplied by. -/
structure Scientific where
  digits : Text
  exponent : Int
  deriving DecidableEq, Repr

/-- The exponent behind its mark, which may begin with zeros. -/
def readExponent? : Text → Option Int
  | [] => some 0
  | mark :: rest =>
    if mark == 'e' || mark == 'E' then
      let (negative, spelling) := splitSign rest
      (digits? Char.isDigit spelling).map fun digits =>
        let magnitude := Int.ofNat (ofDigits 10 digits)
        if negative then -magnitude else magnitude
    else none

/-- A number without sign that has a fraction or an exponent. -/
def readScientific? (spelling : Text) : Option Scientific := do
  let whole := spelling.takeWhile fun c => c != '.' && c != 'e' && c != 'E'
  let digits ← decimalDigits? whole
  match spelling.drop whole.length with
  | [] => none
  | '.' :: rest =>
    let fraction := rest.takeWhile fun c => c != 'e' && c != 'E'
    let places ← digits? Char.isDigit fraction
    let exponent ← readExponent? (rest.drop fraction.length)
    return ⟨digits ++ places, exponent - places.length⟩
  | rest => return ⟨digits, ← readExponent? rest⟩

/-- The least magnitude that rounds to infinity: halfway between the largest
number of 64 bits and the power of two above it. -/
def overflowBound : Nat := Nat.pow 2 1024 - Nat.pow 2 970

/-- Whether a number is so large that it rounds to infinity. -/
def Scientific.overflows (number : Scientific) : Bool :=
  let digits := number.digits.dropWhile (· == '0')
  let order := Int.ofNat digits.length + number.exponent
  if digits.isEmpty || order < 309 then false
  else if 310 < order then true
  else match number.exponent with
    | .ofNat exponent => overflowBound ≤ ofDigits 10 digits * Nat.pow 10 exponent
    | .negSucc exponent => overflowBound * Nat.pow 10 (exponent + 1) ≤ ofDigits 10 digits

/-- Whether a spelling stands for a floating-point number. Too large a number is
none, unless it is negative. -/
def isFloat (spelling : Text) : Bool :=
  let (negative, rest) := splitSign spelling
  rest == ['i', 'n', 'f'] || rest == ['n', 'a', 'n'] ||
    match readScientific? rest with
    | some number => negative || !number.overflows
    | none => false

end Hygiene.Toml
