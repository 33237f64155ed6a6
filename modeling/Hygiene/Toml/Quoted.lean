import Hygiene.Toml.Number

/-!
# TOML strings

A string stands between double quotes, where a backslash escapes, or between
single quotes, where nothing does. Three quotes enclose a long string, which may
run over several lines; a line feed right behind the opening quotes is dropped,
and up to two quotes may stand before the closing ones. In a long string with
escapes a backslash at the end of a line takes away the line break and the
blanks that follow.

The functions here begin behind the opening quotes and return the string and the
text behind the closing ones.
-/

set_option autoImplicit false

namespace Hygiene.Toml

/-- A character that may stand as it is in a comment or a string. -/
def isPrintable (c : Char) : Bool :=
  c == '\t' || (32 ≤ c.toNat && c.toNat != 127)

/-- The character that digits in base sixteen name. -/
def ofHex? (digits : Text) : Option Char :=
  let code := ofDigits 16 digits
  if digits.all isHexDigit && code.isValidChar then some (Char.ofNat code) else none

/-- The character that stands behind a backslash for another one. -/
def unescape? : Char → Option Char
  | 'b' => some '\x08'
  | 't' => some '\t'
  | 'n' => some '\n'
  | 'f' => some '\x0c'
  | 'r' => some '\r'
  | '\x22' => some '\x22'
  | '\\' => some '\\'
  | _ => none

/-- A character put in front of a scanned string. -/
def withChar (c : Option Char) (scanned : Option (Text × Text)) : Option (Text × Text) := do
  let found ← c
  let (text, rest) ← scanned
  return (found :: text, rest)

/-- A string between double quotes. -/
def scanBasic : Text → Option (Text × Text)
  | [] => none
  | '\x22' :: rest => some ([], rest)
  | '\\' :: 'u' :: a :: b :: c :: d :: rest => withChar (ofHex? [a, b, c, d]) (scanBasic rest)
  | '\\' :: 'U' :: a :: b :: c :: d :: e :: f :: g :: h :: rest =>
    withChar (ofHex? [a, b, c, d, e, f, g, h]) (scanBasic rest)
  | '\\' :: c :: rest => withChar (unescape? c) (scanBasic rest)
  | c :: rest => if isPrintable c then withChar (some c) (scanBasic rest) else none

/-- A string between single quotes. -/
def scanLiteral : Text → Option (Text × Text)
  | [] => none
  | '\x27' :: rest => some ([], rest)
  | c :: rest => if isPrintable c then withChar (some c) (scanLiteral rest) else none

/-! ## Long strings -/

/-- Whether nothing but blanks stands before the end of the line. -/
def endsLine (text : Text) : Bool :=
  match text.dropWhile fun c => c == ' ' || c == '\t' with
  | '\n' :: _ => true
  | '\r' :: '\n' :: _ => true
  | _ => false

/-- What a run of quotes, of which the first has been read, makes of a long
string: its end, with the quotes that belong to it, unless there are too few. -/
def closeLong? (quote : Char) (rest : Text) : Option (Text × Text) :=
  let run := 1 + (rest.takeWhile (· == quote)).length
  if run < 3 then none
  else
    let inner := min (run - 3) 2
    some (List.replicate inner quote, rest.drop (inner + 2))

/-- A long string. While `skipping`, line breaks and blanks are dropped. -/
def scanLong (quote : Char) (escapes : Bool) : (skipping : Bool) → Text → Option (Text × Text)
  | _, [] => none
  | skipping, '\r' :: '\n' :: rest =>
    if skipping then scanLong quote escapes true rest
    else withChar (some '\n') (scanLong quote escapes false rest)
  | skipping, '\\' :: 'u' :: a :: b :: c :: d :: rest =>
    if escapes then withChar (ofHex? [a, b, c, d]) (scanLong quote escapes false rest)
    else withChar (some '\\') (scanLong quote escapes skipping ('u' :: a :: b :: c :: d :: rest))
  | skipping, '\\' :: 'U' :: a :: b :: c :: d :: e :: f :: g :: h :: rest =>
    if escapes then
      withChar (ofHex? [a, b, c, d, e, f, g, h]) (scanLong quote escapes false rest)
    else
      withChar (some '\\')
        (scanLong quote escapes skipping
          ('U' :: a :: b :: c :: d :: e :: f :: g :: h :: rest))
  | skipping, '\\' :: c :: rest =>
    if !escapes then withChar (some '\\') (scanLong quote escapes skipping (c :: rest))
    else if endsLine (c :: rest) then scanLong quote escapes true (c :: rest)
    else withChar (unescape? c) (scanLong quote escapes false rest)
  | skipping, c :: rest =>
    if skipping && (c == '\n' || c == ' ' || c == '\t') then scanLong quote escapes true rest
    else if c == quote then
      match closeLong? quote rest with
      | some closed => some closed
      | none => withChar (some c) (scanLong quote escapes false rest)
    else if c == '\n' || isPrintable c then
      withChar (some c) (scanLong quote escapes false rest)
    else none

/-- The text without a line break at its front. -/
def dropLineBreak : Text → Text
  | '\n' :: rest => rest
  | '\r' :: '\n' :: rest => rest
  | text => text

/-! ## Strings of any form -/

/-- The string at the front of a text that begins with a quote. -/
def readString? : Text → Option (Text × Text)
  | '\x22' :: '\x22' :: '\x22' :: rest => scanLong '\x22' true false (dropLineBreak rest)
  | '\x22' :: rest => scanBasic rest
  | '\x27' :: '\x27' :: '\x27' :: rest => scanLong '\x27' false false (dropLineBreak rest)
  | '\x27' :: rest => scanLiteral rest
  | _ => none

/-- The string on one line at the front of a text. -/
def readShortString? : Text → Option (Text × Text)
  | '\x22' :: rest => scanBasic rest
  | '\x27' :: rest => scanLiteral rest
  | _ => none

end Hygiene.Toml
