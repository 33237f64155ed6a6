import Hygiene.Text.Basic

/-!
# Quoted texts

A text between quotation marks, in which quotation marks, backslashes and control
characters are escaped.
-/

set_option autoImplicit false

namespace Hygiene.Text

/-- How a character is written in a quoted text. -/
def escape (c : Char) : Text :=
  if c = '\x22' then ['\\', '\x22']
  else if c = '\\' then ['\\', '\\']
  else if c = '\n' then ['\\', 'n']
  else if c = '\r' then ['\\', 'r']
  else if c = '\t' then ['\\', 't']
  else if c.toNat = 0 then ['\\', '0']
  else if c.toNat < 32 || c.toNat = 127 then
    "\\u\x7b".toList ++ Nat.toDigits 16 c.toNat ++ ['\x7d']
  else [c]

/-- A text between quotation marks. -/
def quoted (text : Text) : Text :=
  '\x22' :: text.flatMap escape ++ ['\x22']

end Hygiene.Text
