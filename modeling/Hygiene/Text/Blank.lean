import Hygiene.Text.Basic

/-!
# Blank characters

The blank characters are those with the Unicode property `White_Space`. They
separate words, and they are what trimming removes at either end of a text. A
text is blank when it consists of blank characters only.
-/

set_option autoImplicit false

namespace Hygiene

/-- A character with the Unicode property `White_Space`. -/
def isBlankChar (c : Char) : Bool :=
  let code := c.toNat
  (9 ≤ code && code ≤ 13) || code == 0x20 || code == 0x85 || code == 0xA0 ||
    code == 0x1680 || (0x2000 ≤ code && code ≤ 0x200A) || code == 0x2028 ||
    code == 0x2029 || code == 0x202F || code == 0x205F || code == 0x3000

namespace Text

/-- Whether the text consists of blank characters only. -/
def isBlank (text : Text) : Bool :=
  text.all isBlankChar

/-- The text from its first character that is not blank. -/
def trimStart (text : Text) : Text :=
  text.dropWhile isBlankChar

/-- The text up to its last character that is not blank. -/
def trimEnd (text : Text) : Text :=
  text.dropEndWhile isBlankChar

/-- The text without the blank characters at either end. -/
def trim (text : Text) : Text :=
  text.trimStart.trimEnd

/-- The maximal runs of characters that are not blank. -/
def words (text : Text) : List Text :=
  (text.fields isBlankChar).filter fun word => !word.isEmpty

end Text

end Hygiene
