import Hygiene.Python.Place
import Hygiene.Python.Kind
import Hygiene.Python.Identifier

/-!
# Lexemes

A lexeme is the text of a token that needs no memory to be read. Each class of
tokens has the longest text at the front of a source that belongs to it; among
the classes that are welcome the longest lexeme is taken. The classes of
characters inside strings go first, whatever their length.

A keyword is read as an identifier and becomes a keyword where that keyword is
welcome.
-/

set_option autoImplicit false

namespace Hygiene.Python

namespace Lexeme

/-! ## Runs of characters -/

/-- The number of characters at the front of a text that satisfy a condition. -/
def runLength (condition : Char → Bool) (text : Text) : Nat :=
  (text.takeWhile condition).length

/-- The number of characters of a run of digits with single underscores inside or
after it. The flag says whether an underscore can come next. -/
def digitsFrom : (afterDigit : Bool) → Text → Nat
  | _, [] => 0
  | afterDigit, c :: rest =>
    if c.isDigit then 1 + digitsFrom true rest
    else if c = '_' && afterDigit then 1 + digitsFrom false rest
    else 0

/-- The length of a decimal number. -/
def digitsLength (text : Text) : Nat := digitsFrom false text

/-- The length of groups of digits of some base, each with an underscore before it
or none. -/
def groupsLength (isDigit : Char → Bool) : Text → Nat
  | [] => 0
  | [c] => if isDigit c then 1 else 0
  | c :: d :: rest =>
    if isDigit c then 1 + groupsLength isDigit (d :: rest)
    else if c = '_' && isDigit d then 1 + groupsLength isDigit (d :: rest)
    else 0

/-- A hexadecimal digit. -/
def isHexDigit (c : Char) : Bool :=
  c.isDigit || ('a' ≤ c && c ≤ 'f') || ('A' ≤ c && c ≤ 'F')

/-- One when one of the given letters stands at the front of the text. -/
def oneOf (letters : List Char) (text : Text) : Nat :=
  match text with
  | c :: _ => if letters.contains c then 1 else 0
  | [] => 0

/-! ## Numbers -/

/-- The length of an integer behind a prefix that names its base. -/
def basedLength? (letters : List Char) (isDigit : Char → Bool) : Text → Option Nat
  | '0' :: letter :: rest =>
    let digits := groupsLength isDigit rest
    if letters.contains letter && 0 < digits then
      some (2 + digits + oneOf ['L', 'l'] (rest.drop digits))
    else none
  | _ => none

/-- The length of an integer. -/
def integerLength? (text : Text) : Option Nat :=
  let decimal := digitsLength text
  ((basedLength? ['x', 'X'] isHexDigit text).or
    (basedLength? ['o', 'O'] (fun c => '0' ≤ c && c ≤ '7') text)).or
    ((basedLength? ['b', 'B'] (fun c => c = '0' || c = '1') text).or
      (if decimal = 0 then none
        else some (decimal + oneOf ['L', 'l', 'J', 'j'] (text.drop decimal))))

/-- The length of an exponent, when there is one. -/
def exponentLength (text : Text) : Nat :=
  let mark := oneOf ['e', 'E'] text
  let sign := oneOf ['+', '-'] (text.drop mark)
  let digits := digitsLength (text.drop (mark + sign))
  if mark = 0 || digits = 0 then 0 else mark + sign + digits

/-- The length of a float. -/
def floatLength? (text : Text) : Option Nat :=
  let whole := digitsLength text
  let withSuffix (length : Nat) : Nat :=
    length + oneOf ['L', 'l', 'J', 'j'] (text.drop length)
  match text.drop whole with
  | '.' :: rest =>
    let fraction := digitsLength rest
    if whole = 0 && fraction = 0 then none
    else
      let mantissa := whole + 1 + fraction
      some (withSuffix (mantissa + exponentLength (text.drop mantissa)))
  | rest =>
    let exponent := exponentLength rest
    if whole = 0 || exponent = 0 then none else some (withSuffix (whole + exponent))

/-! ## Words, marks and strings -/

/-- The length of an identifier. -/
def wordLength? : Text → Option Nat
  | c :: rest =>
    if beginsIdentifier c then some (1 + runLength continuesIdentifier rest) else none
  | [] => none

/-- Whether a mark is spelled like an identifier. -/
def isWord (spelling : String) : Bool :=
  match spelling.toList with
  | c :: rest => beginsIdentifier c && rest.all continuesIdentifier
  | [] => false

/-- The length of an escape in a string, with its backslash. -/
def escapeLength? : Text → Option Nat
  | '\\' :: c :: rest =>
    let hexadecimal (digits : Nat) : Option Nat :=
      if (rest.take digits).length = digits && (rest.take digits).all isHexDigit then
        some (2 + digits)
      else none
    if c = 'u' then hexadecimal 4
    else if c = 'U' then hexadecimal 8
    else if c = 'x' then hexadecimal 2
    else if c = 'N' then
      match rest with
      | '\x7b' :: later =>
        let length := runLength (· ≠ '\x7d') later
        if 0 < length && length < later.length then some (length + 4) else none
      | _ => none
    else if c.isDigit then
      if (rest.take 2).length = 2 && (rest.take 2).all Char.isDigit then some 4 else none
    else if c = '\n' then some 2
    else if c = '\r' then if rest.head? = some '\n' then some 3 else none
    else if ['\x27', '\x22', 'a', 'b', 'f', 'r', 'n', 't', 'v', '\\'].contains c then some 2
    else none
  | _ => none

/-- The length of a backslash that joins two lines, with the end of the line. -/
def continuationLength? : Text → Option Nat
  | '\\' :: '\r' :: '\n' :: _ => some 3
  | '\\' :: '\n' :: _ => some 2
  | '\\' :: '\x00' :: _ => some 2
  | _ => none

/-- The length of a lexeme of a token at the front of a text. The flag says whether
blanks were passed before it. -/
def length? (token : Token) (afterBlanks : Bool) (text : Text) : Option Nat :=
  match token with
  | .integer => integerLength? text
  | .float => floatLength? text
  | .comment => if text.head? = some '#' then some (runLength (· ≠ '\n') text) else none
  | .lineContinuation => continuationLength? text
  | .escapeSequence => if afterBlanks then none else escapeLength? text
  | .loneBackslash =>
    if !afterBlanks && text.head? = some '\\' then some 1 else none
  | .formatText =>
    let length := runLength (fun c => c ≠ '\x7b' && c ≠ '\x7d' && c ≠ '\n') text
    if length = 0 then none else some length
  | .typeConversion =>
    match text with
    | '!' :: c :: _ => if 'a' ≤ c && c ≤ 'z' then some 2 else none
    | _ => none
  | .endOfSource => if text.isEmpty then some 0 else none
  | .mark spelling =>
    if !isWord spelling && spelling.toList.isPrefixOf text then some spelling.toList.length
    else none
  | _ => none

/-- The tokens that are preferred to longer ones. -/
def isPreferred (token : Token) : Bool :=
  token = .escapeSequence || token = .formatText

/-! ## Choosing a lexeme -/

/-- A blank between tokens. -/
def isSeparator (c : Char) : Bool :=
  c = ' ' || c = '\t' || c = '\n' || c = '\r' || c = '\x0c' || c = '\ufeff' || c = '\u2060' ||
    c = '\u200b'

/-- The better of two candidates: a preferred token, and otherwise the longer one. -/
def better (best : Option (Token × Nat)) (token : Token) (length : Nat) : Option (Token × Nat) :=
  match best with
  | none => some (token, length)
  | some (other, otherLength) =>
    if isPreferred other = isPreferred token then
      if otherLength < length then some (token, length) else best
    else if isPreferred token then some (token, length)
    else best

/-- The word at the front of a text: a keyword when that keyword is welcome, and an
identifier otherwise. There is no word when no word is welcome. -/
def word? (welcome : List Token) (text : Text) : Option (Token × Nat) :=
  let wordsWelcome := welcome.any fun
    | .identifier => true
    | .mark spelling => isWord spelling
    | _ => false
  if wordsWelcome then
    (wordLength? text).map fun length =>
      let keyword := Token.mark (String.ofList (text.take length))
      (if welcome.contains keyword then keyword else .identifier, length)
  else none

/-- The token at a place with its extent, among the tokens that are welcome. -/
def token? (welcome : List Token) (place : Place) : Option (Token × Place × Place) :=
  let blanks := runLength isSeparator place.rest
  let first := place.skip blanks
  let best := welcome.foldl
    (fun best token =>
      match length? token (0 < blanks) first.rest with
      | some length => better best token length
      | none => best)
    (word? welcome first.rest)
  best.map fun (token, length) => (token, first, first.skip length)

end Lexeme

end Hygiene.Python
