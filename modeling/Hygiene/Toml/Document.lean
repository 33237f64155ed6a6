import Hygiene.Toml.Moment
import Hygiene.Toml.Quoted
import Hygiene.Toml.Table

/-!
# TOML documents

A document is read line by line. A line holds a header in brackets, a header in
double brackets, or a key with its value; it may end in a comment. Values nest up
to a fixed depth, and only arrays may run over several lines.

A document that breaks a rule is no document: nothing is read from it.
-/

set_option autoImplicit false

namespace Hygiene.Toml

/-- How deep values may nest, and how long a dotted key may be. -/
def depthLimit : Nat := 79

/-! ## Blanks and comments -/

/-- The text without the blanks at its front. -/
def skipBlanks (text : Text) : Text :=
  text.dropWhile fun c => c == ' ' || c == '\t'

/-- The text without the blanks, line breaks and comments at its front. -/
def skipLines : (inComment : Bool) → Text → Text
  | _, [] => []
  | _, '\n' :: rest => skipLines false rest
  | _, '\r' :: '\n' :: rest => skipLines false rest
  | true, c :: rest => if isPrintable c then skipLines true rest else c :: rest
  | false, c :: rest =>
    if c == ' ' || c == '\t' then skipLines false rest
    else if c == '#' then skipLines true rest
    else c :: rest

/-- The text after the end of a line that holds no more than a comment. -/
def endLine? (text : Text) : Option Text :=
  let rest := match skipBlanks text with
    | '#' :: comment => comment.dropWhile isPrintable
    | other => other
  match rest with
  | [] => some []
  | '\n' :: next => some next
  | '\r' :: '\n' :: next => some next
  | _ => none

/-! ## Keys -/

/-- A character of a key without quotes. -/
def isBareKeyChar (c : Char) : Bool :=
  c.isAlphanum || c == '_' || c == '-'

/-- One part of a key at the front of a text. -/
def readKeyPart? (text : Text) : Option (Text × Text) :=
  (readShortString? text).or
    (let bare := text.takeWhile isBareKeyChar
    if bare.isEmpty then none else some (bare, text.drop bare.length))

/-- A key with dots between its parts, of as many parts as the bound allows. -/
def readKeyWithin? : (bound : Nat) → Text → Option (KeyPath × Text)
  | 0, _ => none
  | bound + 1, text => do
    let (part, rest) ← readKeyPart? (skipBlanks text)
    match skipBlanks rest with
    | '.' :: more =>
      let (parts, after) ← readKeyWithin? bound more
      return (part :: parts, after)
    | after => return ([part], after)

/-- A key at the front of a text: the path to it, the key, and the text after. -/
def readKey? (text : Text) : Option (KeyPath × Text × Text) := do
  let (parts, rest) ← readKeyWithin? depthLimit text
  return (parts.dropLast, ← parts.getLast?, rest)

/-! ## Values -/

/-- Whether a character ends a value that is written without quotes. -/
def endsScalar (c : Char) : Bool :=
  [' ', '\t', '\n', '\r', '#', ',', ']', '\x7d'].contains c

/-- The value that a spelling without blanks stands for. -/
def scalar? (spelling : Text) : Option Value :=
  if spelling = "true".toList then some (.boolean true)
  else if spelling = "false".toList then some (.boolean false)
  else if isMoment spelling then some (.moment spelling)
  else if isFloat spelling then some (.float spelling)
  else (readInteger? spelling).map .integer

/-- A value without quotes and brackets at the front of a text. A date takes the
time of day behind a blank with it. -/
def readScalar? (text : Text) : Option (Value × Text) :=
  let spelling := text.takeWhile fun c => !endsScalar c
  let rest := text.drop spelling.length
  let time := match rest with
    | ' ' :: more => more.takeWhile fun c => !endsScalar c
    | _ => []
  if isDate spelling && isTimeOfDate time then
    some (.moment (spelling ++ ' ' :: time), rest.drop (time.length + 1))
  else (scalar? spelling).map fun value => (value, rest)

/-- The items of an array behind its opening bracket. -/
def readItems? (read : Text → Option (Value × Text)) :
    (bound : Nat) → Text → Option (List Value × Text)
  | 0, _ => none
  | bound + 1, text =>
    match skipLines false text with
    | ']' :: rest => some ([], rest)
    | start => do
      let (value, after) ← read start
      match skipLines false after with
      | ',' :: rest =>
        let (values, last) ← readItems? read bound rest
        return (value :: values, last)
      | ']' :: rest => return ([value], rest)
      | _ => none

/-- The keys and values of an inline table behind its opening brace or behind a
comma. -/
def readMembers? (read : Text → Option (Value × Text)) :
    (bound : Nat) → Items → Text → Option (Items × Text)
  | 0, _, _ => none
  | bound + 1, items, text => do
    let (path, key, rest) ← readKey? text
    match rest with
    | '=' :: start =>
      let (value, after) ← read (skipBlanks start)
      let extended ← items.assign path key value .opened
      match skipBlanks after with
      | ',' :: more => readMembers? read bound extended more
      | '\x7d' :: last => return (extended, last)
      | _ => none
    | _ => none

/-- A value at the front of a text that nests no deeper than the bound. -/
def readValue? : (depth : Nat) → Text → Option (Value × Text)
  | depth, '[' :: rest =>
    match depth with
    | 0 => none
    | inner + 1 =>
      (readItems? (fun text => readValue? inner text) (rest.length + 1) rest).map
        fun (values, after) => (.array values, after)
  | depth, '\x7b' :: rest =>
    match depth with
    | 0 => none
    | inner + 1 =>
      match skipBlanks rest with
      | '\x7d' :: after => some (.table [], after)
      | start =>
        (readMembers? (fun text => readValue? inner text) (start.length + 1) [] start).map
          fun (items, after) => (.table (entriesOf items), after)
  | _, text =>
    match text with
    | '\x22' :: _ => (readString? text).map fun (string, rest) => (.string string, rest)
    | '\x27' :: _ => (readString? text).map fun (string, rest) => (.string string, rest)
    | _ => readScalar? text

/-! ## Lines -/

/-- A document while it is read: its items, and the table that the last header
opened. -/
structure Draft where
  items : Items
  current : KeyPath

/-- The header behind its opening bracket. -/
def readHeader? (draft : Draft) (text : Text) : Option (Draft × Text) := do
  let (path, key, rest) ← readKey? text
  match rest with
  | ']' :: after =>
    return (⟨← draft.items.openTable path key, path ++ [key]⟩, ← endLine? after)
  | _ => none

/-- The header behind its two opening brackets. -/
def readRowHeader? (draft : Draft) (text : Text) : Option (Draft × Text) := do
  let (path, key, rest) ← readKey? text
  match rest with
  | ']' :: ']' :: after =>
    return (⟨← draft.items.openRow path key, path ++ [key]⟩, ← endLine? after)
  | _ => none

/-- A key with its value. -/
def readAssignment? (draft : Draft) (text : Text) : Option (Draft × Text) := do
  let (path, key, rest) ← readKey? text
  match rest with
  | '=' :: start =>
    let (value, after) ← readValue? depthLimit (skipBlanks start)
    let items ← draft.items.changeAt false (Items.assign path key value) draft.current .opened
    return (⟨items, draft.current⟩, ← endLine? after)
  | _ => none

/-- One line that is neither blank nor a comment. -/
def readLine? (draft : Draft) : Text → Option (Draft × Text)
  | '[' :: '[' :: rest => readRowHeader? draft rest
  | '[' :: rest => readHeader? draft rest
  | text => readAssignment? draft text

/-- The lines of a document, at most as many as the bound allows. -/
def readLines? : (bound : Nat) → Draft → Text → Option Items
  | 0, _, _ => none
  | bound + 1, draft, text =>
    match skipBlanks text with
    | [] => some draft.items
    | '#' :: rest => (endLine? ('#' :: rest)).bind (readLines? bound draft)
    | '\n' :: rest => readLines? bound draft rest
    | '\r' :: '\n' :: rest => readLines? bound draft rest
    | start => do
      let (extended, rest) ← readLine? draft start
      readLines? bound extended rest

/-- The byte order mark that may stand at the front of a document. -/
def byteOrderMark : Char := '\ufeff'

/-- The entries of a document. -/
def read? (text : Text) : Option Entries :=
  let start := match text with
    | c :: rest => if c = byteOrderMark then rest else text
    | [] => []
  (readLines? (start.length + 1) ⟨[], []⟩ start).map entriesOf

end Hygiene.Toml
