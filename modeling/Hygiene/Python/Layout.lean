import Hygiene.Python.Place
import Hygiene.Python.Kind

/-!
# Layout

Line ends, indentation and strings are read with a memory: the indentations of
the open blocks and the quotes of the open strings. Which of these tokens can
stand at a place depends on the phrase under way, so the reader is told which of
them are welcome.

* Inside a string the text runs to the closing quotes, to a backslash that
  escapes something, or, in a format string, to a brace.
* Elsewhere blanks, comment lines and joined lines are passed over, and the
  indentation of the line that is reached is measured: a space counts one, a tab
  eight, and a carriage return or a form feed begins anew. When a line has ended,
  deeper indentation opens a block and shallower indentation closes one; when
  neither is the case the line end itself is the token.
-/

set_option autoImplicit false

namespace Hygiene.Python

/-- The quotes of an open string. -/
structure Quotes where
  mark : Char
  triple : Bool
  format : Bool
  raw : Bool
  bytes : Bool
  deriving DecidableEq, Repr, Inhabited

/-- What the reader remembers: the indentations of the open blocks and the open
strings, innermost first, and whether the last string that was opened or closed
leaves the reader inside a format string. -/
structure Layout where
  indents : List Nat
  strings : List Quotes
  insideFormat : Bool
  deriving DecidableEq, Repr, Inhabited

/-- Which tokens of the layout can stand at a place, and whether a closing bracket
can. -/
structure LayoutWelcome where
  newline : Bool
  indent : Bool
  dedent : Bool
  stringStart : Bool
  stringChunk : Bool
  doubledBrace : Bool
  closing : Bool
  deriving Repr

/-- A token with its extent, and the memory after it. -/
structure LayoutToken where
  token : Token
  first : Place
  last : Place
  layout : Layout

namespace Layout

/-- The memory at the beginning of a source. -/
def start : Layout := ⟨[0], [], false⟩

/-! ## Inside a string -/

/-- How the text of a string goes on: with some characters of content, with its
closing quotes after some characters, in no way, or up to the end of the source. -/
inductive StringPart where
  | chunk (length : Nat)
  | close (length : Nat)
  | nothing
  | openEnd
  deriving DecidableEq, Repr

/-- A chunk of the given length, when anything was read. -/
def chunkWhen (hasContent : Bool) (length : Nat) : StringPart :=
  if hasContent then .chunk length else .nothing

/-- The character that stands in a source where it has a null character, which ends
every run of text. -/
def null : Char := '\x00'

/-- How many characters belong to a backslash of a raw string: a quote or another
backslash, and then the end of a line. -/
def rawEscapeLength (quotes : Quotes) (text : Text) : Nat :=
  let quoted := match text with
    | c :: _ => if c = quotes.mark || c = '\\' then 1 else 0
    | [] => 0
  quoted + match text.drop quoted with
    | '\r' :: '\n' :: _ => 2
    | '\r' :: _ => 1
    | '\n' :: _ => 1
    | _ => 0

/-- The end of a string in triple quotes, or the quotes that fall short of it, when
one quote was just read. -/
def tripleQuotePart (quotes : Quotes) (hasContent : Bool) (length : Nat) : Text → StringPart
  | c :: d :: _ =>
    if c ≠ quotes.mark then .chunk (length + 1)
    else if d ≠ quotes.mark then .chunk (length + 2)
    else if hasContent then .chunk length
    else .close (length + 3)
  | [c] => .chunk (length + if c = quotes.mark then 2 else 1)
  | [] => .chunk (length + 1)

/-- The part of a string that comes next, when `length` characters were passed
already and `hasContent` says whether they count as content. The next `escaped`
characters are passed whatever they are. -/
def stringPart (quotes : Quotes) : (hasContent : Bool) → (length escaped : Nat) → Text → StringPart
  | _, _, _, [] => .openEnd
  | hasContent, length, escaped + 1, _ :: rest =>
    stringPart quotes hasContent (length + 1) escaped rest
  | hasContent, length, 0, c :: rest =>
    if c = null then .openEnd
    else if (c = '\x7b' || c = '\x7d') && quotes.format then chunkWhen hasContent length
    else if c = '\\' then
      if quotes.raw then
        stringPart quotes hasContent (length + 1) (rawEscapeLength quotes rest) rest
      else if quotes.bytes && (rest.head?.any fun d => d = 'N' || d = 'u' || d = 'U') then
        stringPart quotes true (length + 1) 2 rest
      else chunkWhen hasContent length
    else if c = quotes.mark then
      if quotes.triple then tripleQuotePart quotes hasContent length rest
      else if hasContent then .chunk length
      else .close (length + 1)
    else if c = '\n' && hasContent && !quotes.triple then .nothing
    else stringPart quotes true (length + 1) 0 rest

/-! ## Between tokens -/

/-- What was found between two tokens: how many characters were passed, whether a
line ended, the indentation of the line that was reached, and the indentation of
the first comment line. -/
structure Gap where
  length : Nat
  lineEnded : Bool
  indent : Nat
  commentIndent : Option Nat
  deriving DecidableEq, Repr

/-- Passes over blanks, joined lines and comment lines. There is no gap when a
comment stands behind code, or when a backslash joins no lines. The first flag
says whether a comment line is being passed. -/
def passGap (commentsCount : Bool) : (inComment : Bool) → Gap → Text → Option Gap
  | _, gap, [] => some { gap with lineEnded := true, indent := 0 }
  | true, gap, c :: rest =>
    if c = '\n' || c = null then
      passGap commentsCount false { gap with length := gap.length + 1, indent := 0 } rest
    else passGap commentsCount true { gap with length := gap.length + 1 } rest
  | false, gap, '\n' :: rest =>
    passGap commentsCount false
      { gap with length := gap.length + 1, lineEnded := true, indent := 0 } rest
  | false, gap, '\\' :: '\r' :: '\n' :: rest =>
    passGap commentsCount false { gap with length := gap.length + 3 } rest
  | false, gap, ['\\', '\r'] =>
    some { gap with length := gap.length + 2, lineEnded := true, indent := 0 }
  | false, gap, '\\' :: '\n' :: rest =>
    passGap commentsCount false { gap with length := gap.length + 2 } rest
  | false, gap, ['\\'] =>
    some { gap with length := gap.length + 1, lineEnded := true, indent := 0 }
  | false, gap, c :: rest =>
    let passed := gap.length + 1
    if c = ' ' then
      passGap commentsCount false { gap with length := passed, indent := gap.indent + 1 } rest
    else if c = '\t' then
      passGap commentsCount false { gap with length := passed, indent := gap.indent + 8 } rest
    else if c = '\r' || c = '\x0c' then
      passGap commentsCount false { gap with length := passed, indent := 0 } rest
    else if c = '#' && commentsCount then
      if !gap.lineEnded then none
      else
        passGap commentsCount true
          { gap with
            length := passed,
            commentIndent := gap.commentIndent.or (some gap.indent) } rest
    else if c = '\\' then none
    else some gap

/-! ## The opening of a string -/

/-- A letter that can stand before the quotes of a string. -/
def isFlag (c : Char) : Bool :=
  ['f', 'r', 'b', 'u'].contains c.toLower

/-- A character that can quote a string. -/
def isQuote (c : Char) : Bool :=
  c = '\x60' || c = '\x27' || c = '\x22'

/-- The quotes that open a string at the front of a text, and how many characters
they take with the flags before them. -/
def openingQuotes? (text : Text) : Option (Quotes × Nat) :=
  let flags := text.takeWhile isFlag
  let has (letter : Char) : Bool := flags.any fun c => c.toLower = letter
  match text.drop flags.length with
  | [] => none
  | c :: rest =>
    if isQuote c then
      let triple := c ≠ '\x60' && [c, c].isPrefixOf rest
      some (⟨c, triple, has 'f', has 'r', has 'b'⟩,
        flags.length + if triple then 3 else 1)
    else none

/-! ## The next token of the layout -/

/-- The token at the end of a line: a block opens, a block closes, or the line
just ends. -/
def lineToken? (layout : Layout) (welcome : LayoutWelcome) (gap : Gap) (reached : Text) :
    Option (Token × Layout) :=
  let current := layout.indents.head?
  let opens := match current with
    | some indent => welcome.indent && indent < gap.indent
    | none => false
  let stringNext := match reached.head? with
    | some c => isQuote c
    | none => false
  let mayClose := welcome.dedent ||
    (!welcome.newline && !(welcome.stringStart && stringNext) && !welcome.closing)
  let closes := match current with
    | some indent =>
      mayClose && gap.indent < indent && !layout.insideFormat &&
        match gap.commentIndent with
        | some comment => comment < indent
        | none => true
    | none => false
  if !gap.lineEnded then none
  else if opens then some (.indent, { layout with indents := gap.indent :: layout.indents })
  else if closes then some (.dedent, { layout with indents := layout.indents.tail })
  else if welcome.newline && !(welcome.stringChunk && welcome.indent) then
    some (.newline, layout)
  else none

/-- The token that opens a string at a place. -/
def openString? (layout : Layout) (welcome : LayoutWelcome) (gap : Gap) (reached : Place) :
    Option LayoutToken :=
  if welcome.stringStart && gap.commentIndent.isNone then
    (openingQuotes? reached.rest).map fun (quotes, length) =>
      { token := .stringStart, first := reached, last := reached.skip length,
        layout := { layout with
          strings := quotes :: layout.strings, insideFormat := quotes.format } }
  else none

/-- The token of the layout outside the text of a string. -/
def betweenTokens? (layout : Layout) (welcome : LayoutWelcome) (place : Place) :
    Option LayoutToken :=
  let commentsCount := welcome.indent || welcome.dedent || welcome.newline
  (passGap commentsCount false ⟨0, false, 0, none⟩ place.rest).bind fun gap =>
    let reached := place.skip gap.length
    match layout.lineToken? welcome gap reached.rest with
    | some (token, layout) => some { token, first := place, last := place, layout }
    | none => layout.openString? welcome gap reached

/-- The doubled brace at the front of a format string's text: there is one, there
is a single brace, or there is no brace. -/
def bracePair? (quotes : Quotes) : Text → Option Bool
  | c :: rest =>
    if quotes.format && (c = '\x7b' || c = '\x7d') then some (rest.head? == some c) else none
  | [] => none

/-- The token of the layout at a place, when there is one that is welcome or that
the end of a line forces. -/
def token? (layout : Layout) (welcome : LayoutWelcome) (place : Place) : Option LayoutToken :=
  let recovering := welcome.stringChunk && welcome.indent
  match layout.strings with
  | [] => layout.betweenTokens? welcome place
  | quotes :: outer =>
    match if welcome.doubledBrace && !recovering then bracePair? quotes place.rest else none with
    | some true =>
      some { token := .doubledBrace, first := place, last := place.skip 2, layout }
    | some false => none
    | none =>
      if welcome.stringChunk && !recovering then
        match stringPart quotes false 0 0 place.rest with
        | .chunk length =>
          some { token := .stringChunk, first := place, last := place.skip length, layout }
        | .close length =>
          some { token := .stringEnd, first := place, last := place.skip length,
                 layout := { layout with strings := outer, insideFormat := false } }
        | .nothing => none
        | .openEnd => none
      else layout.betweenTokens? welcome place

end Layout

end Hygiene.Python
