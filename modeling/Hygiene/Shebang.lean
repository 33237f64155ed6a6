import Hygiene.FileKind
import Hygiene.Text.Line

/-!
# The shebang line

A script may begin with a line `#!` that names its interpreter. That line stays
above the header, so it is split off before a header is looked for. An inner
attribute `#![` is not such a line.

The interpreter is the last part of the path behind `#!`. When that is `env`,
it is the first later word that is neither an option nor an assignment.
-/

set_option autoImplicit false

namespace Hygiene.Shebang

/-- The mark at the front of a shebang line. -/
def mark : Text := ['#', '!']

/-- The mark at the front of an inner attribute. -/
def attributeMark : Text := ['#', '!', '[']

/-- Whether the text begins with a shebang line. -/
def opens (content : Text) : Bool :=
  mark.isPrefixOf content && !attributeMark.isPrefixOf content

/-- The shebang line with its line feed, if there is one, and the text below. -/
def split (content : Text) : Option Text × Text :=
  if opens content then
    match Text.lines content with
    | [] => (none, content)
    | line :: _ => (some line, content.drop line.length)
  else (none, content)

/-- The part of a word after its last slash. -/
def baseName (word : Text) : Text :=
  (word.reverse.takeWhile (· ≠ '/')).reverse

/-- The name of the interpreter that a shebang line asks for. -/
def interpreter? (line : Text) : Option Text :=
  (Text.dropBeginning? line mark).bind fun rest =>
    match Text.words rest with
    | [] => none
    | program :: arguments =>
      if baseName program = "env".toList then
        (arguments.find? fun word => word.head? != some '-' && !word.any (· == '=')).map baseName
      else some (baseName program)

/-- The interpreters of each kind. -/
def interpreters : List (Text × FileKind) :=
  [("bash".toList, .shell), ("sh".toList, .shell), ("zsh".toList, .shell),
    ("dash".toList, .shell), ("ksh".toList, .shell), ("python".toList, .python),
    ("node".toList, .javascript)]

/-- Whether a name is the keyword followed by a version, which consists of digits
and dots and may be empty. -/
def isVersionOf (keyword name : Text) : Bool :=
  match Text.dropBeginning? name keyword with
  | none => false
  | some version => version.all fun c => c.isDigit || c == '.'

/-- The kind of the scripts that a shebang line introduces. -/
def kind? (line : Text) : Option FileKind :=
  (interpreter? line).bind fun name =>
    (interpreters.find? fun entry => isVersionOf entry.1 name).map Prod.snd

end Hygiene.Shebang
