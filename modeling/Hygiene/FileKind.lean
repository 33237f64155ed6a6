import Hygiene.Path

/-!
# Kinds of files

A file belongs to a kind that says how its header is laid out and which
comments can hold one. The kind is read off the file's name, by its extension
or by the beginning of its name, or off the interpreter that its first line
asks for.
-/

set_option autoImplicit false

namespace Hygiene

/-- The kinds of files that carry a header. -/
inductive FileKind where
  | python
  | shell
  | dockerfile
  | config
  | javascript
  | less
  | markdown
  | cLike
  deriving DecidableEq, Repr

/-- How the lines of a header are written as a comment. -/
inductive Layout where
  /-- Each line stands behind the marker. -/
  | line (marker : Text)
  /-- The lines stand between an opener and a closer, each behind the margin. -/
  | block (opener margin closer : Text)
  deriving DecidableEq, Repr

namespace Layout

/-- The number of lines a header takes in a layout. -/
def lineCount : Layout → Nat
  | .line _ => 3
  | .block _ _ _ => 5

/-- The position of the line that states the copyright. -/
def copyrightLine : Layout → Nat
  | .line _ => 0
  | .block _ _ _ => 1

end Layout

/-- The comment marks by which an existing header is found: the marker of a
line comment, if the kind has one, and the pairs that enclose a block. -/
structure CommentMarks where
  line : Option Text
  blocks : List (Text × Text)
  deriving DecidableEq, Repr

namespace FileKind

/-- All kinds. -/
def all : List FileKind :=
  [.python, .shell, .dockerfile, .config, .javascript, .less, .markdown, .cLike]

/-- The name under which a kind is reported. -/
def name : FileKind → String
  | .python => "python"
  | .shell => "shell"
  | .dockerfile => "dockerfile"
  | .config => "config"
  | .javascript => "javascript"
  | .less => "less"
  | .markdown => "markdown"
  | .cLike => "c-like"

/-- The layout of a header in files of a kind. -/
def layout : FileKind → Layout
  | .python | .shell | .dockerfile | .config => .line ['#', ' ']
  | .javascript | .less => .block ['/', '*', '*'] [' ', '*', ' '] [' ', '*', '/']
  | .markdown => .block ['<', '!', '-', '-'] [] ['-', '-', '>']
  | .cLike => .line ['/', '/', ' ']

/-- The marks that can open an existing header. A string literal in triple
quotes at the top of a Python file is read as a block comment. -/
def marks : FileKind → CommentMarks
  | .python =>
    { line := some ['#'],
      blocks :=
        [(['\x22', '\x22', '\x22'], ['\x22', '\x22', '\x22']),
          (['\x27', '\x27', '\x27'], ['\x27', '\x27', '\x27'])] }
  | .shell | .dockerfile | .config => { line := some ['#'], blocks := [] }
  | .javascript | .less | .cLike =>
    { line := some ['/', '/'], blocks := [(['/', '*'], ['*', '/'])] }
  | .markdown => { line := none, blocks := [(['<', '!', '-', '-'], ['-', '-', '>'])] }

/-! ## Detection by name -/

/-- The extensions of each kind, in lower case. -/
def extensions : List (Text × FileKind) :=
  [("py".toList, .python), ("pyi".toList, .python),
    ("sh".toList, .shell), ("bash".toList, .shell),
    ("yml".toList, .config), ("yaml".toList, .config), ("toml".toList, .config),
    ("js".toList, .javascript), ("jsx".toList, .javascript),
    ("ts".toList, .javascript), ("tsx".toList, .javascript),
    ("less".toList, .less), ("md".toList, .markdown),
    ("rs".toList, .cLike), ("go".toList, .cLike), ("c".toList, .cLike), ("h".toList, .cLike),
    ("cc".toList, .cLike), ("cpp".toList, .cLike), ("java".toList, .cLike)]

/-- The kind a file's name stands for. A name that begins with `Dockerfile` is a
Dockerfile; any other name is judged by its extension, in either case. -/
def ofPath? (path : Path) : Option FileKind :=
  path.fileName?.bind fun name =>
    if "Dockerfile".toList.isPrefixOf name then some .dockerfile
    else path.extension?.bind fun extension =>
      (extensions.find? fun entry => Text.sameIgnoringCase entry.1 extension).map Prod.snd

end FileKind

end Hygiene
