import Hygiene.Glob.Match
import Hygiene.Text.Blank

/-!
# Rules of ignore files

A line of an ignore file is a pattern for paths below the directory of the file. A `!` in
front turns the rule around, so that what it matches is kept. A slash at the end confines
the rule to directories. A pattern with a slash elsewhere is matched against the whole
path, and one without a slash against the end of it. Blank lines and lines with `#` in
front say nothing.

Of several rules the last one that matches decides.
-/

set_option autoImplicit false

namespace Hygiene.Ignore

open Glob (Pattern)

/-- A rule for paths. -/
structure Rule where
  pattern : Pattern
  /-- What matches is kept. -/
  keeps : Bool
  onlyDirectories : Bool

/-- What rules say of a path. -/
inductive Opinion where
  | none
  | ignored
  | kept
  deriving DecidableEq, Repr

namespace Opinion

/-- An opinion, or else another one. -/
def orElse : Opinion → Opinion → Opinion
  | .none, other => other
  | opinion, _ => opinion

/-- The first opinion that says something. -/
def first (opinions : List Opinion) : Opinion :=
  opinions.foldr orElse .none

end Opinion

namespace Rule

/-- Whether a rule concerns a path. -/
def concerns (rule : Rule) (isDirectory : Bool) (path : Text) : Bool :=
  (isDirectory || !rule.onlyDirectories) && Pattern.accepts rule.pattern path

/-- What a rule says of the paths that it concerns. -/
def opinion (rule : Rule) : Opinion :=
  if rule.keeps then .kept else .ignored

/-- What rules say of a path. -/
def judge (rules : List Rule) (isDirectory : Bool) (path : Text) : Opinion :=
  match rules.reverse.find? fun rule => rule.concerns isDirectory path with
  | some rule => rule.opinion
  | none => .none

/-! ## Reading -/

/-- A line without the blanks at its end, unless the last one is escaped. -/
def trimmed (line : Text) : Text :=
  if ['\\', ' '].isSuffixOf line then line else line.trimEnd

/-- The pattern of a line without its signs, and whether it is matched only from the
beginning, keeps what it matches, and has a slash in front. -/
def withoutSigns (line : Text) : Text × Bool × Bool :=
  match line with
  | '\\' :: '!' :: rest => ('!' :: rest, false, false)
  | '\\' :: '#' :: rest => ('#' :: rest, false, false)
  | '!' :: '/' :: rest => (rest, true, true)
  | '!' :: rest => (rest, true, false)
  | '/' :: rest => (rest, false, true)
  | _ => (line, false, false)

/-- A pattern without a slash at its end, or a backslash before that, and whether the slash
was there. -/
def withoutSlash (pattern : Text) : Text × Bool :=
  match pattern.reverse with
  | '/' :: '\\' :: before => (before.reverse, true)
  | '/' :: before => (before.reverse, true)
  | _ => (pattern, false)

/-- Two stars with a slash behind them. -/
def anywhere : Text := "**/".toList

/-- The glob of a pattern: anywhere below unless it has a slash, and not what the
directory of a final `/**` itself is. -/
def globOf (anchored : Bool) (pattern : Text) : Text :=
  let unanchored := !anchored && !pattern.contains '/' && pattern != "**".toList
  let glob := if unanchored then anywhere ++ pattern else pattern
  if "/**".toList.isSuffixOf glob then glob ++ "/*".toList else glob

/-- The rule of a line, if it has one. A fault comes with the line as it was read. -/
def read (line : Text) : Except (Text × Glob.Fault) (Option Rule) :=
  if line.head? = some '#' then .ok none
  else
    let written := trimmed line
    if written.isEmpty then .ok none
    else
      let (signless, keeps, anchored) := withoutSigns written
      let (pattern, onlyDirectories) := withoutSlash signless
      match Glob.readPattern true (globOf anchored pattern) with
      | .ok glob => .ok (some ⟨glob, keeps, onlyDirectories⟩)
      | .error fault => .error (written, fault)

end Rule

end Hygiene.Ignore
