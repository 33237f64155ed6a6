import Hygiene.Log
import Hygiene.Text.Blank

/-!
# Log filters

A filter says which events are shown. It is written as directives between
commas: a level on its own, a target with a level behind `=`, or a span in
brackets, with a field in braces, that confines the directive further. A target
or a span without a level shows everything of it.

The directives of a filter are kept with the most specific one first, those
that concern whole targets before those that are confined to spans. Of two
directives that concern the same thing the later one counts.
-/

set_option autoImplicit false

namespace Hygiene.Log

/-- The least important level that is shown. -/
inductive Threshold where
  | off
  | upTo (level : Level)
  deriving DecidableEq, Repr

namespace Threshold

/-- Everything is shown. -/
def everything : Threshold := .upTo .trace

/-- The thresholds by the number that stands for them. -/
def all : List Threshold :=
  [.off, .upTo .error, .upTo .warn, .upTo .info, .upTo .debug, .upTo .trace]

/-- The name of a threshold. -/
def name : Threshold → Text
  | .off => "off".toList
  | .upTo level => level.label.toList.map Char.toLower

/-- The threshold with a given name, in either case, or with a given number. -/
def ofName? (text : Text) : Option Threshold :=
  if !text.isEmpty && text.all Char.isDigit then
    all[text.foldl (fun number c => 10 * number + (c.toNat - '0'.toNat)) 0]?
  else all.find? fun threshold => Text.sameIgnoringCase threshold.name text

end Threshold

/-- What a directive shows: the events of a target, confined to a span and to
fields where these are given. -/
structure Scope where
  target : Option Text
  span : Option Text
  fields : List Text
  deriving DecidableEq, Repr

/-- A scope and the threshold for it. -/
structure Directive where
  scope : Scope
  threshold : Threshold
  deriving DecidableEq, Repr

namespace Scope

/-- Everything. -/
def everywhere : Scope := ⟨none, none, []⟩

/-- Whether the scope is confined to a span or to fields. -/
def isConfined (scope : Scope) : Bool :=
  scope.span.isSome || !scope.fields.isEmpty

/-- Whether the scope can be decided without looking at values. -/
def isPlain (scope : Scope) : Bool :=
  scope.span.isNone && !scope.fields.any fun field => field.contains '='

/-- How specific a scope is, as a number per criterion. -/
def weights (scope : Scope) : List Nat :=
  [(scope.target.map fun target => target.utf8Size + 1).getD 0, scope.span.toList.length,
    scope.fields.length]

/-- The texts of a scope, to order scopes that are equally specific. -/
def texts (scope : Scope) : List Text :=
  scope.target.toList ++ scope.span.toList ++ scope.fields

/-- Scopes are ordered with the most specific one first. -/
def order (left right : Scope) : Ordering :=
  (compare right.weights left.weights).then
    (compare (right.texts.map (·.map Char.toNat)) (left.texts.map (·.map Char.toNat)))

/-- How a scope is written in front of its threshold. -/
def display (scope : Scope) : Text :=
  let confined := scope.span.getD [] ++
    if scope.fields.isEmpty then [] else '{' :: Text.join [','] scope.fields ++ ['}']
  scope.target.getD [] ++ if scope.isConfined then '[' :: confined ++ [']'] else []

end Scope

namespace Directive

/-- How a directive is written. -/
def display (directive : Directive) : Text :=
  match directive.scope.display with
  | [] => directive.threshold.name
  | scope => scope ++ '=' :: directive.threshold.name

/-! ## Reading -/

/-- Whether a target can begin with a character. -/
def beginsTarget (c : Char) : Bool :=
  c.isAlphanum || c == '-' || c == ':' || c == '_' || 127 < c.toNat

/-- The threshold behind a scope; without one everything is shown. -/
def readThreshold? : Text → Option Threshold
  | [] => some .everything
  | ['='] => some .everything
  | '=' :: text => Threshold.ofName? text
  | _ => none

/-- The span and the fields behind an opening bracket, and the text after the
closing one. -/
def readConfines? (text : Text) : Option (Option Text × List Text × Text) :=
  let span := text.takeWhile fun c => c != ']' && c != '{'
  match text.drop span.length with
  | ']' :: rest => some (some span, [], rest)
  | '{' :: rest =>
    let field := rest.takeWhile (· != '}')
    match field, rest.drop field.length with
    | _ :: _, '}' :: ']' :: after =>
      some (if span.isEmpty then none else some span, [field], after)
    | _, _ => none
  | _ => none

/-- A directive as it is written. -/
def read? (text : Text) : Option Directive :=
  match text.trim with
  | [] => none
  | '[' :: rest => do
    let (span, fields, after) ← readConfines? rest
    return ⟨⟨none, span, fields⟩, ← readThreshold? after⟩
  | c :: rest => do
    if !beginsTarget c then none
    let target := (c :: rest).takeWhile fun d => d != '=' && d != '['
    match (c :: rest).drop target.length with
    | [] =>
      match Threshold.ofName? target with
      | some threshold => return ⟨Scope.everywhere, threshold⟩
      | none => return ⟨⟨some target, none, []⟩, .everything⟩
    | '[' :: confines =>
      let (span, fields, after) ← readConfines? confines
      return ⟨⟨some target, span, fields⟩, ← readThreshold? after⟩
    | after => return ⟨⟨some target, none, []⟩, ← readThreshold? after⟩

end Directive

/-! ## Filters -/

/-- The directives of a filter, in order. -/
abbrev Filter := List Directive

namespace Filter

/-- The filter that shows nothing. -/
def silent : Filter := [⟨Scope.everywhere, .off⟩]

/-- A directive put in its place, instead of one with the same scope. -/
def insert (added : Directive) : Filter → Filter
  | [] => [added]
  | first :: others =>
    match added.scope.order first.scope with
    | .lt => added :: first :: others
    | .eq => added :: others
    | .gt => first :: insert added others

/-- The directives in order, those for whole targets first. A directive that is
confined to fields alone counts among both. -/
def ofDirectives (directives : List Directive) : Filter :=
  let insertAll := List.foldl fun filter added => insert added filter
  let (confined, whole) := directives.partition fun directive => directive.scope.isConfined
  insertAll [] (whole ++ confined.filter fun directive => directive.scope.isPlain) ++
    insertAll [] confined

/-- The filter that a text writes down. -/
def read? (text : Text) : Option Filter :=
  (((text.fields (· == ',')).filter fun field => !field.isEmpty).mapM Directive.read?).map
    ofDirectives

/-- The filter that a setting asks for. Without a setting, and with one that is no
filter, nothing is shown. -/
def ofSetting (setting : Option Text) : Filter :=
  (setting.bind read?).getD silent

/-- How a filter is written. -/
def display (filter : Filter) : Text :=
  Text.join [','] (filter.map Directive.display)

end Filter

end Hygiene.Log
