import Hygiene.Text.Basic

/-!
# Paths

A path is kept as it is spelled. What it names is read off its components: the
root, a leading `.`, `..`, and names. Empty fields between slashes and inner or
trailing `.` fields name nothing, so they are no components; two spellings with
the same components name the same file, and paths are compared and sorted by
components rather than by characters.

A path here is a text. The system also knows paths that are none, and what is said
of them is said for every kind of paths.
-/

set_option autoImplicit false

namespace Hygiene

/-- A path as it is spelled. -/
structure Path where
  spelling : Text
  deriving DecidableEq, Inhabited

namespace Path

/-- One step of a path, in the order in which paths are sorted: the root, the
directory itself, the directory above, a name. -/
inductive Component where
  | root
  | here
  | above
  | name (text : Text)
  deriving DecidableEq, Ord

/-- The path with a given spelling. -/
def ofString (spelling : String) : Path :=
  ⟨spelling.toList⟩

/-- The spelling of a path. -/
def display (path : Path) : String :=
  String.ofList path.spelling

/-- The texts between the slashes of a path. -/
def fields (path : Path) : List Text :=
  path.spelling.fields (· = '/')

/-- Whether a field inside a path names nothing. -/
def isVoid (field : Text) : Bool :=
  field.isEmpty || field == ['.']

/-- The step that a field inside a path stands for. -/
def stepOf (field : Text) : Component :=
  if field = ['.', '.'] then .above else .name field

/-- The steps of the fields after the first one. -/
def steps (fields : List Text) : List Component :=
  (fields.filter fun field => !isVoid field).map stepOf

/-- The components of a path. -/
def components (path : Path) : List Component :=
  match path.fields with
  | [] => []
  | [[]] => []
  | [] :: rest => .root :: steps rest
  | ['.'] :: rest => .here :: steps rest
  | first :: rest => steps (first :: rest)

/-- Whether the path starts at the root. -/
def isAbsolute (path : Path) : Bool :=
  path.spelling.head? == some '/'

/-- Two spellings of the same path. -/
def same (left right : Path) : Bool :=
  left.components == right.components

/-- Paths are compared component by component. -/
def order (left right : Path) : Ordering :=
  compare left.components right.components

/-- A path read from another one: the second path itself when it is absolute,
and otherwise the first path followed by the second. -/
def join (base path : Path) : Path :=
  if path.isAbsolute then path
  else match base.spelling.getLast? with
    | none => path
    | some '/' => ⟨base.spelling ++ path.spelling⟩
    | some _ => ⟨base.spelling ++ '/' :: path.spelling⟩

/-! ## Parts of a path -/

/-- The fields without the void ones at the end. -/
def trimEnd (fields : List Text) : List Text :=
  (fields.reverse.dropWhile isVoid).reverse

/-- The fields without the void ones at either end. -/
def trim (fields : List Text) : List Text :=
  trimEnd (fields.dropWhile isVoid)

/-- The path spelled by the given fields. -/
def ofFields (fields : List Text) : Path :=
  ⟨Text.join ['/'] fields⟩

/-- The path without a leading `.` and without the void fields at its end. -/
def normalize (path : Path) : Path :=
  match path.fields with
  | ['.'] :: rest => ofFields (trim rest)
  | [] :: rest => if rest.isEmpty then path else ⟨'/' :: (ofFields (trimEnd rest)).spelling⟩
  | fields => ofFields (trimEnd fields)

/-- The directory that holds what the path names, when the path says so. -/
def parent? (path : Path) : Option Path :=
  match path.fields with
  | [] :: rest =>
    match (trimEnd rest).reverse with
    | [] => none
    | _ :: before => some ⟨'/' :: (ofFields (trimEnd before.reverse)).spelling⟩
  | ['.'] :: rest =>
    match (trimEnd rest).reverse with
    | [] => some ⟨[]⟩
    | _ :: before => some (ofFields (['.'] :: trimEnd before.reverse))
  | fields =>
    match (trimEnd fields).reverse with
    | [] => none
    | _ :: before => some (ofFields (trimEnd before.reverse))

/-- A path is followed by its parent, as often as the bound allows. -/
def ancestorsWithin : (bound : Nat) → Path → List Path
  | 0, path => [path]
  | bound + 1, path =>
    path :: match path.parent? with
      | none => []
      | some parent => ancestorsWithin bound parent

/-- The path, its parent, the parent of that, and so on. -/
def ancestors (path : Path) : List Path :=
  ancestorsWithin path.spelling.length path

/-- The last component of a path, when it is a name. -/
def fileName? (path : Path) : Option Text :=
  match path.components.getLast? with
  | some (.name text) => some text
  | _ => none

/-- What follows the last dot of the name. A dot at the front of the name does
not count. -/
def extension? (path : Path) : Option Text :=
  path.fileName?.bind fun name =>
    let extension := (name.reverse.takeWhile (· ≠ '.')).reverse
    if extension.length + 1 < name.length then some extension else none

/-- The first fields of a path taken off while its components agree with those
given, and what is then left of the fields. -/
def dropSteps : List Component → List Text → Option (List Text)
  | [], fields => some fields
  | _ :: _, [] => none
  | step :: others, field :: rest =>
    if isVoid field then dropSteps (step :: others) rest
    else if stepOf field = step then dropSteps others rest
    else none

/-- The path below `base` that the given path spells, when its components begin
with those of `base`. -/
def below? (base path : Path) : Option Path :=
  match base.components, path.fields with
  | [], _ => some (normalizeEnd path)
  | .root :: others, [] :: rest => (dropSteps others rest).map fun left => ofFields (trim left)
  | .here :: others, ['.'] :: rest => (dropSteps others rest).map fun left => ofFields (trim left)
  | .root :: _, _ => none
  | .here :: _, _ => none
  | _, [] :: _ => none
  | _, ['.'] :: _ => none
  | steps, fields => (dropSteps steps fields).map fun left => ofFields (trim left)
where
  /-- The path without the void fields at its end. -/
  normalizeEnd (path : Path) : Path :=
    match path.fields with
    | ['.'] :: rest => ofFields (['.'] :: trimEnd rest)
    | [] :: rest => if rest.isEmpty then path else ⟨'/' :: (ofFields (trimEnd rest)).spelling⟩
    | fields => ofFields (trimEnd fields)

end Path

end Hygiene
