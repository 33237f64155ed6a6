import Hygiene.Path

/-!
# Unknown fields

A field that the settings do not know is ignored with a warning. For a field
outside the sections the warning names the section that may have been meant.
-/

set_option autoImplicit false

namespace Hygiene.Config

/-- A warning of a field that is ignored. -/
structure Warning where
  field : Text
  suggestion : Option Text
  deriving DecidableEq, Repr

namespace Warning

/-- The names of the sections. -/
def sectionNames : List Text := ["disclaimer".toList, "python".toList]

/-- Words that are written instead of the name of a section. -/
def synonyms : List (Text × List Text) :=
  [("disclaimer".toList,
      ["disclaimers", "license", "copyright", "header", "headers"].map String.toList),
    ("python".toList, ["py", "flake8", "lint"].map String.toList)]

/-- Whether one of two texts is the beginning of the other. -/
def overlap (left right : Text) : Bool :=
  left.isPrefixOf right || right.isPrefixOf left

/-- The section that an unknown name may mean: the one it is a synonym for, or one
whose name begins like it or continues it. A single byte is too little for that. -/
def suggest? (name : Text) : Option Text :=
  match synonyms.find? fun entry => entry.2.contains name with
  | some entry => some entry.1
  | none => if name.utf8Size < 2 then none else sectionNames.find? (overlap name)

/-- The warning of an unknown field outside the sections. -/
def ofName (name : Text) : Warning := ⟨name, suggest? name⟩

/-- The warning of an unknown field in a section. -/
def ofField (sectionName name : Text) : Warning := ⟨sectionName ++ '.' :: name, none⟩

/-- The line in which a warning of a file is written. -/
def display (path : Path) (warning : Warning) : String :=
  "sigoptlint: warning: " ++ path.display ++ ": unrecognized field \x60" ++
    String.ofList warning.field ++ "\x60 (ignored)" ++
    match warning.suggestion with
    | some name => ". Did you mean \x60" ++ String.ofList name ++ "\x60?"
    | none => ""

end Warning

end Hygiene.Config
