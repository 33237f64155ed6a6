import Hygiene.Config.Settings
import Hygiene.Config.Warning
import Hygiene.Toml.Document
import Hygiene.Toml.Handover

/-!
# Reading settings

Settings are written as a TOML document with a version and a table for each
section. A field with a value of the wrong type makes the document invalid; an
unknown field does not. All values are handed over first, the version as an
integer. Then the version is judged, then the unknown fields outside the sections
are warned of in the order of their names, then the sections are read, each with
the warnings of its own unknown fields first. A fault ends the reading, and the
warnings that were given before it stand.
-/

set_option autoImplicit false

namespace Hygiene.Config

open Toml (Entries Value)

/-- Why a document holds no settings. -/
inductive Fault where
  /-- It is no TOML document, which is told in words on the place of the fault. -/
  | malformed (words : String)
  /-- Its version is no integer, or a value is not handed over, which is told in the same way. -/
  | mistyped (words : String)
  | noVersion
  | unsupportedVersion (version : Int)
  | notATable (name : String)
  /-- A field whose value is not what it must be. -/
  | wrongType (field expected : String)
  | badYear (year : Int)
  deriving DecidableEq, Repr

/-- The version that is supported. -/
def supportedVersion : Int := 1

/-- What is said of a fault. -/
def Fault.reason : Fault → String
  | .malformed words => "TOML parse error" ++ words
  | .mistyped words => "TOML parse error" ++ words
  | .noVersion => "missing required field: version"
  | .unsupportedVersion version =>
    s!"unsupported config version {version} (supported: {supportedVersion})"
  | .notATable name => s!"[{name}] must be a table"
  | .wrongType field expected => s!"{field} must be {expected}"
  | .badYear year => s!"disclaimer.year must be a four-digit year, got {year}"

/-- The result of reading, with the warnings in the order in which they are given. -/
structure Reading (α : Type) where
  warnings : List Warning
  result : Except Fault α

namespace Reading

/-- A result without warnings. -/
def ofResult {α : Type} (result : Except Fault α) : Reading α := ⟨[], result⟩

/-- Reading goes on with what was read, unless there was a fault. -/
def bind {α β : Type} (first : Reading α) (next : α → Reading β) : Reading β :=
  match first.result with
  | .error fault => ⟨first.warnings, .error fault⟩
  | .ok value => ⟨first.warnings ++ (next value).warnings, (next value).result⟩

instance : Monad Reading where
  pure value := ofResult (.ok value)
  bind := bind

/-- Warnings are given. -/
def warn (warnings : List Warning) : Reading Unit := ⟨warnings, .ok ()⟩

end Reading

/-! ## Fields -/

/-- The value of a field under a conversion, when the field is there. -/
def readField {α : Type} (expected : String) (convert : Value → Option α) (sectionName : String)
    (entries : Entries) (name : String) : Except Fault (Option α) :=
  match entries.get? name.toList with
  | none => .ok none
  | some value =>
    match convert value with
    | some converted => .ok (some converted)
    | none => .error (.wrongType (sectionName ++ "." ++ name) expected)

/-- A field that holds a string. -/
def readString : String → Entries → String → Except Fault (Option Text) :=
  readField "a string" Value.string?

/-- A field that holds an array of strings. -/
def readStrings : String → Entries → String → Except Fault (Option (List Text)) :=
  readField "an array of strings" Value.strings?

/-- A field that holds a truth value. -/
def readBoolean : String → Entries → String → Except Fault (Option Bool) :=
  readField "a boolean" Value.boolean?

/-- A field that holds an integer of 32 bits. -/
def readYear : String → Entries → String → Except Fault (Option Int) :=
  readField "a non-negative integer" fun value =>
    value.integer?.filter fun number =>
      Int32.minValue.toInt ≤ number && number ≤ Int32.maxValue.toInt

/-- A field that holds a natural number. -/
def readNat : String → Entries → String → Except Fault (Option Nat) :=
  readField "a non-negative integer" fun value =>
    (value.integer?.filter (0 ≤ ·)).map Int.toNat

/-- The names of the fields of a table in order, without those that are known. -/
def unknownNames (known : List String) (entries : Entries) : List Text :=
  ((entries.map Prod.fst).filter fun name => !(known.map String.toList).contains name).mergeSort
    fun left right => (compare (left.map Char.toNat) (right.map Char.toNat)).isLE

/-! ## Sections -/

/-- The table of a section, when the section is there. -/
def readSection (name : String) (entries : Entries) : Except Fault (Option Entries) :=
  match entries.get? name.toList with
  | none => .ok none
  | some value =>
    match value.table? with
    | some found => .ok (some found)
    | none => .error (.notATable name)

/-- A section read with `read`, after the warnings of the fields that are not known. -/
def readKnown {α : Type} (name : String) (known : List String) (empty : α)
    (read : Entries → Except Fault α) (entries : Entries) : Reading α := do
  match ← Reading.ofResult (readSection name entries) with
  | none => return empty
  | some found =>
    Reading.warn ((unknownNames known found).map (Warning.ofField name.toList))
    Reading.ofResult (read found)

/-- Whether a year has four digits. -/
def isFourDigitYear (year : Int) : Bool :=
  1000 ≤ year && year ≤ 9999

/-- The fields of the section for headers. -/
def readHeaderFields (entries : Entries) : Except Fault HeaderSettings := do
  let year ← readYear "disclaimer" entries "year"
  match year.filter fun number => !isFourDigitYear number with
  | some number => throw (.badYear number)
  | none => pure ()
  return {
    license := ← readString "disclaimer" entries "license"
    owner := ← readString "disclaimer" entries "owner"
    exclude := (← readStrings "disclaimer" entries "exclude").getD []
    year := year
    scanLines := ← readNat "disclaimer" entries "scan_lines"
    skipEmpty := (← readBoolean "disclaimer" entries "skip_empty").getD false }

/-- The fields of the section for the linter. -/
def readLinterFields (entries : Entries) : Except Fault LinterSettings := do
  return {
    command := (← readStrings "python" entries "command").getD []
    arguments := (← readStrings "python" entries "args").getD [] }

/-- The known fields of the section for headers. -/
def headerNames : List String :=
  ["license", "owner", "exclude", "year", "scan_lines", "skip_empty"]

/-- The known fields of the section for the linter. -/
def linterNames : List String := ["command", "args"]

/-- The section for headers. -/
def readHeader : Entries → Reading HeaderSettings :=
  readKnown "disclaimer" headerNames .empty readHeaderFields

/-- The section for the linter. -/
def readLinter : Entries → Reading LinterSettings :=
  readKnown "python" linterNames .empty readLinterFields

/-! ## Documents -/

/-- The known fields of a document. -/
def documentNames : List String := ["version", "disclaimer", "python"]

/-- The fields of a document as they are handed over. The unknown ones are kept first. -/
def handed? (entries : Entries) : Option Entries :=
  entries.mapM fun (name, value) =>
    (value.handed? (!(documentNames.map String.toList).contains name)).map (Prod.mk name)

section

variable [Toml.Words]

/-- The fault of a text with a value that is not what is asked for. -/
def mistyped (content : Text) : Fault :=
  .mistyped (Toml.Words.describe content)

/-- The version of a document, if it is the supported one. -/
def readVersion (content : Text) (entries : Entries) : Except Fault Int :=
  match entries.get? "version".toList with
  | none => .error .noVersion
  | some value =>
    match value.integer? with
    | none => .error (mistyped content)
    | some version =>
      if version = supportedVersion then .ok version else .error (.unsupportedVersion version)

/-- The settings that the fields of a document hold, as they are handed over. -/
def readDocument (content : Text) (entries : Entries) : Reading Settings := do
  let version ← Reading.ofResult (readVersion content entries)
  Reading.warn ((unknownNames documentNames entries).map Warning.ofName)
  let header ← readHeader entries
  let linter ← readLinter entries
  return ⟨version, header, linter⟩

/-- The settings that a text holds. -/
def read (content : Text) : Reading Settings :=
  match Toml.read? content with
  | none => .ofResult (.error (.malformed (Toml.Words.describe content)))
  | some found =>
    match handed? found with
    | none => .ofResult (.error (mistyped content))
    | some entries => readDocument content entries

end

end Hygiene.Config
