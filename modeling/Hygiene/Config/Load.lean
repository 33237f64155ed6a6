import Hygiene.Config.Discovery
import Hygiene.Config.Reader
import Hygiene.Log

/-!
# Loading the settings

The settings are read from their file, if there is one. Warnings of unknown fields are for
whoever runs the program, and they are given also when the settings then turn out to be
wrong.
-/

set_option autoImplicit false

namespace Hygiene.Config

open Log (Event)

/-- The settings that were loaded, with the lines that warn of unknown fields. -/
structure Loaded where
  settings : Except Error Settings
  warnings : List String
  events : List Event

/-- The text of a settings file. -/
def fileText (workspace : Workspace) (path : Path) : Except Error Text :=
  match workspace.bytes path with
  | .error error => .error (.io path (.system error))
  | .ok bytes =>
    match String.fromUTF8? bytes with
    | some content => .ok content.toList
    | none => .error (.io path (.stated "stream did not contain valid UTF-8"))

section

variable [Toml.Words]

/-- The settings that a text in a file holds. -/
def settingsOf (path : Path) (content : Text) : Except Error Settings × List String :=
  let reading := read content
  (reading.result.mapError fun fault => .config fault.reason (some path),
    reading.warnings.map (Warning.display path))

/-- The settings in a file, or the empty ones without a file. -/
def load (workspace : Workspace) (file : Option Path) : Loaded :=
  match file with
  | none => ⟨.ok .empty, [], []⟩
  | some path =>
    match fileText workspace path with
    | .error error => ⟨.error error, [], []⟩
    | .ok content =>
      let (settings, warnings) := settingsOf path content
      ⟨settings, warnings, [.debug ("loading config from " ++ path.display)]⟩

end

end Hygiene.Config
