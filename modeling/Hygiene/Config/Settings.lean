import Hygiene.Text.Basic

/-!
# Settings

The settings of a repository: what the check of headers falls back on, and the
linter that is run on Python files after the rules of this library. A
repository without settings has the empty ones.
-/

set_option autoImplicit false

namespace Hygiene.Config

/-- Settings for the check of headers. Flags of the command line win over them. -/
structure HeaderSettings where
  license : Option Text
  owner : Option Text
  /-- Patterns of paths that are left out. -/
  exclude : List Text
  year : Option Int
  scanLines : Option Nat
  skipEmpty : Bool
  deriving DecidableEq, Repr

/-- Settings for Python files: the words of the linter's command, and the arguments
before the files. -/
structure LinterSettings where
  command : List Text
  arguments : List Text
  deriving DecidableEq, Repr

/-- The settings of a repository. -/
structure Settings where
  version : Int
  header : HeaderSettings
  linter : LinterSettings
  deriving DecidableEq, Repr

/-- Header settings that say nothing. -/
def HeaderSettings.empty : HeaderSettings := ⟨none, none, [], none, none, false⟩

/-- Linter settings that name no linter. -/
def LinterSettings.empty : LinterSettings := ⟨[], []⟩

/-- The settings of a repository that has none. -/
def Settings.empty : Settings := ⟨0, .empty, .empty⟩

end Hygiene.Config
