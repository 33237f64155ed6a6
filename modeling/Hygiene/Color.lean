/-!
# Whether to use color

A program is told by its flags whether its report is colored. Without a flag
the environment decides: `NO_COLOR` asks for none, `COLOR` asks for color, and
otherwise color is left to what is known of the terminal. A variable that is
set to nothing counts as set.
-/

set_option autoImplicit false

namespace Hygiene

/-- Whether a report is colored. -/
inductive ColorChoice where
  | never
  | always
  /-- Where the terminal can show it. -/
  | whereShown
  deriving DecidableEq, Repr

/-- What the environment says about color. -/
structure ColorHints where
  /-- `NO_COLOR` is set. -/
  declined : Bool
  /-- `COLOR` is set. -/
  requested : Bool
  /-- `CI` is set. -/
  unattended : Bool
  /-- The standard output is a terminal. -/
  terminal : Bool
  deriving DecidableEq, Repr

namespace ColorChoice

/-- The name of a choice. -/
def name : ColorChoice → String
  | never => "Never"
  | always => "Always"
  | whereShown => "Auto"

/-- The choice that the environment makes. -/
def ofHints (hints : ColorHints) : ColorChoice :=
  if hints.declined then never
  else if hints.requested then always
  else if !hints.terminal || hints.unattended then never
  else whereShown

/-- The choice under the flags that force and that disable color. Disabling
wins, and without a flag the environment decides. -/
def choose (force disable : Bool) (hints : ColorHints) : ColorChoice :=
  if disable then never
  else if force then always
  else ofHints hints

end ColorChoice

end Hygiene
