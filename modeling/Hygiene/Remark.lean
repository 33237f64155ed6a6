/-!
# Remarks

A remark tells the person who started a program what is done to which file. It
is written only when remarks are asked for.
-/

set_option autoImplicit false

namespace Hygiene.Remark

/-- The line on which a remark is written, when remarks are asked for. -/
def line? (enabled : Bool) (message : String) : Option String :=
  if enabled then some ("[verbose] " ++ message) else none

/-- The lines of several remarks. -/
def lines (enabled : Bool) (messages : List String) : List String :=
  messages.filterMap (line? enabled)

end Hygiene.Remark
