import Hygiene.Header.Verdict

/-!
# Fixing a header

A fixed file has its shebang line, the notice, one blank line, and what is left
of the body once the stale text and the blank lines at its front are gone. A
file whose header is correct is not fixed.
-/

set_option autoImplicit false

namespace Hygiene.Header

/-- A line with a line feed at its end, put there when it is missing. -/
def terminated (line : Text) : Text :=
  if line.getLast? = some '\n' then line else line ++ ['\n']

/-- The content of a fixed file, put together from its parts. -/
def assemble (shebang : Option Text) (notice rest : Text) : Text :=
  (shebang.map terminated).getD [] ++ notice ++ if rest.isEmpty then [] else '\n' :: rest

/-- The body without its stale text and without the blank lines at the front of
what remains. -/
def remainder (verdict : Verdict) (body : Text) : Text :=
  Text.dropBlankLines (body.drop verdict.stale.length)

/-- The content with the notice in its place, or nothing when the notice is in
its place already. -/
def fix? (kind : FileKind) (notice : Notice) (scanLines currentYear : Nat) (content : Text) :
    Option Text :=
  let (shebang, body) := Shebang.split content
  let verdict := classify kind notice scanLines body
  if verdict.status = .correct then none
  else some (assemble shebang (notice.render kind.layout currentYear) (remainder verdict body))

end Hygiene.Header
