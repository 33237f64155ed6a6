import Hygiene.Text.Line

/-!
# Directives of shell scripts

A shell script has to stop at the first failure, also inside a pipeline, and
has to name its interpreter. Each of these is asked for by one line, and a
script can decline it by another line that stands in its place. A directive is
given when one of these lines stands on some line of the script, at any
indentation.
-/

set_option autoImplicit false

namespace Hygiene.Shell

/-- A required line, and the lines that can stand in its place. -/
structure Directive where
  line : Text
  alternatives : List Text
  deriving DecidableEq, Repr

/-- The directives that every script needs, in the order of their report. -/
def requiredDirectives : List Directive :=
  [{ line := "set -e".toList, alternatives := ["set +e".toList, "# no_set_e".toList] },
    { line := "set -o pipefail".toList,
      alternatives := ["set +o pipefail".toList, "# no_pipefail".toList] },
    { line := "#!/usr/bin/env bash".toList, alternatives := ["#!/usr/bin/env sh".toList] }]

/-- Whether a line without blanks at its ends gives the directive. -/
def Directive.isGivenBy (directive : Directive) (line : Text) : Bool :=
  line == directive.line || directive.alternatives.contains line

/-- The required directives that no line of a script gives. -/
def missingDirectives (content : Text) : List Directive :=
  let lines := (Text.lines content).map Text.trim
  requiredDirectives.filter fun directive => !lines.any directive.isGivenBy

end Hygiene.Shell
