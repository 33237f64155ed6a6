import Hygiene.FileKind
import Hygiene.Text.Blank
import Hygiene.Text.Digit

/-!
# The notice

A notice names the holder of the copyright and the license. Written in a layout
it is a block of three lines, or of five with an opener and a closer. The
notice either fixes the year or takes any year or span of years that stands in
the file.

Lines match a notice when they are, character for character, the lines that the
notice renders to. Where any year is welcome, the year is read from the line
that states the copyright and the notice is rendered with it.
-/

set_option autoImplicit false

namespace Hygiene.Header

/-- The years that a notice accepts. -/
inductive YearPolicy where
  /-- Any year or span of years that the file carries. -/
  | any
  /-- This year only. -/
  | fixed (year : Int)
  deriving DecidableEq, Repr

/-- A copyright and license notice. -/
structure Notice where
  license : Text
  owner : Text
  year : YearPolicy
  deriving DecidableEq, Repr

/-- The words before the year on the line that states the copyright. -/
def copyrightLabel : Text := "Copyright © ".toList

/-- The words before the license. -/
def licenseLabel : Text := "SPDX-License-Identifier: ".toList

/-- The four digits at the front of a text, and the text after them. -/
def takeYear? : Text → Option (Text × Text)
  | a :: b :: c :: d :: rest =>
    if [a, b, c, d].all isDecimalDigit then some ([a, b, c, d], rest) else none
  | _ => none

/-- The year or span of years at the front of a text, when a space follows. -/
def leadingYears? (text : Text) : Option Text :=
  (takeYear? text).bind fun (first, rest) =>
    match rest with
    | ' ' :: _ => some first
    | '-' :: later =>
      (takeYear? later).bind fun (last, after) =>
        if after.head? = some ' ' then some (first ++ '-' :: last) else none
    | _ => none

/-- The years behind the first copyright label in the text that has years behind
it. -/
def yearsIn? : Text → Option Text
  | [] => none
  | c :: rest =>
    ((Text.dropBeginning? (c :: rest) copyrightLabel).bind leadingYears?).or (yearsIn? rest)

namespace Notice

/-- The year that a fix writes. -/
def writtenYear (notice : Notice) (currentYear : Nat) : Text :=
  match notice.year with
  | .any => Text.ofNat currentYear
  | .fixed year => Text.ofInt year

/-- The lines of the notice in a layout, with a given year. -/
def renderLines (notice : Notice) (layout : Layout) (year : Text) : List Text :=
  let copyright := copyrightLabel ++ year ++ ' ' :: notice.owner
  let license := licenseLabel ++ notice.license
  match layout with
  | .line marker => [marker ++ copyright, marker.trimEnd, marker ++ license]
  | .block opener margin closer =>
    [opener, margin ++ copyright, margin.trimEnd, margin ++ license, closer]

/-- The notice as a fix writes it, each line with its line feed. -/
def render (notice : Notice) (layout : Layout) (currentYear : Nat) : Text :=
  Text.join ['\n'] (notice.renderLines layout (notice.writtenYear currentYear)) ++ ['\n']

/-- The year with which the notice has to be rendered to match the lines. -/
def expectedYear? (notice : Notice) (layout : Layout) (lines : List Text) : Option Text :=
  match notice.year with
  | .fixed year => some (Text.ofInt year)
  | .any => lines[layout.copyrightLine]?.bind yearsIn?

/-- Whether the lines begin with the notice. -/
def matchesLines (notice : Notice) (layout : Layout) (lines : List Text) : Bool :=
  match notice.expectedYear? layout lines with
  | none => false
  | some year => (notice.renderLines layout year).isPrefixOf lines

/-- A notice takes as many lines as its layout says. -/
theorem length_renderLines (notice : Notice) (layout : Layout) (year : Text) :
    (notice.renderLines layout year).length = layout.lineCount := by
  cases layout <;> rfl

end Notice

end Hygiene.Header
