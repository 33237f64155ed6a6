import Hygiene.Text.Basic

/-!
# Styled text

A styled text is a sequence of spans. A span carries a style or none; shown
without color it is its text alone, and shown in color a span with a style is
preceded by the sequences that set the style and followed by the one that sets
the terminal back.
-/

set_option autoImplicit false

namespace Hygiene.Styled

/-- The colors of a terminal that a report uses. -/
inductive Color where
  | red
  | green
  | yellow
  | cyan
  deriving DecidableEq, Repr

/-- The number of a color. -/
def Color.number : Color → Nat
  | .red => 1
  | .green => 2
  | .yellow => 3
  | .cyan => 6

/-- How a span is set off. -/
structure Style where
  bold : Bool
  color : Option Color
  deriving DecidableEq, Repr

/-- A text with or without a style. -/
structure Span where
  text : String
  style : Option Style
  deriving DecidableEq, Repr

/-- A text without a style. -/
def Span.plain (text : String) : Span := ⟨text, none⟩

/-- A text in a style. -/
def Span.styled (style : Style) (text : String) : Span := ⟨text, some style⟩

/-- A control sequence of the terminal. -/
def control (parameters : String) : String :=
  "\x1b[" ++ parameters ++ "m"

/-- The sequence that sets the terminal back. -/
def reset : String := control "0"

/-- The sequences that set a style, from any style before. -/
def Style.setting (style : Style) : String :=
  reset ++ (if style.bold then control "1" else "") ++
    match style.color with
    | some color => control s!"3{color.number}"
    | none => ""

/-- How a span is shown. -/
def Span.show (colored : Bool) (span : Span) : String :=
  match colored, span.style with
  | true, some style => style.setting ++ span.text ++ reset
  | _, _ => span.text

/-- How a styled text is shown. -/
def render (colored : Bool) (spans : List Span) : String :=
  String.join (spans.map (Span.show colored))

/-- The text of a sequence of spans. -/
def text (spans : List Span) : String :=
  String.join (spans.map Span.text)

/-- Without color a styled text shows its text. -/
theorem render_false (spans : List Span) : render false spans = text spans := by
  simp only [render, text]
  congr 1

end Hygiene.Styled
