import Mathlib.Data.List.Basic
import Hygiene.Report.Styled

/-!
# What a terminal makes of styled text

A terminal takes text one character after the other. A sequence that selects a rendition, which
is an escape character, a bracket, digits and semicolons, and the letter `m`, is not shown. It
sets the terminal back, or it sets something that stays until the terminal is set back. Anything
else is shown, also a sequence that was begun and goes on otherwise.

A styled text of spans without escape characters is shown as its text (`receiveAll_render`).
Whatever the spans are and whatever the terminal received before, it is set back in the end when
the last two spans are a styled one and one without escape characters (`isReset_render`).
-/

set_option autoImplicit false

namespace Hygiene.Styled

/-! ## The terminal -/

/-- The character with which a control sequence begins. -/
def escape : Char := '\x1b'

/-- Whether a character can stand between the bracket and the letter of a sequence. -/
def isParameter (c : Char) : Bool :=
  c.isDigit || c = ';'

/-- What a terminal shows, what is set since it was set back, and the beginning of a sequence
that it has received so far. -/
structure Terminal where
  shown : Text
  set : List Text
  begun : Text
  deriving DecidableEq

namespace Terminal

/-- A terminal that is set back and shows nothing. -/
def fresh : Terminal := ⟨[], [], []⟩

/-- A sequence is complete. Without a parameter, or with a zero, it sets the terminal back. -/
def select (terminal : Terminal) (parameters : Text) : Terminal :=
  ⟨terminal.shown, if parameters = [] ∨ parameters = ['0'] then []
    else terminal.set ++ [parameters], []⟩

/-- The terminal receives a character. -/
def receive (terminal : Terminal) (c : Char) : Terminal :=
  let shows : Terminal := ⟨terminal.shown ++ terminal.begun ++ [c], terminal.set, []⟩
  if c = escape then ⟨terminal.shown ++ terminal.begun, terminal.set, [c]⟩
  else match terminal.begun with
    | [] => shows
    | [_] => if c = '[' then { terminal with begun := terminal.begun ++ [c] } else shows
    | _ :: _ :: parameters =>
      if isParameter c then { terminal with begun := terminal.begun ++ [c] }
      else if c = 'm' then terminal.select parameters
      else shows

/-- The terminal receives a text. -/
def receiveAll (terminal : Terminal) (text : Text) : Terminal :=
  text.foldl receive terminal

/-- The text without the sequences that select a rendition. -/
def visible (terminal : Terminal) : Text :=
  terminal.shown ++ terminal.begun

/-- Nothing is set, and no sequence is begun. -/
def IsReset (terminal : Terminal) : Prop :=
  terminal.set = [] ∧ terminal.begun = []

theorem isReset_iff {terminal : Terminal} :
    terminal.IsReset ↔ terminal = ⟨terminal.shown, [], []⟩ := by
  obtain ⟨shown, set, begun⟩ := terminal
  simp [IsReset]

/-! ## One text after the other -/

theorem receiveAll_append (terminal : Terminal) (first second : Text) :
    terminal.receiveAll (first ++ second) = (terminal.receiveAll first).receiveAll second :=
  List.foldl_append

/-- A text without an escape character is shown as it is. -/
theorem receiveAll_plain {text : Text} (plain : escape ∉ text) (shown : Text) (set : List Text) :
    receiveAll ⟨shown, set, []⟩ text = ⟨shown ++ text, set, []⟩ := by
  induction text generalizing shown with
  | nil => rw [List.append_nil]; rfl
  | cons c text ih =>
    rw [List.mem_cons, not_or] at plain
    have first : receive ⟨shown, set, []⟩ c = ⟨shown ++ [c], set, []⟩ := by
      rw [receive, if_neg (Ne.symm plain.1), List.append_nil]
    rw [receiveAll, List.foldl_cons, first]
    exact (ih plain.2 _).trans (by rw [List.append_assoc]; rfl)

/-- The parameters of a sequence are collected. -/
theorem receiveAll_parameters {parameters : Text} (all : ∀ c ∈ parameters, isParameter c = true)
    (shown begun : Text) (set : List Text) (a b : Char) :
    receiveAll ⟨shown, set, a :: b :: begun⟩ parameters =
      ⟨shown, set, a :: b :: (begun ++ parameters)⟩ := by
  induction parameters generalizing begun with
  | nil => rw [List.append_nil]; rfl
  | cons c parameters ih =>
    rw [List.forall_mem_cons] at all
    have plain : c ≠ escape := by
      rintro rfl
      cases all.1
    have first : receive ⟨shown, set, a :: b :: begun⟩ c =
        ⟨shown, set, a :: b :: (begun ++ [c])⟩ := by
      rw [receive, if_neg plain]
      exact if_pos all.1
    rw [receiveAll, List.foldl_cons, first]
    exact (ih all.2 _).trans (by rw [List.append_assoc]; rfl)

/-- A control sequence is not shown, and it ends whatever was begun before. -/
theorem receiveAll_control {parameters : String}
    (all : parameters.toList.all isParameter = true) (terminal : Terminal) :
    terminal.receiveAll (control parameters).toList =
      select ⟨terminal.visible, terminal.set, []⟩ parameters.toList := by
  have written : (control parameters).toList =
      [escape, '['] ++ (parameters.toList ++ ['m']) := by
    simp [control, escape]
  have opened : terminal.receiveAll [escape, '['] =
      ⟨terminal.visible, terminal.set, [escape, '[']⟩ := rfl
  rw [written, receiveAll_append, receiveAll_append, opened,
    receiveAll_parameters (List.all_eq_true.mp all)]
  rfl

end Terminal

/-! ## Styled text -/

/-- The parameters that set a style. -/
def Style.parameters (style : Style) : List Text :=
  (if style.bold then [['1']] else []) ++
    match style.color with
    | some color => [['3', Nat.digitChar color.number]]
    | none => []

namespace Terminal

theorem receiveAll_reset (terminal : Terminal) :
    terminal.receiveAll reset.toList = ⟨terminal.visible, [], []⟩ :=
  receiveAll_control (by decide) terminal

theorem receiveAll_bold (terminal : Terminal) :
    terminal.receiveAll (control "1").toList =
      ⟨terminal.visible, terminal.set ++ [['1']], []⟩ :=
  receiveAll_control (by decide) terminal

theorem receiveAll_color (color : Color) (terminal : Terminal) :
    terminal.receiveAll (control s!"3{color.number}").toList =
      ⟨terminal.visible, terminal.set ++ [['3', Nat.digitChar color.number]], []⟩ := by
  cases color <;> exact receiveAll_control (by decide) terminal

theorem receiveAll_setting (style : Style) (terminal : Terminal) :
    terminal.receiveAll style.setting.toList = ⟨terminal.visible, style.parameters, []⟩ := by
  obtain ⟨bold, color⟩ := style
  have weight : receiveAll ⟨terminal.visible, [], []⟩
      (if bold then control "1" else "").toList =
        ⟨terminal.visible, if bold then [['1']] else [], []⟩ := by
    cases bold with
    | false => rfl
    | true => exact (receiveAll_bold _).trans (by rw [visible, List.append_nil]; rfl)
  rw [Style.setting, String.toList_append, String.toList_append, receiveAll_append,
    receiveAll_append, receiveAll_reset, weight, Style.parameters]
  cases color with
  | none => exact congrArg (Terminal.mk _ · _) (List.append_nil _).symm
  | some color => exact (receiveAll_color color _).trans (by rw [visible, List.append_nil])

/-- A styled span ends with the terminal set back. -/
theorem isReset_styled (terminal : Terminal) (style : Style) (text : String) :
    (terminal.receiveAll ((Span.styled style text).show true).toList).IsReset := by
  have shown : (Span.styled style text).show true = style.setting ++ text ++ reset := rfl
  rw [shown, String.toList_append, receiveAll_append, receiveAll_reset]
  exact ⟨rfl, rfl⟩

/-- A span without escape characters is shown as its text and leaves the terminal set back. -/
theorem receiveAll_show {span : Span} (plain : escape ∉ span.text.toList) (shown : Text) :
    receiveAll ⟨shown, [], []⟩ (span.show true).toList =
      ⟨shown ++ span.text.toList, [], []⟩ := by
  obtain ⟨text, style⟩ := span
  cases style with
  | none => exact receiveAll_plain plain shown []
  | some style =>
    have spans : (Span.mk text (some style)).show true = style.setting ++ text ++ reset := rfl
    rw [spans, String.toList_append, String.toList_append, receiveAll_append, receiveAll_append,
      receiveAll_setting, visible, List.append_nil, receiveAll_plain plain, receiveAll_reset,
      visible, List.append_nil]

/-- Styled text without escape characters is shown as its text. -/
theorem receiveAll_render {spans : List Span}
    (plain : ∀ span ∈ spans, escape ∉ span.text.toList) (shown : Text) :
    receiveAll ⟨shown, [], []⟩ (render true spans).toList =
      ⟨shown ++ (text spans).toList, [], []⟩ := by
  rw [render, text, String.toList_join, String.toList_join, List.flatMap_map, List.flatMap_map]
  induction spans generalizing shown with
  | nil => rw [List.flatMap_nil, List.flatMap_nil, List.append_nil]; rfl
  | cons span spans ih =>
    rw [List.forall_mem_cons] at plain
    rw [List.flatMap_cons, List.flatMap_cons, receiveAll_append, receiveAll_show plain.1,
      ih plain.2, List.append_assoc]

/-- Styled text leaves the terminal set back that ends with a styled span and with a text without
escape characters, whatever stands in front. -/
theorem isReset_render (terminal : Terminal) (before : List Span) (style : Style) (word : String)
    {last : String} (plain : escape ∉ last.toList) :
    (terminal.receiveAll
      (render true (before ++ [.styled style word, .plain last])).toList).IsReset := by
  have ends : (render true (before ++ [.styled style word, .plain last])).toList =
      (render true before).toList ++
        (((Span.styled style word).show true).toList ++ last.toList) := by
    simp [render, String.toList_join, Span.show, Span.plain]
  rw [ends, receiveAll_append, receiveAll_append]
  have styled := isReset_styled (terminal.receiveAll (render true before).toList) style word
  rw [isReset_iff] at styled
  rw [styled, receiveAll_plain plain]
  exact ⟨rfl, rfl⟩

end Terminal

end Hygiene.Styled
