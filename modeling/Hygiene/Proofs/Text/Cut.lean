import Hygiene.Proofs.Text.Lines
import Mathlib.Algebra.GroupWithZero.Nat

/-!
# Cutting by position

A position in an encoded text is a number of bytes. A text can be cut there when its first
characters take exactly that many bytes, so not inside a character and not beyond the end
(`cut_eq_some_iff`). A list can be cut at every position up to its length.

A computation with positions asks for each cut and each difference that it makes whether there
is one (`Ranged`). It goes on as long as there is, and otherwise its outcome is the reason why
there is none.
-/

set_option autoImplicit false

namespace Hygiene

namespace Text

/-- The text before a position and the text from there on. -/
def cut? : (position : Nat) → Text → Option (Text × Text)
  | 0, text => some ([], text)
  | _ + 1, [] => none
  | position + 1, c :: rest =>
    if c.utf8Size ≤ position + 1 then
      (cut? (position + 1 - c.utf8Size) rest).map fun (before, after) => (c :: before, after)
    else none

theorem utf8Size_cons (c : Char) (rest : Text) :
    utf8Size (c :: rest) = c.utf8Size + utf8Size rest := rfl

theorem sum_map_utf8Size (texts : List Text) :
    (texts.map utf8Size).sum = utf8Size texts.flatten := by
  induction texts with
  | nil => rfl
  | cons text others ih =>
    rw [List.map_cons, List.sum_cons, ih, List.flatten_cons, utf8Size_append]

theorem utf8Size_toLower (c : Char) : c.toLower.utf8Size = c.utf8Size := by
  by_cases upper : 65 ≤ c.val ∧ c.val ≤ 90
  · have lower : c.toLower.val = c.val + 32 := congrArg Char.val (dif_pos upper)
    have small : c.val ≤ 0x7f := UInt32.le_trans upper.2 (by decide)
    have least : 65 ≤ c.val.toNat := upper.1
    have most : c.val.toNat ≤ 90 := upper.2
    have few : c.toLower.val ≤ 0x7f := by
      rw [lower, UInt32.le_iff_toNat_le, UInt32.toNat_add]
      have sum : (c.val.toNat + 32) % 2 ^ 32 ≤ 127 := by omega
      exact sum
    rw [Char.utf8Size_eq_one_iff.mpr small, Char.utf8Size_eq_one_iff.mpr few]
  · have same : c.toLower = c := dif_neg upper
    rw [same]

theorem utf8Size_map_toLower (text : Text) : utf8Size (text.map Char.toLower) = utf8Size text := by
  induction text with
  | nil => rfl
  | cons c rest ih =>
    rw [List.map_cons, utf8Size_cons, utf8Size_cons, utf8Size_toLower, ih]

theorem cut_append (before after : Text) :
    cut? before.utf8Size (before ++ after) = some (before, after) := by
  induction before with
  | nil => exact cut?.eq_1 after
  | cons c before ih =>
    obtain ⟨position, size⟩ : ∃ position, utf8Size (c :: before) = position + 1 := by
      refine ⟨utf8Size (c :: before) - 1, ?_⟩
      have filled := c.utf8Size_pos
      rw [utf8Size_cons]
      omega
    have rest : position + 1 - c.utf8Size = utf8Size before := by
      rw [← size, utf8Size_cons]
      omega
    rw [size, List.cons_append, cut?, if_pos (by rw [← size, utf8Size_cons]; omega), rest, ih]
    rfl

theorem eq_append_of_cut {position : Nat} {text before after : Text}
    (found : cut? position text = some (before, after)) :
    text = before ++ after ∧ before.utf8Size = position := by
  induction text generalizing position before after with
  | nil =>
    cases position with
    | zero =>
      cases found
      exact ⟨rfl, rfl⟩
    | succ position => cases found
  | cons c rest ih =>
    cases position with
    | zero =>
      cases found
      exact ⟨rfl, rfl⟩
    | succ position =>
      rw [cut?] at found
      split at found
      · rename_i fits
        obtain ⟨⟨first, later⟩, inner, same⟩ := Option.map_eq_some_iff.mp found
        cases same
        obtain ⟨rfl, size⟩ := ih inner
        refine ⟨rfl, ?_⟩
        rw [utf8Size_cons, size]
        omega
      · cases found

/-- **A text can be cut behind its first characters, and nowhere else.** -/
theorem cut_eq_some_iff {position : Nat} {text before after : Text} :
    cut? position text = some (before, after) ↔
      text = before ++ after ∧ before.utf8Size = position := by
  constructor
  · exact eq_append_of_cut
  · rintro ⟨rfl, rfl⟩
    exact cut_append before after

end Text

/-- A text cannot be cut inside of a character. -/
example : Text.cut? 1 ['©'] = none := by decide

/-! ## Computations with positions -/

/-- Why a computation with positions cannot go on. -/
inductive OutOfRange where
  /-- The position is inside a character of a text or beyond its end. -/
  | text
  /-- The position is beyond the end of a list. -/
  | list
  /-- A number is taken from a smaller one. -/
  | difference
  deriving DecidableEq, Repr

/-- What a computation with positions comes to. -/
abbrev Ranged (α : Type) := Except OutOfRange α

namespace Ranged

variable {α : Type}

/-- The text before a position. -/
def before (text : Text) (stop : Nat) : Ranged Text :=
  match text.cut? stop with
  | some (front, _) => .ok front
  | none => .error .text

/-- The text from a position on. -/
def behind (text : Text) (start : Nat) : Ranged Text :=
  match text.cut? start with
  | some (_, rest) => .ok rest
  | none => .error .text

/-- The text from one position to another. -/
def between (text : Text) (start stop : Nat) : Ranged Text :=
  if start ≤ stop then do
    let front ← before text stop
    behind front start
  else .error .text

/-- The first items of a list. -/
def take (items : List α) (stop : Nat) : Ranged (List α) :=
  if stop ≤ items.length then .ok (items.take stop) else .error .list

/-- The items of a list from a position on. -/
def drop (items : List α) (start : Nat) : Ranged (List α) :=
  if start ≤ items.length then .ok (items.drop start) else .error .list

/-- The items of a list from one position to another. -/
def inner (items : List α) (start stop : Nat) : Ranged (List α) :=
  if start ≤ stop then do
    let front ← take items stop
    drop front start
  else .error .list

/-- The item of a list at a position. -/
def item (items : List α) (position : Nat) : Ranged α :=
  match items[position]? with
  | some found => .ok found
  | none => .error .list

/-- What is left of a number when a smaller one is taken from it. -/
def minus (whole part : Nat) : Ranged Nat :=
  if part ≤ whole then .ok (whole - part) else .error .difference

@[simp] theorem ok_bind {β : Type} (value : α) (next : α → Ranged β) :
    (Except.ok value >>= next : Ranged β) = next value := rfl

theorem before_append {front rest : Text} {stop : Nat} (size : front.utf8Size = stop) :
    before (front ++ rest) stop = .ok front := by
  rw [before, ← size, Text.cut_append]

theorem behind_append {front rest : Text} {start : Nat} (size : front.utf8Size = start) :
    behind (front ++ rest) start = .ok rest := by
  rw [behind, ← size, Text.cut_append]

theorem behind_of_isPrefix {front text : Text} (first : front <+: text) :
    behind text front.utf8Size = .ok (text.drop front.length) := by
  obtain ⟨rest, rfl⟩ := first
  rw [behind_append rfl, List.drop_left]

theorem between_append {front middle rest : Text} {start stop : Nat}
    (first : front.utf8Size = start) (second : (front ++ middle).utf8Size = stop) :
    between (front ++ middle ++ rest) start stop = .ok middle := by
  rw [between, if_pos, before_append second]
  · exact behind_append first
  · rw [← first, ← second, Text.utf8Size_append]
    exact Nat.le_add_right _ _

theorem take_of_le {items : List α} {stop : Nat} (inside : stop ≤ items.length) :
    take items stop = .ok (items.take stop) :=
  if_pos inside

theorem drop_of_le {items : List α} {start : Nat} (inside : start ≤ items.length) :
    drop items start = .ok (items.drop start) :=
  if_pos inside

theorem inner_of_le {items : List α} {start stop : Nat} (order : start ≤ stop)
    (inside : stop ≤ items.length) :
    inner items start stop = .ok ((items.take stop).drop start) := by
  rw [inner, if_pos order, take_of_le inside]
  exact drop_of_le (by rw [List.length_take]; omega)

theorem minus_of_le {whole part : Nat} (fits : part ≤ whole) :
    minus whole part = .ok (whole - part) :=
  if_pos fits

end Ranged

end Hygiene
