/-!
# Texts

A text is the list of its characters. Everything that this library decides
about the contents of a file is decided on texts, so that each rule is a
statement about lists: a text begins with another, a text stands somewhere in
another, a text is cut into fields.

Positions are counted in characters. The one place where a size in encoded
bytes matters is `Text.utf8Size`.
-/

set_option autoImplicit false

namespace Hygiene

/-- A text, as the list of its characters. -/
abbrev Text := List Char

namespace Text

/-- The number of bytes the text takes when it is encoded. -/
def utf8Size (text : Text) : Nat :=
  text.foldr (fun c size => c.utf8Size + size) 0

theorem utf8Size_append (left right : Text) :
    utf8Size (left ++ right) = utf8Size left + utf8Size right := by
  induction left with
  | nil => exact (Nat.zero_add _).symm
  | cons c left ih =>
    show c.utf8Size + utf8Size (left ++ right) = c.utf8Size + utf8Size left + utf8Size right
    rw [ih, Nat.add_assoc]

/-- The text that remains after `beginning`, when the text begins with it. -/
def dropBeginning? (text beginning : Text) : Option Text :=
  if beginning.isPrefixOf text then some (text.drop beginning.length) else none

/-- The first position, counted on from `position`, where `needle` stands. -/
def findFrom? (needle : Text) (position : Nat) : Text → Option Nat
  | [] => if needle.isEmpty then some position else none
  | c :: rest =>
    if needle.isPrefixOf (c :: rest) then some position
    else findFrom? needle (position + 1) rest

/-- The first position where `needle` stands in the text. -/
def find? (text needle : Text) : Option Nat :=
  findFrom? needle 0 text

/-- The text through the first occurrence of `needle`, and the text after it. -/
def splitAfter? (text needle : Text) : Option (Text × Text) :=
  (find? text needle).map fun position => text.splitAt (position + needle.length)

/-- The texts before and after the first occurrence of `needle`. -/
def splitAround? (text needle : Text) : Option (Text × Text) :=
  (find? text needle).map fun position =>
    (text.take position, text.drop (position + needle.length))

/-- Whether `needle` stands somewhere in the text. -/
def holds (text needle : Text) : Bool :=
  (find? text needle).isSome

/-- The text without the longest end that consists of the given characters. -/
def dropEndWhile (text : Text) (drops : Char → Bool) : Text :=
  (text.reverse.dropWhile drops).reverse

/-- The fields of a text between separating characters. A text without a
separator is one field, and two separators in a row have an empty field
between them. -/
def fields (text : Text) (separates : Char → Bool) : List Text :=
  text.foldr
    (fun c found =>
      if separates c then [] :: found
      else match found with
        | [] => [[c]]
        | field :: others => (c :: field) :: others)
    [[]]

/-- The texts one after the other, with `separator` between neighbours. -/
def join (separator : Text) (texts : List Text) : Text :=
  (texts.intersperse separator).flatten

/-! ## Letters without regard to case -/

/-- Whether a text begins with a word in lower case when the ASCII letters of
the text are read without regard to case. -/
def beginsIgnoringCase : (text word : Text) → Bool
  | _, [] => true
  | [], _ :: _ => false
  | c :: text, letter :: word => c.toLower == letter && beginsIgnoringCase text word

/-- Whether a word in lower case stands somewhere in the text when the ASCII
letters of the text are read without regard to case. -/
def mentions : (text word : Text) → Bool
  | [], word => word.isEmpty
  | c :: rest, word => beginsIgnoringCase (c :: rest) word || mentions rest word

/-- Whether two texts are the same up to the case of ASCII letters. -/
def sameIgnoringCase (left right : Text) : Bool :=
  left.map Char.toLower == right.map Char.toLower

/-! ## Numbers -/

/-- The decimal digits of a natural number. -/
def ofNat (number : Nat) : Text :=
  Nat.toDigits 10 number

/-- An integer in decimal, with a leading minus when it is negative. -/
def ofInt : Int → Text
  | .ofNat number => ofNat number
  | .negSucc number => '-' :: ofNat (number + 1)

end Text

end Hygiene
