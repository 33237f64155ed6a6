import Hygiene.Python.Kind

/-!
# Shapes

A grammar gives each phrase a shape: the ways in which it is put together from
tokens and other phrases. A shape is a sequence, a choice, or a repetition, and
any part of it can carry

* a rank and a side, which settle whether a longer or a shorter reading is meant
  when both go on;
* a preference, which settles which of two complete readings is meant;
* the kind under which the part shows in the tree, and the role it has there.
-/

set_option autoImplicit false

namespace Hygiene.Python

/-- The side on which operators of equal rank group. -/
inductive Side where
  | left
  | right
  deriving DecidableEq, Repr

/-- What a shape is made of: tokens, phrases, and repeated groups, which are
numbered. -/
inductive Symbol where
  | token (token : Token)
  | phrase (phrase : Phrase)
  | group (number : Nat)
  deriving DecidableEq, Repr, Inhabited

/-- The ways in which a phrase is put together. -/
inductive Shape where
  /-- Nothing at all. -/
  | blank
  /-- One token, phrase or group. -/
  | symbol (symbol : Symbol)
  /-- One part and then another. -/
  | sequence (first second : Shape)
  /-- One part or another. -/
  | choice (first second : Shape)
  /-- A part at least once. -/
  | many (body : Shape)
  /-- A part of the given rank, which groups to the given side. -/
  | ranked (rank : Option Int) (side : Option Side) (body : Shape)
  /-- A part that is preferred to others as far as the weight says. -/
  | preferred (weight : Int) (body : Shape)
  /-- A part that shows as another kind. -/
  | shownAs (kind : Kind) (body : Shape)
  /-- A part with a role. -/
  | role (role : Role) (body : Shape)
  deriving DecidableEq, Repr, Inhabited

namespace Shape

/-- The shape of a token. -/
def ofToken (token : Token) : Shape := .symbol (.token token)

/-- The shape of a phrase. -/
def ofPhrase (phrase : Phrase) : Shape := .symbol (.phrase phrase)

instance : Coe Token Shape := ⟨ofToken⟩
instance : Coe Phrase Shape := ⟨ofPhrase⟩
instance : Coe String Shape := ⟨fun spelling => ofToken (.mark spelling)⟩

/-- Parts one after the other. -/
def inOrder : List Shape → Shape
  | [] => blank
  | [part] => part
  | part :: rest => .sequence part (inOrder rest)

/-- One of several parts. -/
def oneOf : List Shape → Shape
  | [] => blank
  | [part] => part
  | part :: rest => .choice part (oneOf rest)

/-- A part or nothing. -/
def optional (part : Shape) : Shape := .choice part blank

/-- A part any number of times. -/
def anyNumber (part : Shape) : Shape := .choice (.many part) blank

/-- A part at least once, with a separator between neighbours. -/
def separated (part separator : Shape) : Shape :=
  .sequence part (anyNumber (.sequence separator part))

/-- A part at least once, with commas between neighbours. -/
def commaSeparated (part : Shape) : Shape := separated part ","

/-- A comma or nothing. -/
def optionalComma : Shape := optional ","

end Shape

end Hygiene.Python
