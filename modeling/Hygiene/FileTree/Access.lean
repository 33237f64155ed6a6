import Hygiene.FileTree

/-!
# Who may do what

Everything in a tree belongs to one user. That user may do what the permission bits for
the owner allow; the superuser may do everything.
-/

set_option autoImplicit false

namespace Hygiene

/-- Who works on a tree. -/
inductive User where
  | superuser
  | owner
  deriving DecidableEq, Repr

/-- What is done with an entry. Of a directory, reading gives the names in it, writing
changes them, and searching leads to what they name. -/
inductive Access where
  | read
  | write
  | search
  deriving DecidableEq, Repr

/-- The position of the permission bit for the owner. -/
def Access.bit : Access → Nat
  | .read => 8
  | .write => 7
  | .search => 6

/-- Whether permission bits let a user do something. -/
def User.may (user : User) (access : Access) (mode : Nat) : Bool :=
  match user with
  | .superuser => true
  | .owner => mode.testBit access.bit

/-- The permission bits of an entry. A link has none of its own. -/
def Entry.mode : Entry → Nat
  | .file mode _ => mode
  | .directory mode => mode
  | .link _ => 0o777

end Hygiene
