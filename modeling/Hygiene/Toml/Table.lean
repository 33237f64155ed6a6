import Hygiene.Toml.Value

/-!
# TOML tables

A document is built up as a tree of tables. Each table remembers how it came
into being: opened by a header, implied by the header of a table inside it, or
made by a dotted key. On this depends what may still be added:

* a header opens a table once, and only one that is new or merely implied;
* a header in double brackets adds a row to a list of tables, and what follows
  belongs to the last row;
* a dotted key extends tables that were not opened, and gives a value only to a
  table that dotted keys have made.

A key is given a value once.
-/

set_option autoImplicit false

namespace Hygiene.Toml

/-- How a table came into being. -/
inductive Origin where
  /-- By its header. -/
  | opened
  /-- By the header of a table inside it. -/
  | implied
  /-- By a dotted key. -/
  | dotted
  deriving DecidableEq, Repr

/-- What a key stands for while a document is read. -/
inductive Item where
  | value (value : Value)
  | table (origin : Origin) (items : List (Text × Item))
  /-- A list of tables with its rows. -/
  | rows (rows : List (List (Text × Item)))

/-- The keys of a table and what they stand for. -/
abbrev Items := List (Text × Item)

/-- A key path, from the outermost table to the key. -/
abbrev KeyPath := List Text

namespace Items

/-- A new item at a key that stands for something already. -/
def replace (items : Items) (key : Text) (item : Item) : Items :=
  items.map fun entry => if entry.1 = key then (key, item) else entry

/-- The items without a key. -/
def remove (items : Items) (key : Text) : Items :=
  items.filter fun entry => entry.1 ≠ key

/-- A new key with its item. -/
def add (items : Items) (key : Text) (item : Item) : Items :=
  items ++ [(key, item)]

/-- A change to the table at a path, with the way that table came into being.
Missing tables on the way are made, and of a list of tables the last row is
entered. -/
def changeAt (dotted : Bool) (change : Origin → Items → Option Items) :
    KeyPath → Origin → Items → Option Items
  | [], origin, items => change origin items
  | key :: path, _, items =>
    match items.lookup key with
    | none =>
      let made := if dotted then Origin.dotted else Origin.implied
      (changeAt dotted change path made []).map fun inner => items.add key (.table made inner)
    | some (.value _) => none
    | some (.table origin inner) =>
      if dotted && origin = .opened then none
      else (changeAt dotted change path origin inner).map fun changed =>
        items.replace key (.table origin changed)
    | some (.rows rows) =>
      match rows.reverse with
      | [] => none
      | last :: earlier =>
        (changeAt dotted change path .opened last).map fun changed =>
          items.replace key (.rows (changed :: earlier).reverse)

/-- A value given to a key that a path of dotted keys leads to. -/
def assign (path : KeyPath) (key : Text) (value : Value) (origin : Origin) (items : Items) :
    Option Items :=
  changeAt true
    (fun reached found =>
      if (reached == .dotted) == path.isEmpty || (found.lookup key).isSome then none
      else some (found.add key (.value value)))
    path origin items

/-- The table at a path opened by its header. A table that was implied before moves behind the
others. -/
def openTable (path : KeyPath) (key : Text) (items : Items) : Option Items :=
  changeAt false
    (fun _ found =>
      match found.lookup key with
      | none => some (found.add key (.table .opened []))
      | some (.table .implied inner) => some ((found.remove key).add key (.table .opened inner))
      | some _ => none)
    path .opened items

/-- A row added to the list of tables at a path. -/
def openRow (path : KeyPath) (key : Text) (items : Items) : Option Items :=
  changeAt false
    (fun _ found =>
      match found.lookup key with
      | none => some (found.add key (.rows [[]]))
      | some (.rows rows) => some (found.replace key (.rows (rows ++ [[]])))
      | some _ => none)
    path .opened items

end Items

/-! ## From items to values -/

mutual

/-- The value that an item stands for in the end. -/
def Item.toValue : Item → Value
  | .value value => value
  | .table _ items => .table (entriesOf items)
  | .rows rows => .array (rowsOf rows)

/-- The entries of a table. -/
def entriesOf : List (Text × Item) → List (Text × Value)
  | [] => []
  | (key, item) :: others => (key, item.toValue) :: entriesOf others

/-- The rows of a list of tables. -/
def rowsOf : List (List (Text × Item)) → List Value
  | [] => []
  | row :: others => .table (entriesOf row) :: rowsOf others

end

end Hygiene.Toml
