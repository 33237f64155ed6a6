import Hygiene.Toml.Document
import Mathlib.Tactic.SplitIfs

/-!
# Keys that are given once

Every table of a document has each of its keys once, wherever the table stands (`read?_distinct`).
Tables are only ever changed in a few ways: a key is added that is not there, a key is taken away,
a key that is there is given another item, and all this happens at the end of a path. So what is
built up stays distinct, and the values that are read in between are distinct as far as they hold
tables of their own.
-/

set_option autoImplicit false

namespace Hygiene.Toml

/-- A table with each key once, in which all items are of a given kind. -/
structure Keyed {α : Type} (Kind : α → Prop) (entries : List (Text × α)) : Prop where
  once : (entries.map Prod.fst).Nodup
  all : ∀ entry ∈ entries, Kind entry.2

/-- A value whose tables, at any depth, have each key once. -/
inductive Value.Distinct : Value → Prop where
  | string (text : Text) : Distinct (.string text)
  | integer (number : Int) : Distinct (.integer number)
  | float (spelling : Text) : Distinct (.float spelling)
  | boolean (value : Bool) : Distinct (.boolean value)
  | moment (spelling : Text) : Distinct (.moment spelling)
  | array {items : List Value} (all : ∀ item ∈ items, Distinct item) : Distinct (.array items)
  | table {entries : Entries} (once : (entries.map Prod.fst).Nodup)
      (all : ∀ entry ∈ entries, Distinct entry.2) : Distinct (.table entries)

/-- An item whose tables, at any depth, have each key once. -/
inductive Item.Distinct : Item → Prop where
  | value {value : Value} (distinct : value.Distinct) : Distinct (.value value)
  | table {origin : Origin} {items : Items} (once : (items.map Prod.fst).Nodup)
      (all : ∀ entry ∈ items, Distinct entry.2) : Distinct (.table origin items)
  | rows {rows : List Items} (once : ∀ row ∈ rows, (row.map Prod.fst).Nodup)
      (all : ∀ row ∈ rows, ∀ entry ∈ row, Distinct entry.2) : Distinct (.rows rows)

/-- Items that stand at keys of their own and are distinct themselves. -/
abbrev Items.Distinct (items : Items) : Prop :=
  Keyed Item.Distinct items

theorem Value.distinct_table_iff {entries : Entries} :
    (Value.table entries).Distinct ↔ Keyed Value.Distinct entries :=
  ⟨fun (.table once all) => ⟨once, all⟩, fun keyed => .table keyed.once keyed.all⟩

theorem Item.distinct_table_iff {origin : Origin} {items : Items} :
    (Item.table origin items).Distinct ↔ items.Distinct :=
  ⟨fun (.table once all) => ⟨once, all⟩, fun keyed => .table keyed.once keyed.all⟩

theorem Item.distinct_rows_iff {rows : List Items} :
    (Item.rows rows).Distinct ↔ ∀ row ∈ rows, row.Distinct :=
  ⟨fun (.rows once all) row member => ⟨once row member, all row member⟩,
    fun keyed => .rows (fun row member => (keyed row member).once)
      fun row member => (keyed row member).all⟩

/-! ## Values of items -/

theorem entriesOf_eq_map (items : Items) :
    entriesOf items = items.map fun entry => (entry.1, entry.2.toValue) := by
  induction items with
  | nil => rfl
  | cons entry others ih =>
    obtain ⟨key, item⟩ := entry
    rw [entriesOf, ih, List.map_cons]

theorem rowsOf_eq_map (rows : List Items) :
    rowsOf rows = rows.map fun row => .table (entriesOf row) := by
  induction rows with
  | nil => rfl
  | cons row others ih => rw [rowsOf, ih, List.map_cons]

/-- The values of the items of a table. -/
theorem Keyed.entriesOf {Kind : Item → Prop} {Made : Value → Prop} {items : Items}
    (keyed : Keyed Kind items) (made : ∀ entry ∈ items, Made entry.2.toValue) :
    Keyed Made (entriesOf items) := by
  rw [entriesOf_eq_map]
  refine ⟨?_, ?_⟩
  · rw [List.map_map]
    exact keyed.once
  · intro entry member
    obtain ⟨source, present, rfl⟩ := List.mem_map.mp member
    exact made source present

theorem Item.Distinct.toValue {item : Item} (distinct : item.Distinct) :
    item.toValue.Distinct := by
  induction distinct with
  | value distinct =>
    rw [Item.toValue]
    exact distinct
  | table once all ih =>
    rw [Item.toValue]
    exact Value.distinct_table_iff.mpr (Keyed.entriesOf ⟨once, all⟩ ih)
  | rows once all ih =>
    rw [Item.toValue, rowsOf_eq_map]
    refine .array fun value member => ?_
    obtain ⟨row, present, rfl⟩ := List.mem_map.mp member
    exact Value.distinct_table_iff.mpr
      (Keyed.entriesOf ⟨once row present, all row present⟩ (ih row present))

/-! ## Changes to a table -/

namespace Items

theorem Distinct.nil : Distinct [] :=
  ⟨List.nodup_nil, nofun⟩

theorem Distinct.lookup {items : Items} (distinct : items.Distinct) {key : Text} {item : Item}
    (found : items.lookup key = some item) : item.Distinct := by
  obtain ⟨before, after, rfl, -⟩ := List.lookup_eq_some_iff.mp found
  exact distinct.all (key, item) (by simp)

/-- A key is added that is not there. -/
theorem Distinct.add {items : Items} (distinct : items.Distinct) {key : Text} {item : Item}
    (missing : items.lookup key = none) (good : item.Distinct) : (items.add key item).Distinct := by
  have apart : key ∉ items.map Prod.fst := by
    intro member
    obtain ⟨entry, present, rfl⟩ := List.mem_map.mp member
    simpa using List.lookup_eq_none_iff.mp missing entry present
  refine ⟨?_, ?_⟩
  · rw [Items.add, List.map_append, (List.perm_append_comm).nodup_iff]
    exact List.nodup_cons.mpr ⟨apart, distinct.once⟩
  · intro entry member
    rcases List.mem_append.mp member with old | new
    · exact distinct.all entry old
    · obtain rfl := List.mem_singleton.mp new
      exact good

/-- A key is taken away, and then it is not there. -/
theorem Distinct.remove {items : Items} (distinct : items.Distinct) (key : Text) :
    (items.remove key).Distinct where
  once := distinct.once.sublist (List.filter_sublist.map Prod.fst)
  all := fun entry member => distinct.all entry (List.mem_filter.mp member).1

theorem lookup_remove (items : Items) (key : Text) : (items.remove key).lookup key = none := by
  refine List.lookup_eq_none_iff.mpr fun entry member => ?_
  have other : entry.1 ≠ key := of_decide_eq_true (List.mem_filter.mp member).2
  exact bne_iff_ne.mpr other.symm

/-- A key keeps its place when it is given another item. -/
theorem Distinct.replace {items : Items} (distinct : items.Distinct) (key : Text) {item : Item}
    (good : item.Distinct) : (items.replace key item).Distinct := by
  refine ⟨?_, ?_⟩
  · have same : (items.replace key item).map Prod.fst = items.map Prod.fst := by
      rw [Items.replace, List.map_map]
      refine List.map_congr_left fun entry _ => ?_
      dsimp only [Function.comp]
      split
      · rename_i is
        exact is.symm
      · rfl
    rw [same]
    exact distinct.once
  · intro entry member
    obtain ⟨source, present, rfl⟩ := List.mem_map.mp member
    split
    · exact good
    · exact distinct.all source present

/-- A table at the end of a path is changed. -/
theorem Distinct.changeAt {dotted : Bool} {change : Origin → Items → Option Items}
    (keeps : ∀ {origin items changed}, Distinct items → change origin items = some changed →
      Distinct changed)
    {path : KeyPath} {origin : Origin} {items changed : Items} (distinct : items.Distinct)
    (made : items.changeAt dotted change path origin = some changed) : changed.Distinct := by
  induction path generalizing origin items changed with
  | nil => exact keeps distinct made
  | cons key path ih =>
    rw [Items.changeAt] at made
    split at made
    · rename_i missing
      obtain ⟨inner, inside, rfl⟩ := Option.map_eq_some_iff.mp made
      exact distinct.add missing (Item.distinct_table_iff.mpr (ih .nil inside))
    · cases made
    · rename_i former items found
      split at made
      · cases made
      · obtain ⟨inner, inside, rfl⟩ := Option.map_eq_some_iff.mp made
        have below := Item.distinct_table_iff.mp (distinct.lookup found)
        exact distinct.replace key (Item.distinct_table_iff.mpr (ih below inside))
    · rename_i rows found
      split at made
      · cases made
      · rename_i last earlier turned
        obtain ⟨inner, inside, rfl⟩ := Option.map_eq_some_iff.mp made
        have whole : rows = (last :: earlier).reverse := List.reverse_eq_iff.mp turned
        have below := Item.distinct_rows_iff.mp (distinct.lookup found)
        have changed := ih (below last (by simp [whole])) inside
        refine distinct.replace key (Item.distinct_rows_iff.mpr fun row member => ?_)
        rcases List.mem_cons.mp (List.mem_reverse.mp member) with rfl | old
        · exact changed
        · exact below row (by simp [whole, old])

/-- A value is given to a key that has none. -/
theorem Distinct.assign {path : KeyPath} {key : Text} {value : Value} {origin : Origin}
    {items changed : Items} (distinct : items.Distinct) (good : value.Distinct)
    (made : items.assign path key value origin = some changed) : changed.Distinct := by
  refine distinct.changeAt (fun {origin items changed} distinct made => ?_) made
  split at made
  · cases made
  · rename_i free
    cases made
    simp only [Bool.or_eq_true, not_or, Option.not_isSome_iff_eq_none] at free
    exact distinct.add free.2 (.value good)

theorem Distinct.openTable {path : KeyPath} {key : Text} {items changed : Items}
    (distinct : items.Distinct) (made : items.openTable path key = some changed) :
    changed.Distinct := by
  refine distinct.changeAt (fun {origin items changed} distinct made => ?_) made
  split at made
  · rename_i missing
    cases made
    exact distinct.add missing (Item.distinct_table_iff.mpr .nil)
  · rename_i inner found
    cases made
    have below := Item.distinct_table_iff.mp (distinct.lookup found)
    exact (distinct.remove key).add (lookup_remove _ key) (Item.distinct_table_iff.mpr below)
  · cases made

theorem Distinct.openRow {path : KeyPath} {key : Text} {items changed : Items}
    (distinct : items.Distinct) (made : items.openRow path key = some changed) :
    changed.Distinct := by
  refine distinct.changeAt (fun {origin items changed} distinct made => ?_) made
  split at made
  · rename_i missing
    cases made
    refine distinct.add missing (Item.distinct_rows_iff.mpr fun row member => ?_)
    obtain rfl := List.mem_singleton.mp member
    exact .nil
  · rename_i rows found
    cases made
    have below := Item.distinct_rows_iff.mp (distinct.lookup found)
    refine distinct.replace key (Item.distinct_rows_iff.mpr fun row member => ?_)
    rcases List.mem_append.mp member with old | new
    · exact below row old
    · obtain rfl := List.mem_singleton.mp new
      exact .nil
  · cases made

end Items

/-! ## Values -/

section

variable {read : Text → Option (Value × Text)}

/-- What holds of every value that is read holds of the items of an array. -/
theorem readItems?_all {Good : Value → Prop}
    (good : ∀ {text value rest}, read text = some (value, rest) → Good value) {bound : Nat}
    {text rest : Text} {values : List Value}
    (made : readItems? read bound text = some (values, rest)) : ∀ value ∈ values, Good value := by
  induction bound generalizing text rest values with
  | zero => cases made
  | succ bound ih =>
    rw [readItems?] at made
    split at made
    · cases made
      exact nofun
    · obtain ⟨⟨first, after⟩, here, made⟩ := Option.bind_eq_some_iff.mp made
      dsimp only at made
      split at made
      · obtain ⟨⟨others, last⟩, further, made⟩ := Option.bind_eq_some_iff.mp made
        cases made
        exact List.forall_mem_cons.mpr ⟨good here, ih further⟩
      · cases made
        exact List.forall_mem_cons.mpr ⟨good here, nofun⟩
      · cases made

theorem readMembers?_distinct
    (good : ∀ {text value rest}, read text = some (value, rest) → value.Distinct) {bound : Nat}
    {items changed : Items} {text rest : Text} (distinct : items.Distinct)
    (made : readMembers? read bound items text = some (changed, rest)) : changed.Distinct := by
  induction bound generalizing items text with
  | zero => cases made
  | succ bound ih =>
    rw [readMembers?] at made
    obtain ⟨⟨path, key, behind⟩, -, made⟩ := Option.bind_eq_some_iff.mp made
    dsimp only at made
    split at made
    · obtain ⟨⟨value, after⟩, here, made⟩ := Option.bind_eq_some_iff.mp made
      obtain ⟨extended, assigned, made⟩ := Option.bind_eq_some_iff.mp made
      have kept := distinct.assign (good here) assigned
      dsimp only at made
      split at made
      · exact ih kept made
      · cases made
        exact kept
      · cases made
    · cases made

end

/-- A value without quotes and brackets has no tables in it. -/
theorem scalar?_distinct {spelling : Text} {value : Value} (made : scalar? spelling = some value) :
    value.Distinct := by
  rw [scalar?] at made
  split at made
  · cases made
    exact .boolean true
  · split at made
    · cases made
      exact .boolean false
    · split at made
      · cases made
        exact .moment spelling
      · split at made
        · cases made
          exact .float spelling
        · obtain ⟨number, -, rfl⟩ := Option.map_eq_some_iff.mp made
          exact .integer number

theorem readScalar?_distinct {text rest : Text} {value : Value}
    (made : readScalar? text = some (value, rest)) : value.Distinct := by
  rw [readScalar?] at made
  split_ifs at made
  · cases made
    exact .moment _
  · obtain ⟨scalar, here, made⟩ := Option.map_eq_some_iff.mp made
    cases made
    exact scalar?_distinct here

/-- A value is distinct when the values that it nests are. -/
theorem readValue?_step {depth : Nat} {text rest : Text} {value : Value}
    (nested : ∀ inner, depth = inner + 1 → ∀ {text value rest},
      readValue? inner text = some (value, rest) → value.Distinct)
    (made : readValue? depth text = some (value, rest)) : value.Distinct := by
  rw [readValue?.eq_def] at made
  split at made
  · split at made
    · cases made
    · rename_i inner
      obtain ⟨⟨values, after⟩, here, made⟩ := Option.map_eq_some_iff.mp made
      cases made
      exact .array (readItems?_all (nested inner rfl) here)
  · split at made
    · cases made
    · rename_i inner
      split at made
      · cases made
        exact Value.distinct_table_iff.mpr ⟨List.nodup_nil, nofun⟩
      · obtain ⟨⟨items, after⟩, here, made⟩ := Option.map_eq_some_iff.mp made
        cases made
        have distinct := readMembers?_distinct (nested inner rfl) .nil here
        have opened : (Item.table .opened items).Distinct := Item.distinct_table_iff.mpr distinct
        exact opened.toValue
  · split at made
    · obtain ⟨⟨string, after⟩, -, made⟩ := Option.map_eq_some_iff.mp made
      cases made
      exact .string string
    · obtain ⟨⟨string, after⟩, -, made⟩ := Option.map_eq_some_iff.mp made
      cases made
      exact .string string
    · exact readScalar?_distinct made

/-- The tables of a value that is read have each key once. -/
theorem readValue?_distinct {depth : Nat} {text rest : Text} {value : Value}
    (made : readValue? depth text = some (value, rest)) : value.Distinct := by
  induction depth generalizing text rest value with
  | zero => exact readValue?_step (fun _ same => by cases same) made
  | succ inner ih =>
    refine readValue?_step (fun _ same => ?_) made
    cases same
    exact ih

/-! ## Documents -/

/-- A line that is neither blank nor a comment keeps the keys of a draft apart. -/
theorem readLine?_distinct {draft extended : Draft} {text rest : Text}
    (distinct : draft.items.Distinct) (made : readLine? draft text = some (extended, rest)) :
    extended.items.Distinct := by
  rw [readLine?.eq_def] at made
  split at made
  · rw [readRowHeader?] at made
    obtain ⟨⟨path, key, behind⟩, -, made⟩ := Option.bind_eq_some_iff.mp made
    dsimp only at made
    split at made
    · obtain ⟨items, opened, made⟩ := Option.bind_eq_some_iff.mp made
      obtain ⟨next, -, made⟩ := Option.bind_eq_some_iff.mp made
      cases made
      exact distinct.openRow opened
    · cases made
  · rw [readHeader?] at made
    obtain ⟨⟨path, key, behind⟩, -, made⟩ := Option.bind_eq_some_iff.mp made
    dsimp only at made
    split at made
    · obtain ⟨items, opened, made⟩ := Option.bind_eq_some_iff.mp made
      obtain ⟨next, -, made⟩ := Option.bind_eq_some_iff.mp made
      cases made
      exact distinct.openTable opened
    · cases made
  · rw [readAssignment?] at made
    obtain ⟨⟨path, key, behind⟩, -, made⟩ := Option.bind_eq_some_iff.mp made
    dsimp only at made
    split at made
    · obtain ⟨⟨value, after⟩, here, made⟩ := Option.bind_eq_some_iff.mp made
      obtain ⟨items, assigned, made⟩ := Option.bind_eq_some_iff.mp made
      obtain ⟨next, -, made⟩ := Option.bind_eq_some_iff.mp made
      cases made
      exact distinct.changeAt
        (fun distinct changed => distinct.assign (readValue?_distinct here) changed) assigned
    · cases made

theorem readLines?_distinct {bound : Nat} {draft : Draft} {text : Text} {items : Items}
    (distinct : draft.items.Distinct) (made : readLines? bound draft text = some items) :
    items.Distinct := by
  induction bound generalizing draft text with
  | zero => cases made
  | succ bound ih =>
    rw [readLines?] at made
    split at made
    · cases made
      exact distinct
    · obtain ⟨next, -, made⟩ := Option.bind_eq_some_iff.mp made
      exact ih distinct made
    · exact ih distinct made
    · exact ih distinct made
    · obtain ⟨⟨extended, next⟩, here, made⟩ := Option.bind_eq_some_iff.mp made
      exact ih (readLine?_distinct distinct here) made

/-- The tables of a document, itself among them, have each key once. -/
theorem read?_distinct {text : Text} {entries : Entries} (made : read? text = some entries) :
    Keyed Value.Distinct entries := by
  obtain ⟨items, here, rfl⟩ := Option.map_eq_some_iff.mp made
  have distinct : Items.Distinct items := readLines?_distinct .nil here
  exact distinct.entriesOf fun entry member => (distinct.all entry member).toValue

end Hygiene.Toml
