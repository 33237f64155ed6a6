import Hygiene.Proofs.Toml.Distinct
import Hygiene.Toml.Handover

/-!
# What is handed over

A value is handed over as it is unless a table in it begins with the mark of a moment
(`Value.Unmarked.handed`). The tables of a value that is handed over have each key once when those
of the value have (`Value.Distinct.handed`), since the keys of a table that is no moment stay what
they are.
-/

set_option autoImplicit false

namespace Hygiene.Toml

theorem mapM_eq_some_self {α : Type} {f : α → Option α} {items : List α}
    (each : ∀ item ∈ items, f item = some item) : items.mapM f = some items := by
  induction items with
  | nil => rfl
  | cons item items ih =>
    obtain ⟨here, others⟩ := List.forall_mem_cons.mp each
    rw [List.mapM_cons, here, ih others]
    rfl

theorem itemsHanded_eq_mapM (kept : Bool) (items : List Value) :
    itemsHanded? kept items = items.mapM (Value.handed? kept) := by
  induction items with
  | nil => rfl
  | cons item items ih => rw [itemsHanded?, ih, List.mapM_cons]

theorem entriesHanded_eq_mapM (kept : Bool) (entries : Entries) :
    entriesHanded? kept entries =
      entries.mapM fun entry => (entry.2.handed? kept).map (Prod.mk entry.1) := by
  induction entries with
  | nil => rfl
  | cons entry entries ih =>
    obtain ⟨key, value⟩ := entry
    rw [entriesHanded?, ih, List.mapM_cons]
    cases value.handed? kept <;> rfl

/-! ## Values without the mark -/

/-- A value in which no table, at any depth, begins with the mark. -/
inductive Value.Unmarked : Value → Prop where
  | string (text : Text) : Unmarked (.string text)
  | integer (number : Int) : Unmarked (.integer number)
  | float (spelling : Text) : Unmarked (.float spelling)
  | boolean (value : Bool) : Unmarked (.boolean value)
  | moment (spelling : Text) : Unmarked (.moment spelling)
  | array {items : List Value} (all : ∀ item ∈ items, Unmarked item) : Unmarked (.array items)
  | table {entries : Entries} (plain : marked? entries = none)
      (all : ∀ entry ∈ entries, Unmarked entry.2) : Unmarked (.table entries)

/-- A value without the mark is handed over as it is. -/
theorem Value.Unmarked.handed {value : Value} (unmarked : value.Unmarked) (kept : Bool) :
    value.handed? kept = some value := by
  induction unmarked with
  | string | integer | float | boolean | moment => rfl
  | array _ ih =>
    rw [Value.handed?, itemsHanded_eq_mapM, mapM_eq_some_self ih]
    rfl
  | table plain _ ih =>
    have entries := mapM_eq_some_self (f := fun entry : Text × Value =>
      (entry.2.handed? kept).map (Prod.mk entry.1)) fun entry member => by rw [ih entry member]; rfl
    rw [Value.handed?, plain, entriesHanded_eq_mapM, entries]
    rfl

/-! ## Keys -/

theorem forall_of_mapM {α β : Type} {Made : β → Prop} {f : α → Option β} {items : List α}
    {results : List β} (made : ∀ item ∈ items, ∀ result, f item = some result → Made result)
    (each : items.mapM f = some results) : ∀ result ∈ results, Made result := by
  induction items generalizing results with
  | nil =>
    cases each
    exact nofun
  | cons item items ih =>
    rw [List.mapM_cons] at each
    obtain ⟨first, here, each⟩ := Option.bind_eq_some_iff.mp each
    obtain ⟨others, there, each⟩ := Option.bind_eq_some_iff.mp each
    cases each
    obtain ⟨madeHere, madeThere⟩ := List.forall_mem_cons.mp made
    exact List.forall_mem_cons.mpr ⟨madeHere first here, ih madeThere there⟩

section

variable (hand : Text × Value → Option Value) {entries handed : Entries}

theorem map_fst_of_mapM
    (each : entries.mapM (fun entry => (hand entry).map (Prod.mk entry.1)) = some handed) :
    handed.map Prod.fst = entries.map Prod.fst := by
  induction entries generalizing handed with
  | nil =>
    cases each
    rfl
  | cons entry entries ih =>
    rw [List.mapM_cons] at each
    obtain ⟨first, here, each⟩ := Option.bind_eq_some_iff.mp each
    obtain ⟨others, there, each⟩ := Option.bind_eq_some_iff.mp each
    obtain ⟨value, given, rfl⟩ := Option.map_eq_some_iff.mp here
    cases each
    exact congrArg (entry.1 :: ·) (ih there)

/-- The entries of a table are handed over one by one at their keys. -/
theorem Keyed.mapM {Kind Made : Value → Prop} (keyed : Keyed Kind entries)
    (made : ∀ entry ∈ entries, ∀ value, hand entry = some value → Made value)
    (each : entries.mapM (fun entry => (hand entry).map (Prod.mk entry.1)) = some handed) :
    Keyed Made handed where
  once := map_fst_of_mapM hand each ▸ keyed.once
  all := by
    refine forall_of_mapM (fun entry member result found => ?_) each
    obtain ⟨value, given, rfl⟩ := Option.map_eq_some_iff.mp found
    exact made entry member value given

end

theorem momentOf_distinct {value moment : Value} (made : momentOf? value = some moment) :
    moment.Distinct := by
  rw [momentOf?.eq_def] at made
  split at made
  · split at made
    · cases made
      exact .moment _
    · cases made
  · cases made

/-- What is handed over has each key of a table once when the value has. -/
theorem Value.Distinct.handed {value result : Value} (distinct : value.Distinct) {kept : Bool}
    (made : value.handed? kept = some result) : result.Distinct := by
  induction distinct generalizing result with
  | string | integer | float | boolean | moment =>
    cases made
    constructor
  | array _ ih =>
    rw [Value.handed?, itemsHanded_eq_mapM] at made
    obtain ⟨results, each, rfl⟩ := Option.map_eq_some_iff.mp made
    exact .array (forall_of_mapM (fun item member _ => ih item member) each)
  | table once all ih =>
    rw [Value.handed?] at made
    split at made
    · split at made
      · cases made
      · exact momentOf_distinct made
    · rw [entriesHanded_eq_mapM] at made
      obtain ⟨handed, each, rfl⟩ := Option.map_eq_some_iff.mp made
      exact Value.distinct_table_iff.mpr
        (Keyed.mapM _ ⟨once, all⟩ (fun entry member _ => ih entry member) each)

end Hygiene.Toml
