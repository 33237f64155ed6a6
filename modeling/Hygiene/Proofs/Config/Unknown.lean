import Hygiene.Config.Load
import Hygiene.Proofs.Config.Carried
import Hygiene.Proofs.Toml.Handover
import Mathlib

/-!
# Unknown fields do not count

Settings are read from a document exactly when it carries them, and then there is one warning for
each unknown field, in the order of the sections and, within a section, of the names
(`settingsOf_document`). Two documents that agree on the known fields come to the same settings or
to the same error.

The names of the unknown fields are apart because a document has each key once.
-/

set_option autoImplicit false

namespace Hygiene.Config

open Toml (Entries Keyed Value)

/-! ## Names in order -/

/-- A name comes before another one when its character is less at the first place where they differ,
or when the other one goes on where it ends. -/
def Precedes : (first second : Text) → Prop :=
  List.Lex fun c d => c.toNat < d.toNat

theorem compare_codes_eq_lt_iff (first second : Text) :
    compare (first.map Char.toNat) (second.map Char.toNat) = .lt ↔ Precedes first second := by
  rw [Precedes]
  induction first generalizing second with
  | nil =>
    cases second with
    | nil => simp
    | cons d second => exact iff_of_true rfl .nil
  | cons c first ih =>
    cases second with
    | nil => simp
    | cons d second =>
      rw [List.map_cons, List.map_cons, List.compare_cons_cons, List.cons_lex_cons_iff,
        Ordering.then_eq_lt, ih, Nat.compare_eq_lt, Nat.compare_eq_eq, Char.toNat_inj]

/-- The names of the unknown fields of a table, the first one in order first. -/
structure UnknownInOrder (known : List String) (entries : Entries) (names : List Text) : Prop where
  ascending : names.Pairwise Precedes
  unknown : ∀ name, name ∈ names ↔
    name ∈ entries.map Prod.fst ∧ name ∉ known.map String.toList

theorem unknownNames_inOrder {Kind : Value → Prop} {entries : Entries}
    (keyed : Keyed Kind entries) (known : List String) :
    UnknownInOrder known entries (unknownNames known entries) := by
  refine ⟨?_, fun name => ?_⟩
  · have apart : (unknownNames known entries).Pairwise (· ≠ ·) :=
      (List.mergeSort_perm _ _).nodup_iff.mpr (keyed.once.filter _)
    have sorted : (unknownNames known entries).Pairwise fun first second =>
        (compare (first.map Char.toNat) (second.map Char.toNat)).isLE = true := by
      refine List.pairwise_mergeSort (fun _ _ _ => Std.TransCmp.isLE_trans)
        (fun first second => ?_) _
      have turned : compare (second.map Char.toNat) (first.map Char.toNat) =
          (compare (first.map Char.toNat) (second.map Char.toNat)).swap := Std.OrientedCmp.eq_swap
      rw [turned]
      cases compare (first.map Char.toNat) (second.map Char.toNat) <;> rfl
    refine (sorted.and apart).imp fun {first second} ⟨notAfter, ne⟩ => ?_
    rw [← compare_codes_eq_lt_iff]
    cases order : compare (first.map Char.toNat) (second.map Char.toNat) with
    | lt => rfl
    | eq =>
      have same := Std.LawfulEqCmp.eq_of_compare order
      exact absurd (List.map_injective_iff.mpr (fun _ _ => Char.toNat_inj.mp) same) ne
    | gt => rw [order] at notAfter; cases notAfter
  · rw [unknownNames, List.mem_mergeSort, List.mem_filter]
    simp

/-! ## Sections -/

theorem Reading.ofResult_ok_bind {α β : Type} (value : α) (next : α → Reading β) :
    (ofResult (.ok value) >>= next) = next value :=
  rfl

theorem Reading.ofResult_error_bind {α β : Type} (fault : Fault) (next : α → Reading β) :
    (ofResult (.error fault) >>= next) = ⟨[], .error fault⟩ :=
  rfl

theorem Reading.warn_bind {β : Type} (warnings : List Warning) (next : Unit → Reading β) :
    (warn warnings >>= next) = ⟨warnings ++ (next ()).warnings, (next ()).result⟩ :=
  rfl

section

variable {α : Type} {name : String} {known : List String} {empty : α}
  {read : Entries → Except Fault α} {entries : Entries}

/-- A section that is absent is read as if it were empty. -/
theorem readKnown_of_isSection (hollow : read [] = .ok empty) (isSection : IsSection entries name) :
    readKnown name known empty read entries =
      ⟨(unknownNames known (sectionOf entries name)).map (Warning.ofField name.toList),
        read (sectionOf entries name)⟩ := by
  cases given : entries.get? name.toList with
  | none =>
    have absent : readSection name entries = .ok none := by rw [readSection, given]
    have void : sectionOf entries name = [] := by rw [sectionOf, given]; rfl
    rw [readKnown, absent, void, hollow, Reading.ofResult_ok_bind, unknownNames, List.map_nil,
      List.filter_nil, List.mergeSort_nil]
    rfl
  | some value =>
    obtain ⟨fields, rfl⟩ := isSection value given
    have found : readSection name entries = .ok (some fields) := by rw [readSection, given]; rfl
    have held : sectionOf entries name = fields := by rw [sectionOf, given]; rfl
    rw [readKnown, found, held, Reading.ofResult_ok_bind]
    exact congrArg (Reading.mk · (read fields)) (List.append_nil _)

theorem readKnown_of_not_isSection (isNoSection : ¬ IsSection entries name) :
    readKnown name known empty read entries = ⟨[], .error (.notATable name)⟩ := by
  have faulty : readSection name entries = .error (.notATable name) := by
    rw [readSection]
    cases given : entries.get? name.toList with
    | none => exact absurd (fun value member => by rw [given] at member; cases member) isNoSection
    | some value =>
      dsimp only
      cases is : value.table? with
      | none => rfl
      | some fields =>
        refine absurd (fun other member => ?_) isNoSection
        rw [given, Option.mem_some] at member
        exact ⟨fields, member ▸ (table?_eq_some_iff value fields).mp is⟩
  rw [readKnown, faulty, Reading.ofResult_error_bind]

/-- A section is read when it is absent or a table whose fields are read. -/
theorem readKnown_eq_ok_iff (hollow : read [] = .ok empty) (settings : α) :
    (readKnown name known empty read entries).result = .ok settings ↔
      IsSection entries name ∧ read (sectionOf entries name) = .ok settings := by
  by_cases isSection : IsSection entries name
  · rw [readKnown_of_isSection hollow isSection, and_iff_right isSection]
  · simp [readKnown_of_not_isSection isSection, isSection]

end

/-! ## Documents that agree -/

/-- Two tables agree on some fields. -/
def SameFields (known : List String) (first second : Entries) : Prop :=
  ∀ name ∈ known, first.get? name.toList = second.get? name.toList

/-- Two documents agree on a section when both or neither have a table for it, if they have
anything, and the tables agree on the known fields. -/
structure SameSection (name : String) (known : List String) (first second : Entries) : Prop where
  tables : IsSection first name ↔ IsSection second name
  fields : SameFields known (sectionOf first name) (sectionOf second name)

/-- Two documents agree on the known fields, and so they may differ in the others. -/
structure SameKnown (first second : Entries) : Prop where
  version : first.get? "version".toList = second.get? "version".toList
  header : SameSection "disclaimer" headerNames first second
  linter : SameSection "python" linterNames first second

section

variable {first second : Entries}

theorem readField_congr {α : Type} {expected : String} {convert : Value → Option α}
    {sectionName name : String} (same : first.get? name.toList = second.get? name.toList) :
    readField expected convert sectionName first name =
      readField expected convert sectionName second name := by
  rw [readField, readField, same]

theorem readHeaderFields_congr (same : SameFields headerNames first second) :
    readHeaderFields first = readHeaderFields second := by
  have year : readYear "disclaimer" first "year" = readYear "disclaimer" second "year" :=
    readField_congr (same _ (by decide))
  have license : readString "disclaimer" first "license" =
      readString "disclaimer" second "license" := readField_congr (same _ (by decide))
  have owner : readString "disclaimer" first "owner" =
      readString "disclaimer" second "owner" := readField_congr (same _ (by decide))
  have exclude : readStrings "disclaimer" first "exclude" =
      readStrings "disclaimer" second "exclude" := readField_congr (same _ (by decide))
  have scanLines : readNat "disclaimer" first "scan_lines" =
      readNat "disclaimer" second "scan_lines" := readField_congr (same _ (by decide))
  have skipEmpty : readBoolean "disclaimer" first "skip_empty" =
      readBoolean "disclaimer" second "skip_empty" := readField_congr (same _ (by decide))
  rw [readHeaderFields, readHeaderFields, year, license, owner, exclude, scanLines, skipEmpty]

theorem readLinterFields_congr (same : SameFields linterNames first second) :
    readLinterFields first = readLinterFields second := by
  have command : readStrings "python" first "command" = readStrings "python" second "command" :=
    readField_congr (same _ (by decide))
  have arguments : readStrings "python" first "args" = readStrings "python" second "args" :=
    readField_congr (same _ (by decide))
  rw [readLinterFields, readLinterFields, command, arguments]

theorem readKnown_result_congr {α : Type} {name : String} {known : List String} {empty : α}
    {read : Entries → Except Fault α} (hollow : read [] = .ok empty)
    (reads : ∀ {first second}, SameFields known first second → read first = read second)
    (same : SameSection name known first second) :
    (readKnown name known empty read first).result =
      (readKnown name known empty read second).result := by
  by_cases isSection : IsSection first name
  · rw [readKnown_of_isSection hollow isSection,
      readKnown_of_isSection hollow (same.tables.mp isSection)]
    exact reads same.fields
  · rw [readKnown_of_not_isSection isSection,
      readKnown_of_not_isSection (mt same.tables.mpr isSection)]

end

/-! ## Documents -/

/-- The fields of the document that a text is, as they are handed over. -/
def document? (content : Text) : Option Entries :=
  (Toml.read? content).bind handed?

/-- Fields without the mark of a moment are handed over as they are. -/
theorem handed_of_unmarked {entries : Entries} (unmarked : ∀ entry ∈ entries, entry.2.Unmarked) :
    handed? entries = some entries :=
  Toml.mapM_eq_some_self fun entry member =>
    congrArg (Option.map (Prod.mk entry.1)) ((unmarked entry member).handed _)

/-- A document that is handed over has each key once. -/
theorem keyed_of_handed {content : Text} {given entries : Entries}
    (parsed : Toml.read? content = some given) (handed : handed? given = some entries) :
    Keyed Value.Distinct entries :=
  Toml.Keyed.mapM
    (fun entry => entry.2.handed? (!(documentNames.map String.toList).contains entry.1))
    (Toml.read?_distinct parsed)
    (fun _ member _ made => ((Toml.read?_distinct parsed).all _ member).handed made) handed

section

variable [Toml.Words]

theorem readVersion_eq_ok_iff (content : Text) (entries : Entries) (version : Int) :
    readVersion content entries = .ok version ↔
      entries.get? "version".toList = some (.integer 1) ∧ version = 1 := by
  rw [readVersion]
  cases entries.get? "version".toList with
  | none => simp
  | some value =>
    cases number : value.integer? with
    | none =>
      have apart : value ≠ .integer 1 := mt (integer?_eq_some_iff value 1).mpr (by simp [number])
      simp [number, apart]
    | some given =>
      obtain rfl := (integer?_eq_some_iff value given).mp number
      simp only [number, Option.some.injEq, Value.integer.injEq, supportedVersion]
      by_cases supported : given = 1 <;> simp [supported, eq_comm]

section

variable (content : Text) {entries : Entries}

theorem readDocument_result :
    (readDocument content entries).result = (readVersion content entries).bind fun version =>
      (readHeader entries).result.bind fun header =>
        (readLinter entries).result.bind fun linter => .ok ⟨version, header, linter⟩ := by
  rw [readDocument]
  simp only [Reading.result_bind]
  rfl

theorem readDocument_eq_ok_iff (settings : Settings) :
    (readDocument content entries).result = .ok settings ↔ settings.CarriedBy entries := by
  simp only [readDocument_result, bind_eq_ok_iff, readVersion_eq_ok_iff, readHeader, readLinter,
    readKnown_eq_ok_iff (show readHeaderFields [] = .ok .empty from rfl),
    readKnown_eq_ok_iff (show readLinterFields [] = .ok .empty from rfl),
    readHeaderFields_eq_ok_iff, readLinterFields_eq_ok_iff]
  constructor
  · rintro ⟨_, version, header, ⟨noted, isHeader⟩, linter, ⟨listed, isLinter⟩, made⟩
    cases made
    exact ⟨version, ⟨noted, listed⟩, isHeader, isLinter⟩
  · rintro ⟨version, ⟨noted, listed⟩, isHeader, isLinter⟩
    exact ⟨_, version, _, ⟨noted, isHeader⟩, _, ⟨listed, isLinter⟩, rfl⟩

/-- The warnings of settings that are read. -/
theorem readDocument_warnings {settings : Settings} (carried : settings.CarriedBy entries) :
    (readDocument content entries).warnings =
      (unknownNames documentNames entries).map Warning.ofName ++
        ((unknownNames headerNames (sectionOf entries "disclaimer")).map
            (Warning.ofField "disclaimer".toList) ++
          (unknownNames linterNames (sectionOf entries "python")).map
            (Warning.ofField "python".toList)) := by
  have version := (readVersion_eq_ok_iff content entries settings.version).mpr carried.version
  have header : readHeader entries =
      ⟨(unknownNames headerNames (sectionOf entries "disclaimer")).map
          (Warning.ofField "disclaimer".toList), .ok settings.header⟩ := by
    rw [← (readHeaderFields_eq_ok_iff _ _).mpr carried.header]
    exact readKnown_of_isSection rfl carried.sections.1
  have linter : readLinter entries =
      ⟨(unknownNames linterNames (sectionOf entries "python")).map
          (Warning.ofField "python".toList), .ok settings.linter⟩ := by
    rw [← (readLinterFields_eq_ok_iff _ _).mpr carried.linter]
    exact readKnown_of_isSection rfl carried.sections.2
  rw [readDocument, version, Reading.ofResult_ok_bind, Reading.warn_bind, header, linter]
  simp only [Bind.bind, Reading.bind, Pure.pure, Reading.ofResult, List.append_nil]

end

/-- The version of a document, if there is one, is an integer. -/
abbrev NumberedVersion (entries : Entries) : Prop :=
  FieldHas (fun value => ∃ number, value = .integer number) entries "version"

/-- What is read from a document depends on the known fields alone, but for the words on a version
that is no integer. -/
theorem readDocument_result_congr (content other : Text) {entries others : Entries}
    (numbered : NumberedVersion entries) (same : SameKnown entries others) :
    (readDocument content entries).result = (readDocument other others).result := by
  have version : readVersion content entries = readVersion other others := by
    rw [readVersion, readVersion, ← same.version]
    cases given : entries.get? "version".toList with
    | none => rfl
    | some value =>
      obtain ⟨number, rfl⟩ := numbered value given
      rfl
  have header : (readHeader entries).result = (readHeader others).result :=
    readKnown_result_congr rfl readHeaderFields_congr same.header
  have linter : (readLinter entries).result = (readLinter others).result :=
    readKnown_result_congr rfl readLinterFields_congr same.linter
  rw [readDocument_result, readDocument_result, version, header, linter]

theorem readDocument_of_not_numbered {content : Text} {entries : Entries}
    (isOther : ¬ NumberedVersion entries) :
    readDocument content entries = .ofResult (.error (mistyped content)) := by
  have version : readVersion content entries = .error (mistyped content) := by
    rw [readVersion]
    cases given : entries.get? "version".toList with
    | none => exact absurd (fun value member => by rw [given] at member; cases member) isOther
    | some value =>
      dsimp only
      cases number : value.integer? with
      | none => rfl
      | some version =>
        refine absurd (fun other member => ?_) isOther
        rw [given, Option.mem_some] at member
        exact ⟨version, member ▸ (integer?_eq_some_iff value version).mp number⟩
  rw [readDocument, version, Reading.ofResult_error_bind]
  rfl

theorem read_of_document {content : Text} {entries : Entries}
    (document : document? content = some entries) :
    read content = readDocument content entries := by
  obtain ⟨given, parsed, handed⟩ := Option.bind_eq_some_iff.mp document
  rw [read, parsed]
  dsimp only
  rw [handed]

/-! ## Settings and warnings -/

/-- The error of a text with a value that is not what is asked for. Its words tell the place in
the text. -/
def mistypedError (path : Path) (content : Text) : Error :=
  .config ("TOML parse error" ++ Toml.Words.describe content) (some path)

theorem settingsOf_of_read (path : Path) {content : Text} {result : Except Fault Settings}
    (made : (read content).result = result) :
    (settingsOf path content).1 =
      result.mapError fun fault => .config fault.reason (some path) := by
  rw [settingsOf, made]

theorem settingsOf_of_mistyped (path : Path) {content : Text}
    (mistaken : read content = .ofResult (.error (mistyped content))) :
    settingsOf path content = (.error (mistypedError path content), []) := by
  rw [settingsOf, mistaken]
  rfl

end

/-- The table of a section has each key once when those of the document do. -/
theorem keyed_sectionOf {entries : Entries} (keyed : Keyed Value.Distinct entries) (name : String) :
    Keyed Value.Distinct (sectionOf entries name) := by
  rw [sectionOf]
  cases given : (entries.get? name.toList).bind Value.table? with
  | none => exact ⟨List.nodup_nil, nofun⟩
  | some fields =>
    obtain ⟨value, found, is⟩ := Option.bind_eq_some_iff.mp given
    obtain rfl := (table?_eq_some_iff value fields).mp is
    obtain ⟨before, after, rfl, -⟩ := List.lookup_eq_some_iff.mp found
    exact Toml.Value.distinct_table_iff.mp (keyed.all (name.toList, .table fields) (by simp))

/-- One line for each unknown field of a document: those outside the sections first, then those of
the section for headers, then those of the section for the linter, each in order. -/
def Warned (path : Path) (entries : Entries) (lines : List String) : Prop :=
  ∃ outside header linter,
    UnknownInOrder documentNames entries outside ∧
      UnknownInOrder headerNames (sectionOf entries "disclaimer") header ∧
      UnknownInOrder linterNames (sectionOf entries "python") linter ∧
      lines = outside.map (fun name => (Warning.ofName name).display path) ++
        header.map (fun name => (Warning.ofField "disclaimer".toList name).display path) ++
        linter.map fun name => (Warning.ofField "python".toList name).display path

section

variable [Toml.Words]

/-- **A document comes to settings exactly when it is acceptable, and to those that it carries.**
Then there is one warning for each unknown field. Another document that agrees on the known fields
comes to the same settings or to the same error, whatever its other fields are; only when the
version is no integer, each document has an error with words of its own. A document is taken as it
is handed over, which is as it is unless the mark of a moment stands in it, and one that is not
handed over has such an error, too. -/
theorem settingsOf_document (path : Path) {content : Text} {given : Entries}
    (parsed : Toml.read? content = some given) :
    ((∀ entry ∈ given, entry.2.Unmarked) → handed? given = some given) ∧
      (handed? given = none → settingsOf path content = (.error (mistypedError path content), [])) ∧
      ∀ entries, handed? given = some entries →
        ((∃ settings, (settingsOf path content).1 = .ok settings) ↔ Acceptable entries) ∧
        (∀ settings, (settingsOf path content).1 = .ok settings ↔ settings.CarriedBy entries) ∧
        (∀ settings, (settingsOf path content).1 = .ok settings →
          Warned path entries (settingsOf path content).2) ∧
        ∀ other others, document? other = some others → SameKnown entries others →
          (NumberedVersion entries → (settingsOf path other).1 = (settingsOf path content).1) ∧
          (¬ NumberedVersion entries →
            settingsOf path content = (.error (mistypedError path content), []) ∧
              settingsOf path other = (.error (mistypedError path other), [])) := by
  refine ⟨handed_of_unmarked, fun unhanded => ?_, fun entries handed => ?_⟩
  · refine settingsOf_of_mistyped path ?_
    rw [read, parsed]
    dsimp only
    rw [unhanded]
  have document : document? content = some entries :=
    Option.bind_eq_some_iff.mpr ⟨given, parsed, handed⟩
  have reading := read_of_document document
  have carried (settings : Settings) :
      (settingsOf path content).1 = .ok settings ↔ settings.CarriedBy entries := by
    rw [← readDocument_eq_ok_iff content, settingsOf, reading]
    cases (readDocument content entries).result <;> simp [Except.mapError]
  have accepted : (∃ settings, (settingsOf path content).1 = .ok settings) ↔
      Acceptable entries := by
    simp only [carried, exists_settings_iff]
  refine ⟨accepted, carried, fun settings found => ?_, fun other others documentToo same =>
    ⟨fun numbered => ?_, fun isOther => ?_⟩⟩
  · have keyed := keyed_of_handed parsed handed
    refine ⟨_, _, _, unknownNames_inOrder keyed documentNames,
      unknownNames_inOrder (keyed_sectionOf keyed "disclaimer") headerNames,
      unknownNames_inOrder (keyed_sectionOf keyed "python") linterNames, ?_⟩
    rw [settingsOf, reading, readDocument_warnings content ((carried settings).mp found)]
    simp [Function.comp_def]
  · simp only [settingsOf, reading, read_of_document documentToo,
      readDocument_result_congr content other numbered same]
  · have isOtherToo : ¬ NumberedVersion others := by
      rw [NumberedVersion, FieldHas, ← same.version]
      exact isOther
    exact ⟨settingsOf_of_mistyped path (reading.trans (readDocument_of_not_numbered isOther)),
      settingsOf_of_mistyped path
        ((read_of_document documentToo).trans (readDocument_of_not_numbered isOtherToo))⟩

end

/-! ## Documents that differ in unknown fields -/

/-- The words on a version that is a string of one character, on a line of its own. -/
@[reducible]
def versionWords : Toml.Words where
  describe content :=
    let lines := content.fields (· = '\n')
    let above := lines.findIdx fun line => "version".toList.isPrefixOf line
    let line := String.ofList (lines.getD above [])
    s!" at line {above + 1}, column 11\n  |\n{above + 1} | {line}\n" ++
      "  |           ^^^\ninvalid type: string \x221\x22, expected i64\n"

theorem get?_filter {keep : Text → Bool} {name : Text} (kept : keep name = true)
    (entries : Entries) :
    Entries.get? (entries.filter fun entry => keep entry.1) name = entries.get? name := by
  rw [Entries.get?, Entries.get?]
  induction entries with
  | nil => rfl
  | cons entry others ih =>
    rw [List.filter_cons]
    by_cases here : name = entry.1
    · subst here
      rw [if_pos kept, List.lookup_cons_self, List.lookup_cons_self]
    · rw [List.lookup_cons, beq_false_of_ne here, ← ih]
      split
      · rw [List.lookup_cons, beq_false_of_ne here]
      · rfl

section

variable {first second : Entries} {name : String} {known : List String}

/-- Tables agree on the known fields when both have the same ones in the same order. -/
theorem sameFields_of_filter
    (same : first.filter (fun entry => (known.map String.toList).contains entry.1) =
      second.filter fun entry => (known.map String.toList).contains entry.1) :
    SameFields known first second := by
  intro name member
  have kept : (known.map String.toList).contains name.toList = true :=
    List.contains_iff_mem.mpr (List.mem_map_of_mem member)
  rw [← get?_filter kept first, ← get?_filter kept second, same]

theorem sameSection_of_tables {fields others : Entries}
    (here : first.get? name.toList = some (.table fields))
    (there : second.get? name.toList = some (.table others))
    (same : SameFields known fields others) : SameSection name known first second where
  tables := by
    rw [IsSection, IsSection, FieldHas, FieldHas, here, there]
    exact iff_of_true (fun _ member => ⟨fields, (Option.mem_some.mp member).symm⟩)
      fun _ member => ⟨others, (Option.mem_some.mp member).symm⟩
  fields := by
    rw [sectionOf, sectionOf, here, there]
    exact same

theorem sameSection_of_absent (here : first.get? name.toList = none)
    (there : second.get? name.toList = none) : SameSection name known first second where
  tables := by rw [IsSection, IsSection, FieldHas, FieldHas, here, there]
  fields := by
    rw [sectionOf, sectionOf, here, there]
    exact fun _ _ => rfl

end

/-- A text with the fields of the document that it is. -/
structure Sample where
  text : Text
  fields : Entries
  parsed : Toml.read? text = some fields

namespace Sample

/-- A document with unknown fields outside the sections and in one of them. -/
def furnished : Sample where
  text := "version = 1\nlint = ''\n[disclaimer]\nowner = 'A'\nb = ''\na = true\n".toList
  fields := [("version".toList, .integer 1), ("lint".toList, .string []),
    ("disclaimer".toList, .table [("owner".toList, .string "A".toList), ("b".toList, .string []),
      ("a".toList, .boolean true)])]
  parsed := by cbv

/-- The document with other unknown fields. -/
def refurnished : Sample where
  text := "x = []\nversion = 1\n[disclaimer]\nz = [true]\nowner = 'A'\n".toList
  fields := [("x".toList, .array []), ("version".toList, .integer 1),
    ("disclaimer".toList, .table [("z".toList, .array [.boolean true]),
      ("owner".toList, .string "A".toList)])]
  parsed := by cbv

/-- The document with the mark of a moment as an unknown field in the section. -/
def marked : Sample where
  text := ("version = 1\n[disclaimer]\n" ++
    "\"$__toml_private_datetime\" = \"1979-05-27\"\nowner = 'A'\n").toList
  fields := [("version".toList, .integer 1),
    ("disclaimer".toList, .table [(Toml.momentMark, .string "1979-05-27".toList),
      ("owner".toList, .string "A".toList)])]
  parsed := by cbv

/-- A document with a version that is no integer. -/
def spelled : Sample where
  text := "version = \"1\"\n".toList
  fields := [("version".toList, .string "1".toList)]
  parsed := by cbv

/-- A document with such a version below an unknown field. -/
def spelledBelow : Sample where
  text := "zzz = ''\nversion = \"1\"\n".toList
  fields := [("zzz".toList, .string []), ("version".toList, .string "1".toList)]
  parsed := by cbv

theorem same_refurnished : SameKnown furnished.fields refurnished.fields where
  version := rfl
  header := sameSection_of_tables rfl rfl (sameFields_of_filter rfl)
  linter := sameSection_of_absent rfl rfl

theorem same_marked : SameKnown furnished.fields marked.fields where
  version := rfl
  header := sameSection_of_tables rfl rfl (sameFields_of_filter rfl)
  linter := sameSection_of_absent rfl rfl

theorem same_spelled : SameKnown spelled.fields spelledBelow.fields :=
  ⟨rfl, sameSection_of_absent rfl rfl, sameSection_of_absent rfl rfl⟩

/-- The settings of the furnished document. -/
def owned : Settings :=
  ⟨1, ⟨none, some "A".toList, [], none, none, false⟩, .empty⟩

end Sample

/-- The theorem at a document with unknown fields and at the same one with others. -/
theorem settingsOf_document_unknownFields :
    let _ : Toml.Words := versionWords
    let path : Path := ⟨"s.toml".toList⟩
    let content := Sample.furnished.text
    ∃ entries, Toml.read? content = some entries ∧ Acceptable entries ∧
      Sample.owned.CarriedBy entries ∧ Warned path entries (settingsOf path content).2 ∧
      (settingsOf path Sample.refurnished.text).1 = (settingsOf path content).1 := by
  intro _ path content
  have handed : handed? Sample.furnished.fields = some Sample.furnished.fields := rfl
  have document : document? Sample.refurnished.text = some Sample.refurnished.fields :=
    Option.bind_eq_some_iff.mpr ⟨_, Sample.refurnished.parsed, rfl⟩
  have numbered : NumberedVersion Sample.furnished.fields :=
    fun _ member => ⟨1, (Option.mem_some.mp member).symm⟩
  obtain ⟨-, -, whole⟩ := settingsOf_document path Sample.furnished.parsed
  obtain ⟨accepted, carried, warned, unchanged⟩ := whole _ handed
  have read : (read content).result = .ok Sample.owned := by decide +kernel
  have made := settingsOf_of_read path read
  exact ⟨_, Sample.furnished.parsed, accepted.mp ⟨_, made⟩, (carried _).mp made, warned _ made,
    (unchanged _ _ document Sample.same_refurnished).1 numbered⟩

/-- An unknown field above a version that is no integer changes what is told of it, and the mark of
a moment as an unknown field in a section turns settings into an error. -/
theorem settingsOf_unknownField_counts :
    let _ : Toml.Words := versionWords
    let path : Path := ⟨"s.toml".toList⟩
    (SameKnown Sample.spelled.fields Sample.spelledBelow.fields ∧
      (settingsOf path Sample.spelled.text).1 = .error (mistypedError path Sample.spelled.text) ∧
      (settingsOf path Sample.spelledBelow.text).1 =
        .error (mistypedError path Sample.spelledBelow.text) ∧
      mistypedError path Sample.spelledBelow.text ≠ mistypedError path Sample.spelled.text) ∧
    SameKnown Sample.furnished.fields Sample.marked.fields ∧
      (settingsOf path Sample.furnished.text).1 = .ok Sample.owned ∧
      (settingsOf path Sample.marked.text).1 =
        .error (.config "[disclaimer] must be a table" (some path)) := by
  intro _ path
  have spelled : (read Sample.spelled.text).result = .error (mistyped Sample.spelled.text) := by
    decide +kernel
  have below : (read Sample.spelledBelow.text).result =
      .error (mistyped Sample.spelledBelow.text) := by decide +kernel
  have furnished : (read Sample.furnished.text).result = .ok Sample.owned := by decide +kernel
  have marked : (read Sample.marked.text).result = .error (.notATable "disclaimer") := by
    decide +kernel
  have told : Toml.Words.describe Sample.spelledBelow.text ≠
      Toml.Words.describe Sample.spelled.text := by decide +kernel
  exact ⟨⟨Sample.same_spelled, settingsOf_of_read path spelled, settingsOf_of_read path below,
      fun equal => told (by simpa [mistypedError] using equal)⟩,
    Sample.same_marked, settingsOf_of_read path furnished, settingsOf_of_read path marked⟩

end Hygiene.Config
