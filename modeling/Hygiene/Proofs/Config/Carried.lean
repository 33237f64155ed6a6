import Hygiene.Proofs.CommandLine.Plan

/-!
# Settings that a document carries

Settings are read from a table exactly when the table carries them: each known field is absent or
holds a value of its own form, and that value is in the settings (`readHeaderFields_eq_ok_iff`,
`readLinterFields_eq_ok_iff`). There are such settings when the known fields have acceptable forms,
and what else the table holds does not matter.
-/

set_option autoImplicit false

namespace Hygiene

theorem bind_eq_ok_iff {ε α β : Type} {first : Except ε α} {next : α → Except ε β} {last : β} :
    first.bind next = .ok last ↔ ∃ value, first = .ok value ∧ next value = .ok last := by
  refine ⟨bind_eq_ok, ?_⟩
  rintro ⟨value, rfl, goes⟩
  exact goes

namespace Config

open Toml (Entries Value)

/-! ## Fields -/

/-- The array of some strings. -/
def ofStrings (texts : List Text) : Value :=
  .array (texts.map .string)

section

variable {α : Type} {expected : String} {convert : Value → Option α} {embed : α → Value}

/-- A field is read exactly when it is absent or holds a value of its own form. -/
theorem readField_eq_ok_iff (Fits : α → Prop)
    (exact : ∀ value converted, convert value = some converted ↔
      value = embed converted ∧ Fits converted)
    (sectionName : String) (entries : Entries) (name : String) (found : Option α) :
    readField expected convert sectionName entries name = .ok found ↔
      entries.get? name.toList = found.map embed ∧ ∀ converted ∈ found, Fits converted := by
  rw [readField]
  cases entries.get? name.toList with
  | none => cases found <;> simp
  | some value =>
    dsimp only
    cases got : convert value with
    | none =>
      cases found with
      | none => simp
      | some wanted =>
        have apart := mt (exact value wanted).mpr (by simp [got])
        simpa using apart
    | some given =>
      cases found with
      | none => simp
      | some wanted =>
        have held := exact value wanted
        rw [got] at held
        simpa using held

/-- A field whose form says all is read exactly when it is absent or holds a value of that form. -/
theorem readField_eq_ok_iff_of_form
    (exact : ∀ value converted, convert value = some converted ↔ value = embed converted)
    (sectionName : String) (entries : Entries) (name : String) (found : Option α) :
    readField expected convert sectionName entries name = .ok found ↔
      entries.get? name.toList = found.map embed :=
  (readField_eq_ok_iff (fun _ => True) (by simpa using exact) sectionName entries name found).trans
    (and_iff_left fun _ _ => trivial)

end

theorem string?_eq_some_iff (value : Value) (text : Text) :
    value.string? = some text ↔ value = .string text := by
  cases value <;> simp [Value.string?]

theorem integer?_eq_some_iff (value : Value) (number : Int) :
    value.integer? = some number ↔ value = .integer number := by
  cases value <;> simp [Value.integer?]

theorem boolean?_eq_some_iff (value : Value) (truth : Bool) :
    value.boolean? = some truth ↔ value = .boolean truth := by
  cases value <;> simp [Value.boolean?]

theorem table?_eq_some_iff (value : Value) (entries : Entries) :
    value.table? = some entries ↔ value = .table entries := by
  cases value <;> simp [Value.table?]

theorem strings?_eq_some_iff (value : Value) (texts : List Text) :
    value.strings? = some texts ↔ value = ofStrings texts := by
  have items (items : List Value) (texts : List Text) :
      items.mapM Value.string? = some texts ↔ items = texts.map .string := by
    induction items generalizing texts with
    | nil => cases texts <;> simp
    | cons item items ih =>
      rw [List.mapM_cons]
      simp only [Option.bind_eq_bind, Option.bind_eq_some_iff, string?_eq_some_iff, ih]
      cases texts <;> simp
  cases value <;> simp [Value.strings?, ofStrings, items]

theorem readString_eq_ok_iff {sectionName : String} {entries : Entries} {name : String}
    {found : Option Text} :
    readString sectionName entries name = .ok found ↔
      entries.get? name.toList = found.map .string :=
  readField_eq_ok_iff_of_form string?_eq_some_iff ..

theorem readStrings_eq_ok_iff {sectionName : String} {entries : Entries} {name : String}
    {found : Option (List Text)} :
    readStrings sectionName entries name = .ok found ↔
      entries.get? name.toList = found.map ofStrings :=
  readField_eq_ok_iff_of_form strings?_eq_some_iff ..

theorem readBoolean_eq_ok_iff {sectionName : String} {entries : Entries} {name : String}
    {found : Option Bool} :
    readBoolean sectionName entries name = .ok found ↔
      entries.get? name.toList = found.map .boolean :=
  readField_eq_ok_iff_of_form boolean?_eq_some_iff ..

theorem readNat_eq_ok_iff {sectionName : String} {entries : Entries} {name : String}
    {found : Option Nat} :
    readNat sectionName entries name = .ok found ↔
      entries.get? name.toList = found.map fun number => .integer number := by
  refine readField_eq_ok_iff_of_form (fun value number => ?_) ..
  cases value with
  | integer given =>
    simp only [Value.integer?, Option.map_eq_some_iff, Option.filter_eq_some_iff,
      Option.some.injEq, decide_eq_true_eq, Value.integer.injEq]
    constructor
    · rintro ⟨_, ⟨rfl, natural⟩, rfl⟩
      exact (Int.toNat_of_nonneg natural).symm
    · rintro rfl
      exact ⟨_, ⟨rfl, Int.natCast_nonneg number⟩, Int.toNat_natCast number⟩
  | _ => simp [Value.integer?]

/-- A year is read from any number of 32 bits. -/
theorem readYear_eq_ok_iff {sectionName : String} {entries : Entries} {name : String}
    {found : Option Int} :
    readYear sectionName entries name = .ok found ↔
      entries.get? name.toList = found.map .integer ∧
        ∀ number ∈ found, Int32.minValue.toInt ≤ number ∧ number ≤ Int32.maxValue.toInt := by
  refine readField_eq_ok_iff
    (fun number => Int32.minValue.toInt ≤ number ∧ number ≤ Int32.maxValue.toInt)
    (fun value number => ?_) ..
  cases value <;> simp [Value.integer?]

/-! ## Sections -/

/-- A field holds what is carried, or it is absent and the default is carried. -/
def HoldsOr {α : Type} (entries : Entries) (name : String) (embed : α → Value)
    (default carried : α) : Prop :=
  entries.get? name.toList = some (embed carried) ∨
    entries.get? name.toList = none ∧ carried = default

theorem holdsOr_iff {α : Type} {entries : Entries} {name : String} {embed : α → Value}
    {default carried : α} :
    HoldsOr entries name embed default carried ↔
      ∃ found : Option α, entries.get? name.toList = found.map embed ∧
        found.getD default = carried := by
  constructor
  · rintro (holds | ⟨absent, rfl⟩)
    · exact ⟨some carried, holds, rfl⟩
    · exact ⟨none, absent, rfl⟩
  · rintro ⟨found, given, rfl⟩
    cases found with
    | none => exact .inr ⟨given, rfl⟩
    | some carried => exact .inl given

/-- The section for headers carries settings. -/
structure HeaderSettings.CarriedBy (settings : HeaderSettings) (entries : Entries) : Prop where
  license : entries.get? "license".toList = settings.license.map .string
  owner : entries.get? "owner".toList = settings.owner.map .string
  exclude : HoldsOr entries "exclude" ofStrings [] settings.exclude
  year : entries.get? "year".toList = settings.year.map .integer
  dated : settings.Dated
  scanLines : entries.get? "scan_lines".toList =
    settings.scanLines.map fun number => .integer number
  skipEmpty : HoldsOr entries "skip_empty" .boolean false settings.skipEmpty

/-- The section for the linter carries settings. -/
structure LinterSettings.CarriedBy (settings : LinterSettings) (entries : Entries) : Prop where
  command : HoldsOr entries "command" ofStrings [] settings.command
  arguments : HoldsOr entries "args" ofStrings [] settings.arguments

theorem readLinterFields_eq_ok_iff (entries : Entries) (settings : LinterSettings) :
    readLinterFields entries = .ok settings ↔ settings.CarriedBy entries := by
  constructor
  · intro read
    obtain ⟨command, isCommand, read⟩ := bind_eq_ok read
    obtain ⟨arguments, areArguments, read⟩ := bind_eq_ok read
    cases read
    exact ⟨holdsOr_iff.mpr ⟨command, readStrings_eq_ok_iff.mp isCommand, rfl⟩,
      holdsOr_iff.mpr ⟨arguments, readStrings_eq_ok_iff.mp areArguments, rfl⟩⟩
  · rintro ⟨command, arguments⟩
    obtain ⟨found, isCommand, same⟩ := holdsOr_iff.mp command
    obtain ⟨others, areArguments, too⟩ := holdsOr_iff.mp arguments
    refine bind_eq_ok_iff.mpr ⟨found, readStrings_eq_ok_iff.mpr isCommand, ?_⟩
    refine bind_eq_ok_iff.mpr ⟨others, readStrings_eq_ok_iff.mpr areArguments, ?_⟩
    rw [same, too]
    rfl

theorem readHeaderFields_eq_ok_iff (entries : Entries) (settings : HeaderSettings) :
    readHeaderFields entries = .ok settings ↔ settings.CarriedBy entries := by
  constructor
  · intro read
    have dated := readHeaderFields_dated read
    obtain ⟨year, isYear, read⟩ := bind_eq_ok read
    dsimp only at read
    cases wrong : year.filter fun number => !isFourDigitYear number with
    | some number =>
      rw [wrong] at read
      cases read
    | none =>
      rw [wrong] at read
      dsimp only at read
      obtain ⟨license, isLicense, read⟩ := bind_eq_ok read
      obtain ⟨owner, isOwner, read⟩ := bind_eq_ok read
      obtain ⟨exclude, isExclude, read⟩ := bind_eq_ok read
      obtain ⟨scanLines, isScanLines, read⟩ := bind_eq_ok read
      obtain ⟨skipEmpty, isSkipEmpty, read⟩ := bind_eq_ok read
      cases read
      exact {
        license := readString_eq_ok_iff.mp isLicense
        owner := readString_eq_ok_iff.mp isOwner
        exclude := holdsOr_iff.mpr ⟨exclude, readStrings_eq_ok_iff.mp isExclude, rfl⟩
        year := (readYear_eq_ok_iff.mp isYear).1
        dated := dated
        scanLines := readNat_eq_ok_iff.mp isScanLines
        skipEmpty := holdsOr_iff.mpr ⟨skipEmpty, readBoolean_eq_ok_iff.mp isSkipEmpty, rfl⟩ }
  · intro carried
    obtain ⟨exclude, isExclude, same⟩ := holdsOr_iff.mp carried.exclude
    obtain ⟨skipEmpty, isSkipEmpty, too⟩ := holdsOr_iff.mp carried.skipEmpty
    have small : ∀ number ∈ settings.year,
        Int32.minValue.toInt ≤ number ∧ number ≤ Int32.maxValue.toInt := by
      have bounds : Int32.minValue.toInt ≤ 1000 ∧ 9999 ≤ Int32.maxValue.toInt := by decide
      intro number given
      obtain ⟨above, below⟩ := carried.dated number given
      exact ⟨Int.le_trans bounds.1 above, Int.le_trans below bounds.2⟩
    refine bind_eq_ok_iff.mpr ⟨settings.year, readYear_eq_ok_iff.mpr ⟨carried.year, small⟩, ?_⟩
    have right : (settings.year.filter fun number => !isFourDigitYear number) = none := by
      refine Option.filter_eq_none_iff.mpr fun number given => ?_
      simpa [isFourDigitYear] using carried.dated number given
    dsimp only
    rw [right]
    dsimp only
    refine bind_eq_ok_iff.mpr ⟨_, readString_eq_ok_iff.mpr carried.license, ?_⟩
    refine bind_eq_ok_iff.mpr ⟨_, readString_eq_ok_iff.mpr carried.owner, ?_⟩
    refine bind_eq_ok_iff.mpr ⟨_, readStrings_eq_ok_iff.mpr isExclude, ?_⟩
    refine bind_eq_ok_iff.mpr ⟨_, readNat_eq_ok_iff.mpr carried.scanLines, ?_⟩
    refine bind_eq_ok_iff.mpr ⟨_, readBoolean_eq_ok_iff.mpr isSkipEmpty, ?_⟩
    rw [same, too]
    rfl

/-! ## Documents -/

/-- The table of a section, or an empty one where the section is absent. -/
def sectionOf (entries : Entries) (name : String) : Entries :=
  ((entries.get? name.toList).bind Value.table?).getD []

/-- A field is absent, or its value has a given form. -/
def FieldHas (Form : Value → Prop) (entries : Entries) (name : String) : Prop :=
  ∀ value ∈ entries.get? name.toList, Form value

/-- A section is absent or a table. -/
abbrev IsSection (entries : Entries) (name : String) : Prop :=
  FieldHas (fun value => ∃ fields, value = .table fields) entries name

/-- A document carries settings. -/
structure Settings.CarriedBy (settings : Settings) (entries : Entries) : Prop where
  version : entries.get? "version".toList = some (.integer 1) ∧ settings.version = 1
  sections : IsSection entries "disclaimer" ∧ IsSection entries "python"
  header : settings.header.CarriedBy (sectionOf entries "disclaimer")
  linter : settings.linter.CarriedBy (sectionOf entries "python")

/-! ## Acceptable forms -/

/-- The known fields of the section for headers have acceptable forms. -/
structure AcceptableHeader (entries : Entries) : Prop where
  license : FieldHas (fun value => ∃ text, value = .string text) entries "license"
  owner : FieldHas (fun value => ∃ text, value = .string text) entries "owner"
  exclude : FieldHas (fun value => ∃ texts, value = ofStrings texts) entries "exclude"
  year : FieldHas (fun value => ∃ number, value = .integer number ∧ 1000 ≤ number ∧ number ≤ 9999)
    entries "year"
  scanLines : FieldHas (fun value => ∃ number, value = .integer number ∧ 0 ≤ number) entries
    "scan_lines"
  skipEmpty : FieldHas (fun value => ∃ truth, value = .boolean truth) entries "skip_empty"

/-- The known fields of the section for the linter have acceptable forms. -/
structure AcceptableLinter (entries : Entries) : Prop where
  command : FieldHas (fun value => ∃ texts, value = ofStrings texts) entries "command"
  arguments : FieldHas (fun value => ∃ texts, value = ofStrings texts) entries "args"

/-- The version of a document is the supported one, and the known fields of its sections have
acceptable forms. -/
structure Acceptable (entries : Entries) : Prop where
  version : entries.get? "version".toList = some (.integer 1)
  sections : IsSection entries "disclaimer" ∧ IsSection entries "python"
  header : AcceptableHeader (sectionOf entries "disclaimer")
  linter : AcceptableLinter (sectionOf entries "python")

section

variable {α : Type} {entries : Entries} {name : String} {embed : α → Value} {Fits : α → Prop}

/-- A field is absent or has a form that fits when there is something for it to hold. -/
theorem fieldHas_iff_exists :
    FieldHas (fun value => ∃ held, value = embed held ∧ Fits held) entries name ↔
      ∃ found : Option α, entries.get? name.toList = found.map embed ∧
        ∀ held ∈ found, Fits held := by
  constructor
  · intro has
    cases given : entries.get? name.toList with
    | none => exact ⟨none, rfl, nofun⟩
    | some value =>
      obtain ⟨held, rfl, fits⟩ := has value given
      exact ⟨some held, rfl, fun _ same => Option.mem_some.mp same ▸ fits⟩
  · rintro ⟨found, given, fits⟩ value member
    rw [given] at member
    obtain ⟨held, present, rfl⟩ := Option.map_eq_some_iff.mp member
    exact ⟨held, rfl, fits held present⟩

theorem fieldHas_embed_iff :
    FieldHas (fun value => ∃ held, value = embed held) entries name ↔
      ∃ found : Option α, entries.get? name.toList = found.map embed := by
  simpa using @fieldHas_iff_exists α entries name embed fun _ => True

theorem exists_holdsOr_iff (default : α) :
    (∃ carried, HoldsOr entries name embed default carried) ↔
      FieldHas (fun value => ∃ held, value = embed held) entries name := by
  simp only [holdsOr_iff, fieldHas_embed_iff]
  exact ⟨fun ⟨_, found, given, _⟩ => ⟨found, given⟩, fun ⟨found, given⟩ => ⟨_, found, given, rfl⟩⟩

end

/-- A section carries some settings when its known fields have acceptable forms. -/
theorem exists_headerSettings_iff (entries : Entries) :
    (∃ settings : HeaderSettings, settings.CarriedBy entries) ↔ AcceptableHeader entries := by
  have natural : FieldHas (fun value => ∃ number, value = .integer number ∧ 0 ≤ number) entries
      "scan_lines" ↔
      ∃ found : Option Nat, entries.get? "scan_lines".toList =
        found.map fun number => .integer number := by
    rw [← fieldHas_embed_iff]
    refine forall₂_congr fun value _ => ⟨?_, ?_⟩
    · rintro ⟨number, rfl, above⟩
      exact ⟨number.toNat, by rw [Int.toNat_of_nonneg above]⟩
    · rintro ⟨number, rfl⟩
      exact ⟨number, rfl, Int.natCast_nonneg number⟩
  constructor
  · rintro ⟨settings, carried⟩
    exact {
      license := fieldHas_embed_iff.mpr ⟨_, carried.license⟩
      owner := fieldHas_embed_iff.mpr ⟨_, carried.owner⟩
      exclude := (exists_holdsOr_iff []).mp ⟨_, carried.exclude⟩
      year := fieldHas_iff_exists.mpr ⟨_, carried.year, carried.dated⟩
      scanLines := natural.mpr ⟨_, carried.scanLines⟩
      skipEmpty := (exists_holdsOr_iff false).mp ⟨_, carried.skipEmpty⟩ }
  · intro acceptable
    obtain ⟨license, isLicense⟩ := fieldHas_embed_iff.mp acceptable.license
    obtain ⟨owner, isOwner⟩ := fieldHas_embed_iff.mp acceptable.owner
    obtain ⟨exclude, isExclude⟩ := (exists_holdsOr_iff []).mpr acceptable.exclude
    obtain ⟨year, isYear, dated⟩ := fieldHas_iff_exists.mp acceptable.year
    obtain ⟨scanLines, isScanLines⟩ := natural.mp acceptable.scanLines
    obtain ⟨skipEmpty, isSkipEmpty⟩ := (exists_holdsOr_iff false).mpr acceptable.skipEmpty
    exact ⟨⟨license, owner, exclude, year, scanLines, skipEmpty⟩,
      isLicense, isOwner, isExclude, isYear, dated, isScanLines, isSkipEmpty⟩

theorem exists_linterSettings_iff (entries : Entries) :
    (∃ settings : LinterSettings, settings.CarriedBy entries) ↔ AcceptableLinter entries := by
  constructor
  · rintro ⟨settings, command, arguments⟩
    exact ⟨(exists_holdsOr_iff []).mp ⟨_, command⟩, (exists_holdsOr_iff []).mp ⟨_, arguments⟩⟩
  · rintro ⟨isCommand, areArguments⟩
    obtain ⟨command, isCommand⟩ := (exists_holdsOr_iff []).mpr isCommand
    obtain ⟨arguments, areArguments⟩ := (exists_holdsOr_iff []).mpr areArguments
    exact ⟨⟨command, arguments⟩, isCommand, areArguments⟩

/-- A document carries some settings when it is acceptable. -/
theorem exists_settings_iff (entries : Entries) :
    (∃ settings : Settings, settings.CarriedBy entries) ↔ Acceptable entries := by
  constructor
  · rintro ⟨settings, ⟨version, -⟩, sections, header, linter⟩
    exact ⟨version, sections, (exists_headerSettings_iff _).mp ⟨_, header⟩,
      (exists_linterSettings_iff _).mp ⟨_, linter⟩⟩
  · rintro ⟨version, sections, header, linter⟩
    obtain ⟨header, isHeader⟩ := (exists_headerSettings_iff _).mpr header
    obtain ⟨linter, isLinter⟩ := (exists_linterSettings_iff _).mpr linter
    exact ⟨⟨1, header, linter⟩, ⟨version, rfl⟩, sections, isHeader, isLinter⟩

end Config

end Hygiene
