import Mathlib.Data.List.Find
import Mathlib.Data.List.Nodup
import Hygiene.Proofs.Header.Shebang
import Hygiene.Proofs.Text.Words

/-!
# The interpreter that a script asks for

A line that begins with `#!` asks for the program that its first word names, by what stands behind
the last slash. When this is `env`, the line asks for what the first later word names that is
neither an option nor an assignment (`Asks`, `interpreter_eq_some_iff`).

The kind of the script is that of the keyword of which the program's name is a version: the keyword
itself or the keyword with digits and dots behind it. No keyword has a digit or a dot in it, so a
name says where its keyword ends, and it is a version of at most one of them. Keywords that end or
begin alike, such as `sh` and `bash`, are not mixed up, and the order in which the keywords are
tried makes no difference (`kind_byInterpreter`).
-/

set_option autoImplicit false

namespace Hygiene.Shebang

open Text (FirstWord)

/-! ## Names of programs -/

/-- A name is what stands behind the last slash of a word, or all of a word without slashes. -/
def IsBaseName (word name : Text) : Prop :=
  '/' ∉ name ∧ (word = name ∨ ∃ front : Text, word = front ++ '/' :: name)

theorem baseName_of_noSlash {name : Text} (plain : '/' ∉ name) : baseName name = name := by
  have all : name.reverse.takeWhile (· ≠ '/') = name.reverse := by
    rw [List.takeWhile_eq_self_iff]
    intro c member
    simp only [decide_eq_true_eq]
    rintro rfl
    exact plain (List.mem_reverse.mp member)
  rw [baseName, all, List.reverse_reverse]

theorem baseName_behind_slash (front : Text) {name : Text} (plain : '/' ∉ name) :
    baseName (front ++ '/' :: name) = name := by
  have inner := baseName_of_noSlash plain
  rw [baseName] at inner ⊢
  have turned : (front ++ '/' :: name).reverse = name.reverse ++ '/' :: front.reverse := by simp
  rw [turned, Text.takeWhile_append_cons_of_stop, inner]
  simp

theorem baseName_eq_iff {word name : Text} : baseName word = name ↔ IsBaseName word name := by
  constructor
  · rintro rfl
    by_cases slash : '/' ∈ word
    · obtain ⟨turnedName, turnedFront, whole, plain⟩ :=
        List.eq_append_cons_of_mem (List.mem_reverse.mpr slash)
      have cut : word = turnedFront.reverse ++ '/' :: turnedName.reverse := by
        rw [← List.reverse_reverse word, whole]
        simp
      have noSlash : '/' ∉ turnedName.reverse := by simpa using plain
      rw [cut, baseName_behind_slash _ noSlash]
      exact ⟨noSlash, .inr ⟨_, rfl⟩⟩
    · rw [baseName_of_noSlash slash]
      exact ⟨slash, .inl rfl⟩
  · rintro ⟨plain, rfl | ⟨front, rfl⟩⟩
    · exact baseName_of_noSlash plain
    · exact baseName_behind_slash front plain

/-! ## What a line asks for -/

/-- A word that `env` does not take for a program: an option or an assignment. -/
def IsSetting (word : Text) : Prop :=
  word.head? = some '-' ∨ '=' ∈ word

/-- The first word of a text that is no setting. -/
inductive FirstCommand : Text → Text → Prop where
  | here {text word behind : Text} (first : FirstWord text word behind)
      (plain : ¬ IsSetting word) : FirstCommand text word
  | later {text passed behind word : Text} (first : FirstWord text passed behind)
      (setting : IsSetting passed) (further : FirstCommand behind word) : FirstCommand text word

/-- The name of the program that does not run itself but the program that it is given. -/
def env : Text := "env".toList

/-- A line asks for a program by its name. -/
inductive Asks (line name : Text) : Prop where
  /-- The first word names the program. -/
  | directly {rest program behind : Text} (script : line = mark ++ rest)
      (first : FirstWord rest program behind) (named : IsBaseName program name)
      (other : name ≠ env) : Asks line name
  /-- The first word names `env`, and a later one the program. -/
  | throughEnv {rest program behind command : Text} (script : line = mark ++ rest)
      (first : FirstWord rest program behind) (through : IsBaseName program env)
      (given : FirstCommand behind command) (named : IsBaseName command name) : Asks line name

/-- Whether a word is no setting. -/
def isCommand (word : Text) : Bool :=
  word.head? != some '-' && !word.any (· == '=')

theorem isCommand_iff (word : Text) : isCommand word = true ↔ ¬ IsSetting word := by
  simp [isCommand, IsSetting, not_or, List.any_eq_false]
  intro _
  constructor
  · intro other member
    exact other _ member rfl
  · rintro plain c member rfl
    exact plain member

/-- The first command of a text is the first of its words that is no setting. -/
theorem firstCommand_iff {text word : Text} :
    FirstCommand text word ↔ (Text.words text).find? isCommand = some word := by
  constructor
  · intro command
    induction command with
    | here first plain =>
      rw [first.words_eq, List.find?_cons_of_pos ((isCommand_iff _).mpr plain)]
    | later first setting further ih =>
      rw [first.words_eq, List.find?_cons_of_neg, ih]
      rw [isCommand_iff]
      exact not_not_intro setting
  · intro found
    generalize cut : Text.words text = words at found
    induction words generalizing text with
    | nil => cases found
    | cons next words ih =>
      obtain ⟨behind, first, rest⟩ := Text.words_eq_cons_iff.mp cut
      rw [List.find?_cons] at found
      cases command : isCommand next with
      | true =>
        rw [command, Option.some.injEq] at found
        subst found
        exact .here first ((isCommand_iff _).mp command)
      | false =>
        rw [command] at found
        refine .later first ?_ (ih rest found)
        by_contra plain
        rw [(isCommand_iff _).mpr plain] at command
        cases command

theorem dropBeginning_eq_some_iff {text beginning rest : Text} :
    Text.dropBeginning? text beginning = some rest ↔ text = beginning ++ rest := by
  constructor
  · intro dropped
    rw [Text.dropBeginning?] at dropped
    split at dropped
    · rename_i begins
      obtain ⟨after, rfl⟩ := List.isPrefixOf_iff_prefix.mp begins
      rw [List.drop_left, Option.some.injEq] at dropped
      rw [dropped]
    · cases dropped
  · rintro rfl
    exact dropBeginning_append beginning rest

/-- **The interpreter of a line is what the line asks for.** -/
theorem interpreter_eq_some_iff {line name : Text} :
    interpreter? line = some name ↔ Asks line name := by
  rw [interpreter?, Option.bind_eq_some_iff]
  constructor
  · rintro ⟨rest, script, found⟩
    replace script := dropBeginning_eq_some_iff.mp script
    cases cut : Text.words rest with
    | nil =>
      rw [cut] at found
      cases found
    | cons program words =>
      obtain ⟨behind, first, rfl⟩ := Text.words_eq_cons_iff.mp cut
      rw [cut] at found
      dsimp only at found
      split at found
      · rename_i through
        obtain ⟨command, given, named⟩ := Option.map_eq_some_iff.mp found
        exact .throughEnv script first (baseName_eq_iff.mp through) (firstCommand_iff.mpr given)
          (baseName_eq_iff.mp named)
      · rename_i other
        rw [Option.some.injEq] at found
        subst found
        exact .directly script first (baseName_eq_iff.mp rfl) other
  · intro asks
    cases asks with
    | @directly rest program behind script first named other =>
      refine ⟨rest, dropBeginning_eq_some_iff.mpr script, ?_⟩
      have own := baseName_eq_iff.mpr named
      rw [first.words_eq]
      dsimp only
      rw [if_neg, own]
      rw [own]
      exact other
    | @throughEnv rest program behind command script first through given named =>
      refine ⟨rest, dropBeginning_eq_some_iff.mpr script, ?_⟩
      have own : baseName program = "env".toList := baseName_eq_iff.mpr through
      rw [first.words_eq]
      dsimp only
      rw [if_pos own]
      exact Option.map_eq_some_iff.mpr
        ⟨command, firstCommand_iff.mp given, baseName_eq_iff.mpr named⟩

/-! ## Versions -/

/-- A character of a version: a digit or a dot. -/
def IsVersionChar (c : Char) : Prop :=
  c = '.' ∨ '0' ≤ c ∧ c ≤ '9'

/-- A name is a keyword with a version behind it, which may be empty. -/
def Versioned (keyword name : Text) : Prop :=
  ∃ version : Text, name = keyword ++ version ∧ ∀ c ∈ version, IsVersionChar c

theorem isVersionChar_iff (c : Char) : (c.isDigit || c == '.') = true ↔ IsVersionChar c := by
  simp [IsVersionChar, Char.isDigit, Char.le_def, or_comm]

theorem isVersionOf_iff {keyword name : Text} :
    isVersionOf keyword name = true ↔ Versioned keyword name := by
  rw [isVersionOf]
  constructor
  · intro versioned
    cases dropped : Text.dropBeginning? name keyword with
    | none =>
      rw [dropped] at versioned
      cases versioned
    | some version =>
      rw [dropped, List.all_eq_true] at versioned
      refine ⟨version, dropBeginning_eq_some_iff.mp dropped, ?_⟩
      intro c member
      exact (isVersionChar_iff c).mp (versioned c member)
  · rintro ⟨version, rfl, marks⟩
    rw [dropBeginning_append]
    simp only [List.all_eq_true, isVersionChar_iff]
    exact marks

/-- A keyword without digits and dots is what stands in front of the version. -/
theorem Versioned.unique {first second name : Text}
    (plain : ∀ c ∈ first, ¬ IsVersionChar c) (also : ∀ c ∈ second, ¬ IsVersionChar c)
    (one : Versioned first name) (other : Versioned second name) : first = second := by
  classical
  have front : ∀ {keyword : Text}, (∀ c ∈ keyword, ¬ IsVersionChar c) → Versioned keyword name →
      name.takeWhile (fun c => ¬ IsVersionChar c) = keyword := by
    rintro keyword solid ⟨version, rfl, marks⟩
    apply Text.takeWhile_append_eq_left
    · simpa using solid
    · intro c head
      simpa using marks c (List.mem_of_mem_head? head)
  rw [← front plain one, ← front also other]

/-- No keyword has a digit or a dot in it. -/
theorem keyword_plain {entry : Text × FileKind} (member : entry ∈ interpreters) :
    ∀ c ∈ entry.1, ¬ IsVersionChar c := by
  have all : interpreters.all (fun entry => entry.1.all fun c => !(c.isDigit || c == '.')) = true :=
    by decide
  simp only [List.all_eq_true] at all
  intro c inside
  rw [← isVersionChar_iff, Bool.not_eq_true, ← Bool.not_eq_true']
  exact all entry member c inside

/-- An entry is told by its keyword. -/
theorem entry_unique {first second : Text × FileKind} (one : first ∈ interpreters)
    (other : second ∈ interpreters) (same : first.1 = second.1) : first = second := by
  have distinct : (interpreters.map Prod.fst).Nodup := by decide
  exact List.inj_on_of_nodup_map distinct one other same

/-! ## The kind of a script -/

/-- The line asks for a version of the keyword of an entry. -/
def Qualifies (line : Text) (entry : Text × FileKind) : Prop :=
  ∃ name : Text, Asks line name ∧ Versioned entry.1 name

/-- The kind of the scripts that a line introduces, by another table of interpreters. -/
def kindIn? (table : List (Text × FileKind)) (line : Text) : Option FileKind :=
  (interpreter? line).bind fun name =>
    (table.find? fun entry => isVersionOf entry.1 name).map Prod.snd

theorem kind_eq_kindIn : kind? = kindIn? interpreters :=
  rfl

/-- A name is a version of at most one keyword. -/
theorem entry_of_versioned {name : Text} {first second : Text × FileKind}
    (one : first ∈ interpreters) (other : second ∈ interpreters) (versioned : Versioned first.1 name)
    (also : Versioned second.1 name) : first = second := by
  apply entry_unique one other
  exact Versioned.unique (keyword_plain one) (keyword_plain other) versioned also

/-- At most one entry qualifies. -/
theorem Qualifies.unique {line : Text} {first second : Text × FileKind}
    (one : first ∈ interpreters) (other : second ∈ interpreters) (qualified : Qualifies line first)
    (also : Qualifies line second) : first = second := by
  obtain ⟨name, asks, versioned⟩ := qualified
  obtain ⟨same, again, too⟩ := also
  rw [← interpreter_eq_some_iff] at asks again
  obtain rfl : name = same := Option.some.inj (asks.symm.trans again)
  exact entry_of_versioned one other versioned too

theorem versioned_of_find {table : List (Text × FileKind)} {name : Text} {entry : Text × FileKind}
    (found : (table.find? fun entry => isVersionOf entry.1 name) = some entry) :
    entry ∈ table ∧ Versioned entry.1 name := by
  have passes := List.find?_some found
  exact ⟨List.mem_of_find?_eq_some found, isVersionOf_iff.mp passes⟩

/-- What is found in a table is the kind of an entry that qualifies. -/
theorem exists_of_kindIn {table : List (Text × FileKind)} {line : Text} {kind : FileKind}
    (known : kindIn? table line = some kind) :
    ∃ entry ∈ table, Qualifies line entry ∧ entry.2 = kind := by
  obtain ⟨name, asks, found⟩ := Option.bind_eq_some_iff.mp known
  obtain ⟨entry, first, rfl⟩ := Option.map_eq_some_iff.mp found
  obtain ⟨member, versioned⟩ := versioned_of_find first
  exact ⟨entry, member, ⟨name, interpreter_eq_some_iff.mp asks, versioned⟩, rfl⟩

/-- An entry that qualifies is found in every table with the same entries. -/
theorem kindIn_of_qualifies {table : List (Text × FileKind)} (same : table.Perm interpreters)
    {line : Text} {entry : Text × FileKind} (member : entry ∈ interpreters)
    (qualifies : Qualifies line entry) : kindIn? table line = some entry.2 := by
  obtain ⟨name, asks, versioned⟩ := qualifies
  have known : interpreter? line = some name := interpreter_eq_some_iff.mpr asks
  have listed : (table.find? fun entry => isVersionOf entry.1 name).isSome := by
    rw [List.find?_isSome]
    exact ⟨entry, same.mem_iff.mpr member, isVersionOf_iff.mpr versioned⟩
  obtain ⟨found, first⟩ := Option.isSome_iff_exists.mp listed
  obtain ⟨within, also⟩ := versioned_of_find first
  have one : found = entry :=
    Qualifies.unique (same.mem_iff.mp within) member ⟨name, asks, also⟩ ⟨name, asks, versioned⟩
  rw [kindIn?, known, Option.bind_some, first, Option.map_some, one]

/-- **The kind of a script is told by its interpreter alone.** A line has a kind when it asks for a
version of a keyword of this kind. No name at all is a version of two keywords, so at most one entry
of the table qualifies, and the order of the table makes no difference. -/
theorem kind_byInterpreter (line : Text) :
    (∀ kind, kind? line = some kind ↔
        ∃ entry ∈ interpreters, Qualifies line entry ∧ entry.2 = kind) ∧
      (∀ name, ∀ first ∈ interpreters, ∀ second ∈ interpreters,
        Versioned first.1 name → Versioned second.1 name → first = second) ∧
      (∀ first ∈ interpreters, ∀ second ∈ interpreters,
        Qualifies line first → Qualifies line second → first = second) ∧
      ∀ table, List.Perm table interpreters → kindIn? table line = kind? line := by
  refine ⟨?_, ?_, ?_, ?_⟩
  · intro kind
    rw [kind_eq_kindIn]
    constructor
    · exact exists_of_kindIn
    · rintro ⟨entry, member, qualifies, rfl⟩
      exact kindIn_of_qualifies (List.Perm.refl _) member qualifies
  · intro name first one second other versioned also
    exact entry_of_versioned one other versioned also
  · intro first one second other qualified also
    exact qualified.unique one other also
  · intro table same
    rw [kind_eq_kindIn]
    cases known : kindIn? interpreters line with
    | some kind =>
      obtain ⟨entry, member, qualifies, rfl⟩ := exists_of_kindIn known
      exact kindIn_of_qualifies same member qualifies
    | none =>
      rw [Option.eq_none_iff_forall_ne_some]
      intro kind also
      obtain ⟨entry, member, qualifies, rfl⟩ := exists_of_kindIn also
      rw [kindIn_of_qualifies (List.Perm.refl _) (same.mem_iff.mp member) qualifies] at known
      cases known

/-- The last entry but one is found as well when the table is read from its end. -/
theorem kind_byInterpreter_reversed :
    interpreters.reverse.Perm interpreters ∧
      kindIn? interpreters.reverse "#!/usr/bin/env -S LC_ALL=C /opt/python3.11 -u".toList =
        some .python := by
  have reordered := List.reverse_perm interpreters
  refine ⟨reordered, ?_⟩
  rw [(kind_byInterpreter _).2.2.2 _ reordered]
  decide

end Hygiene.Shebang
