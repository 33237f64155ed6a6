import Mathlib.Data.List.DropRight
import Mathlib.Data.List.Forall2
import Hygiene.Proofs.Text.Lines
import Hygiene.Report.Json

/-!
# Reading JSON

A JSON text is read back as a value. The reader skips blank characters between the parts of a
text, whatever the indentation, and reads strings with their escapes, natural numbers, truth
values, lists and objects. What is written for a value is read as this value (`read_write`), so a
reader of the written report finds in it what was meant.

Each part is read wherever it stands, as long as what follows does not begin with a digit, with
which a number would go on (`Reads`). The reader calls itself with a budget that it cannot use up,
because every part takes up a character at least (`length_lt_enclosed`).
-/

set_option autoImplicit false

namespace Hygiene.Json

/-! ## The reader -/

/-- Whether a character can stand between the parts of a text. -/
def isSpace (c : Char) : Bool :=
  c = ' ' || c = '\n' || c = '\t' || c = '\r'

/-- The text from its next part on. -/
def skip (text : Text) : Text :=
  text.dropWhile isSpace

/-- The character that a character behind a backslash stands for. -/
def unescape? (c : Char) : Option Char :=
  match c with
  | '\x22' | '\\' | '/' => some c
  | 'n' => some '\n'
  | 't' => some '\t'
  | 'r' => some '\r'
  | 'b' => some '\x08'
  | 'f' => some '\x0c'
  | _ => none

/-- The value of a digit in base sixteen. -/
def hexDigit? (c : Char) : Option Nat :=
  "0123456789abcdef".toList.findIdx? (· = c.toLower)

/-- The character with a number in base sixteen. Numbers of halves of characters have none. -/
def ofHex? (digits : Text) : Option Char :=
  (digits.mapM hexDigit?).bind fun values =>
    let number := values.foldl (fun number value => 16 * number + value) 0
    if number.isValidChar then some (Char.ofNat number) else none

/-- The string behind an opening quotation mark, and the text behind its closing one. -/
def readString : Text → Option (Text × Text)
  | [] => none
  | '\x22' :: rest => some ([], rest)
  | '\\' :: 'u' :: a :: b :: c :: d :: rest =>
    (ofHex? [a, b, c, d]).bind fun meant =>
      (readString rest).map fun (read, rest) => (meant :: read, rest)
  | '\\' :: c :: rest =>
    (unescape? c).bind fun meant =>
      (readString rest).map fun (read, rest) => (meant :: read, rest)
  | c :: rest =>
    if c.toNat < 32 then none
    else (readString rest).map fun (read, rest) => (c :: read, rest)

/-- The number at the front of a text. -/
def readNumber (text : Text) : Option (Nat × Text) :=
  let digits := text.takeWhile Char.isDigit
  if digits.isEmpty then none else some (Nat.ofDigitChars 10 digits 0, text.drop digits.length)

section Series

variable {α : Type} (readItem : Text → Option (α × Text)) (closer : Char)

/-- At most so many items, with commas between them, through the closer behind the last one. -/
def readSeries : Nat → Text → Option (List α × Text)
  | 0, _ => none
  | budget + 1, text =>
    (readItem (skip text)).bind fun (item, rest) =>
      match skip rest with
      | ',' :: rest =>
        (readSeries budget rest).map fun (others, rest) => (item :: others, rest)
      | c :: rest => if c = closer then some ([item], rest) else none
      | [] => none

/-- At most so many items behind an opener, or none, through the closer. -/
def readEnclosed (budget : Nat) (text : Text) : Option (List α × Text) :=
  match skip text with
  | c :: rest =>
    if c = closer then some ([], rest) else readSeries readItem closer budget (c :: rest)
  | [] => none

end Series

/-- A member of an object: its name, a colon and its value. -/
def readMember (readValue : Text → Option (Value × Text)) (text : Text) :
    Option ((String × Value) × Text) :=
  match text with
  | '\x22' :: rest =>
    (readString rest).bind fun (name, rest) =>
      match skip rest with
      | ':' :: rest =>
        (readValue (skip rest)).map fun (value, rest) => ((String.ofList name, value), rest)
      | _ => none
  | _ => none

/-- The value at the front of a text, with at most so many parts one in the other or beside each
other. -/
def readValue : Nat → Text → Option (Value × Text)
  | 0, _ => none
  | budget + 1, text =>
    match text with
    | '\x22' :: rest =>
      (readString rest).map fun (read, rest) => (.string (String.ofList read), rest)
    | '[' :: rest =>
      (readEnclosed (readValue budget) ']' budget rest).map fun (items, rest) =>
        (.list items, rest)
    | '\x7b' :: rest =>
      (readEnclosed (readMember (readValue budget)) '\x7d' budget rest).map fun (members, rest) =>
        (.object members, rest)
    | 't' :: 'r' :: 'u' :: 'e' :: rest => some (.bool true, rest)
    | 'f' :: 'a' :: 'l' :: 's' :: 'e' :: rest => some (.bool false, rest)
    | _ => (readNumber text).map fun (number, rest) => (.number number, rest)

/-- The value that a text is, if it is one and nothing else. The length of the text is budget
enough, since every part takes up a character. -/
def read? (text : Text) : Option Value :=
  (readValue (text.length + 1) (skip text)).bind fun (value, rest) =>
    if (skip rest).isEmpty then some value else none

/-- The value of the first member of an object with a given name. -/
def Value.member? (value : Value) (name : String) : Option Value :=
  match value with
  | .object members => members.lookup name
  | _ => none

/-! ## Strings and numbers -/

theorem hexDigit_digitChar : ∀ digit < 16, hexDigit? (Nat.digitChar digit) = some digit := by
  decide

theorem ofHex_hexByte {c : Char} (control : c.toNat < 32) :
    ofHex? ('0' :: '0' :: hexByte c.toNat) = some c := by
  have zero : hexDigit? '0' = some 0 := by decide
  have high := hexDigit_digitChar (c.toNat / 16) (by omega)
  have low := hexDigit_digitChar (c.toNat % 16) (by omega)
  have values : ('0' :: '0' :: hexByte c.toNat).mapM hexDigit? =
      some [0, 0, c.toNat / 16, c.toNat % 16] := by
    simp [hexByte, zero, high, low]
  have number : [0, 0, c.toNat / 16, c.toNat % 16].foldl
      (fun number value => 16 * number + value) 0 = c.toNat := by
    simp only [List.foldl_cons, List.foldl_nil]
    omega
  rw [ofHex?, values, Option.bind_some, number]
  exact (if_pos c.valid).trans (congrArg some (Char.ofNat_toNat c))

/-- An escaped character is read as itself. -/
theorem readString_escape (c : Char) (rest : Text) :
    readString (escape c ++ rest) =
      (readString rest).map fun (read, rest) => (c :: read, rest) := by
  rw [escape]
  iterate 7
    split
    · subst_vars
      rfl
  split
  · rename_i control
    have hex := ofHex_hexByte control
    rw [hexByte] at hex ⊢
    simp only [List.cons_append, List.nil_append, readString, hex, Option.bind_some]
  · rename_i _ slash _ _ _ _ _ filled
    simp [readString, slash, filled]

/-- A string that is written is read up to its closing quotation mark. -/
theorem readString_flatMap (text rest : Text) :
    readString (text.flatMap escape ++ '\x22' :: rest) = some (text, rest) := by
  induction text with
  | nil => rfl
  | cons c text ih =>
    rw [List.flatMap_cons, List.append_assoc, readString_escape, ih, Option.map_some]

/-- A text does not begin with a digit. -/
def Stops (text : Text) : Prop :=
  ∀ c ∈ text.head?, c.isDigit = false

theorem Stops.cons {c : Char} (solid : c.isDigit = false) (text : Text) : Stops (c :: text) :=
  fun other first => by
    cases first
    exact solid

/-- A number is read up to the first character that is no digit. -/
theorem readNumber_toDigits (number : Nat) {rest : Text} (stops : Stops rest) :
    readNumber (Nat.toDigits 10 number ++ rest) = some (number, rest) := by
  have digits : (Nat.toDigits 10 number ++ rest).takeWhile Char.isDigit =
      Nat.toDigits 10 number :=
    Text.takeWhile_append_eq_left
      (fun c member => Nat.isDigit_of_mem_toDigits (by decide) (by decide) member) stops
  rw [readNumber, digits, if_neg, Nat.ofDigitChars_toDigits (by decide) (by decide),
    List.drop_left]
  rw [List.isEmpty_iff]
  exact Nat.toDigits_ne_nil

/-! ## Series -/

/-- Characters that can only stand between the parts of a text. -/
def Blank (text : Text) : Prop :=
  ∀ c ∈ text, isSpace c = true

instance (text : Text) : Decidable (Blank text) :=
  decidable_of_iff (text.all isSpace = true) List.all_eq_true

theorem skip_append {blank : Text} (spaces : Blank blank) (text : Text) :
    skip (blank ++ text) = skip text :=
  List.dropWhile_append_of_pos spaces

theorem skip_cons {c : Char} (solid : isSpace c = false) (text : Text) :
    skip (c :: text) = c :: text :=
  List.dropWhile_cons_of_neg (by simp [solid])

theorem isSpace_of_isDigit {c : Char} (digit : c.isDigit = true) : isSpace c = false := by
  by_contra space
  rw [Bool.not_eq_false, isSpace] at space
  simp only [Bool.or_eq_true, decide_eq_true_eq] at space
  rcases space with ((rfl | rfl) | rfl) | rfl <;> cases digit

theorem stops_of_blank {blank : Text} (spaces : Blank blank) {text : Text} (stops : Stops text) :
    Stops (blank ++ text) := by
  cases blank with
  | nil => exact stops
  | cons c blank =>
    have space := spaces c List.mem_cons_self
    refine Stops.cons ?_ _
    by_contra digit
    rw [isSpace_of_isDigit (Bool.not_eq_false _ ▸ digit)] at space
    cases space

theorem blank_newline (level : Nat) : Blank (newline level).toList := by
  intro c member
  rw [newline, String.toList_ofList] at member
  rcases List.mem_cons.mp member with rfl | space
  · rfl
  · rw [List.eq_of_mem_replicate space]
    rfl

/-- A text is one item for a reader, wherever it stands. -/
structure Reads {α : Type} (readItem : Text → Option (α × Text)) (item : α) (text : Text) :
    Prop where
  begins : ∃ c rest, text = c :: rest ∧ isSpace c = false ∧ c ≠ ']' ∧ c ≠ '\x7d'
  reads : ∀ rest, Stops rest → readItem (text ++ rest) = some (item, rest)

theorem Reads.skip_eq {α : Type} {readItem : Text → Option (α × Text)} {item : α} {text : Text}
    (reads : Reads readItem item text) {blank : Text} (spaces : Blank blank) (rest : Text) :
    skip (blank ++ (text ++ rest)) = text ++ rest := by
  obtain ⟨c, later, rfl, solid, -⟩ := reads.begins
  rw [skip_append spaces, List.cons_append, skip_cons solid]

/-- A bracket that closes a series. -/
def Closes (closer : Char) : Prop :=
  closer = ']' ∨ closer = '\x7d'

theorem Closes.solid {closer : Char} (closes : Closes closer) :
    isSpace closer = false ∧ closer.isDigit = false ∧ closer ≠ ',' := by
  rcases closes with rfl | rfl <;> decide

section Series

variable {α : Type} {readItem : Text → Option (α × Text)} {closer : Char} {blank last : Text}

/-- Written items are read as a series, through the closer. -/
theorem readSeries_intercalate (closes : Closes closer) (spaces : Blank blank)
    (ends : Blank last) {items : List α} {texts : List Text}
    (reads : List.Forall₂ (Reads readItem) items texts) (some : items ≠ []) {budget : Nat}
    (enough : items.length ≤ budget) (rest : Text) :
    readSeries readItem closer budget
        (blank ++ ((',' :: blank).intercalate texts ++ (last ++ closer :: rest))) =
      .some (items, rest) := by
  obtain ⟨solid, noDigit, noComma⟩ := closes.solid
  induction reads generalizing budget with
  | nil => exact absurd rfl some
  | @cons item text items texts first others ih =>
    cases budget with
    | zero => exact absurd enough (Nat.not_succ_le_zero _)
    | succ budget =>
      rw [readSeries]
      cases others with
      | nil =>
        have stops : Stops (last ++ closer :: rest) := stops_of_blank ends (.cons noDigit rest)
        rw [List.intercalate_singleton, first.skip_eq spaces, first.reads _ stops,
          Option.bind_some]
        dsimp only
        rw [skip_append ends, skip_cons solid]
        split
        · rename_i same
          exact absurd (List.cons.inj same).1 noComma
        · rename_i same
          cases same
          exact if_pos rfl
        · rename_i same
          cases same
      | @cons next nextText items texts second others =>
        have later := ih (List.cons_ne_nil _ _) (Nat.le_of_succ_le_succ enough)
        have stops (more : Text) : Stops (',' :: more) := .cons rfl more
        rw [List.intercalate_cons_cons, List.append_assoc, List.append_assoc,
          first.skip_eq spaces, List.cons_append, first.reads _ (stops _), Option.bind_some]
        dsimp only
        rw [skip_cons rfl]
        exact congrArg (Option.map fun (others, rest) => (item :: others, rest)) later

theorem readSeries_skip (budget : Nat) (text : Text) :
    readSeries readItem closer budget (skip text) = readSeries readItem closer budget text := by
  have again : skip (skip text) = skip text := List.dropWhile_idempotent _ _
  cases budget with
  | zero => rfl
  | succ budget => rw [readSeries, readSeries, again]

/-- Written items between brackets are read as these items. -/
theorem readEnclosed_intercalate (closes : Closes closer) (spaces : Blank blank)
    (ends : Blank last) {items : List α} {texts : List Text}
    (reads : List.Forall₂ (Reads readItem) items texts) (some : items ≠ []) {budget : Nat}
    (enough : items.length ≤ budget) (rest : Text) :
    readEnclosed readItem closer budget
        (blank ++ ((',' :: blank).intercalate texts ++ (last ++ closer :: rest))) =
      .some (items, rest) := by
  have series := readSeries_intercalate closes spaces ends reads some enough rest
  cases reads with
  | nil => exact absurd rfl some
  | @cons item text items texts first others =>
    obtain ⟨c, later, rfl, solid, list, object⟩ := first.begins
    have opens : ∃ more, (',' :: blank).intercalate ((c :: later) :: texts) = c :: more := by
      cases texts with
      | nil => exact ⟨later, List.intercalate_singleton⟩
      | cons next texts => exact ⟨_, List.intercalate_cons_cons⟩
    obtain ⟨more, same⟩ := opens
    rw [same, List.cons_append] at series ⊢
    rw [← readSeries_skip, skip_append spaces, skip_cons solid] at series
    rw [readEnclosed, skip_append spaces, skip_cons solid]
    refine (if_neg ?_).trans series
    rcases closes with rfl | rfl
    · exact list
    · exact object

/-- What stands behind the opener of a series, through its closer. -/
def inside (level : Nat) (closer : Char) (texts : List String) : Text :=
  if texts = [] then [closer]
  else (newline (level + 1)).toList ++
    ((',' :: (newline (level + 1)).toList).intercalate (texts.map String.toList) ++
      ((newline level).toList ++ [closer]))

theorem toList_enclosed (level : Nat) (opener : String) {ending : String}
    (ends : ending.toList = [closer]) (texts : List String) :
    (enclosed level opener ending texts).toList = opener.toList ++ inside level closer texts := by
  cases texts with
  | nil => simp [enclosed, inside, ends]
  | cons text texts => simp [enclosed, inside, ends, String.toList_intercalate]

theorem readEnclosed_inside (closes : Closes closer) {items : List α} {texts : List String}
    (reads : List.Forall₂ (Reads readItem) items (texts.map String.toList)) {budget : Nat}
    (enough : items.length ≤ budget) (level : Nat) (rest : Text) :
    readEnclosed readItem closer budget (inside level closer texts ++ rest) =
      some (items, rest) := by
  obtain ⟨solid, -⟩ := closes.solid
  cases items with
  | nil =>
    have none : texts = [] := by simpa using reads
    rw [inside, if_pos none, List.singleton_append, readEnclosed, skip_cons solid]
    exact if_pos rfl
  | cons item items =>
    have some : texts ≠ [] := by
      rintro rfl
      cases reads
    rw [inside, if_neg some, List.append_assoc, List.append_assoc, List.append_assoc,
      List.singleton_append]
    exact readEnclosed_intercalate closes (blank_newline _) (blank_newline _) reads
      (List.cons_ne_nil _ _) enough rest

/-- Texts with something between them take as many characters at least as each of them, and as
there are places between them. -/
theorem le_length_intercalate {separator : Text} (some : separator ≠ []) (texts : List Text) :
    texts.length ≤ (separator.intercalate texts).length + 1 ∧
      ∀ text ∈ texts, text.length ≤ (separator.intercalate texts).length := by
  have filled := List.length_pos_iff.mpr some
  induction texts with
  | nil => exact ⟨Nat.zero_le _, nofun⟩
  | cons text texts ih =>
    cases texts with
    | nil => simp
    | cons next texts =>
      obtain ⟨count, each⟩ := ih
      rw [List.intercalate_cons_cons, List.length_append, List.length_append]
      refine ⟨?_, List.forall_mem_cons.mpr ⟨by omega, fun other member => ?_⟩⟩
      · rw [List.length_cons]
        omega
      · exact (each other member).trans (Nat.le_add_left _ _)

/-- A series takes more characters than each of its items, and more than it has items. -/
theorem length_lt_enclosed {level budget : Nat} {opener ending : String} {c : Char}
    (opens : opener.toList = [c]) (ends : ending.toList = [closer]) {texts : List String}
    (enough : (enclosed level opener ending texts).toList.length < budget + 1) :
    texts.length ≤ budget ∧ ∀ text ∈ texts, text.toList.length < budget := by
  rw [toList_enclosed level opener ends, opens, List.singleton_append, List.length_cons] at enough
  by_cases none : texts = []
  · subst none
    exact ⟨Nat.zero_le _, nofun⟩
  · obtain ⟨count, each⟩ := le_length_intercalate
      (List.cons_ne_nil ',' (newline (level + 1)).toList) (texts.map String.toList)
    rw [inside, if_neg none, List.length_append, List.length_append, List.length_append,
      List.length_singleton] at enough
    rw [List.length_map] at count
    refine ⟨by omega, fun text member => ?_⟩
    have one := each _ (List.mem_map_of_mem member)
    omega

end Series

/-! ## Values -/

theorem readValue_of_digit {c : Char} (digit : c.isDigit = true) (budget : Nat) (rest : Text) :
    readValue (budget + 1) (c :: rest) =
      (readNumber (c :: rest)).map fun (number, rest) => (.number number, rest) := by
  rw [readValue.eq_def]
  dsimp only
  split
  case h_6 => rfl
  all_goals
    rename_i same
    rw [(List.cons.inj same).1] at digit
    exact absurd digit (by decide)

theorem toList_quoted (text : String) :
    (quoted text).toList = '\x22' :: (text.toList.flatMap escape ++ ['\x22']) := by
  simp [quoted]

variable {budget : Nat}

theorem reads_string (text : String) :
    Reads (readValue (budget + 1)) (.string text) (quoted text).toList where
  begins := ⟨_, _, toList_quoted text, by decide⟩
  reads rest _ := by
    rw [toList_quoted, List.cons_append, List.append_assoc, List.singleton_append, readValue,
      readString_flatMap, Option.map_some]
    dsimp only
    rw [String.ofList_toList]

theorem reads_number (number : Nat) :
    Reads (readValue (budget + 1)) (.number number) (toString number).toList := by
  have written : (toString number).toList = Nat.toDigits 10 number := Nat.toList_repr
  obtain ⟨c, others, digits⟩ :=
    List.exists_cons_of_ne_nil (Nat.toDigits_ne_nil (n := number) (b := 10))
  have digit : c.isDigit = true :=
    Nat.isDigit_of_mem_toDigits (by decide) (by decide) (digits ▸ List.mem_cons_self)
  rw [written]
  refine ⟨⟨c, others, digits, isSpace_of_isDigit digit, ?_, ?_⟩, fun rest stops => ?_⟩
  · rintro rfl
    cases digit
  · rintro rfl
    cases digit
  · have read := readNumber_toDigits number stops
    rw [digits, List.cons_append] at read ⊢
    rw [readValue_of_digit digit, read, Option.map_some]

theorem reads_bool (value : Bool) :
    Reads (readValue (budget + 1)) (.bool value) (if value then "true" else "false").toList := by
  cases value with
  | false => exact ⟨⟨'f', _, rfl, by decide⟩, fun rest _ => rfl⟩
  | true => exact ⟨⟨'t', _, rfl, by decide⟩, fun rest _ => rfl⟩

theorem reads_list {items : List Value} {texts : List String}
    (reads : List.Forall₂ (Reads (readValue budget)) items (texts.map String.toList))
    (enough : items.length ≤ budget) (level : Nat) :
    Reads (readValue (budget + 1)) (.list items) (enclosed level "[" "]" texts).toList := by
  have written : (enclosed level "[" "]" texts).toList = '[' :: inside level ']' texts :=
    toList_enclosed level "[" rfl texts
  rw [written]
  refine ⟨⟨_, _, rfl, by decide⟩, fun rest _ => ?_⟩
  rw [List.cons_append, readValue, readEnclosed_inside (.inl rfl) reads enough, Option.map_some]

theorem reads_object {members : List (String × Value)} {texts : List String}
    (reads : List.Forall₂ (Reads (readMember (readValue budget))) members
      (texts.map String.toList))
    (enough : members.length ≤ budget) (level : Nat) :
    Reads (readValue (budget + 1)) (.object members)
      (enclosed level "\x7b" "\x7d" texts).toList := by
  have written : (enclosed level "\x7b" "\x7d" texts).toList =
      '\x7b' :: inside level '\x7d' texts :=
    toList_enclosed level "\x7b" rfl texts
  rw [written]
  refine ⟨⟨_, _, rfl, by decide⟩, fun rest _ => ?_⟩
  rw [List.cons_append, readValue, readEnclosed_inside (.inr rfl) reads enough, Option.map_some]

theorem reads_member {value : Value} {text : String}
    (reads : Reads (readValue budget) value text.toList) (name : String) :
    Reads (readMember (readValue budget)) (name, value) (quoted name ++ ": " ++ text).toList := by
  have written : (quoted name ++ ": " ++ text).toList =
      '\x22' :: (name.toList.flatMap escape ++ '\x22' :: ':' :: ([' '] ++ text.toList)) := by
    simp [toList_quoted]
  have space : Blank [' '] := by
    intro c member
    rw [List.mem_singleton.mp member]
    rfl
  rw [written]
  refine ⟨⟨_, _, rfl, by decide⟩, fun rest stops => ?_⟩
  have named : (readValue budget (skip ([' '] ++ (text.toList ++ rest)))).map
      (fun (value, rest) => ((String.ofList name.toList, value), rest)) =
        some ((name, value), rest) := by
    rw [reads.skip_eq space, reads.reads rest stops, Option.map_some, String.ofList_toList]
  rw [List.cons_append, List.append_assoc, List.cons_append, List.cons_append, List.append_assoc,
    readMember, readString_flatMap, Option.bind_some]
  dsimp only
  rw [skip_cons rfl]
  exact named

/-- An induction over values goes through the items of lists and the values of members. -/
theorem Value.induct {P : Value → Prop} (bool : ∀ value, P (.bool value))
    (number : ∀ value, P (.number value)) (string : ∀ text, P (.string text))
    (list : ∀ items, (∀ item ∈ items, P item) → P (.list items))
    (object : ∀ members, (∀ member ∈ members, P member.2) → P (.object members))
    (value : Value) : P value :=
  @Value.rec P (fun items => ∀ item ∈ items, P item) (fun members => ∀ member ∈ members, P member.2)
    (fun member => P member.2) bool number string list object nofun
    (fun _ _ first others => List.forall_mem_cons.mpr ⟨first, others⟩) nofun
    (fun _ _ first others => List.forall_mem_cons.mpr ⟨first, others⟩) (fun _ _ value => value)
    value

/-- A value is written, at every level, as what a reader with enough budget reads as this
value. -/
def Legible (value : Value) : Prop :=
  ∀ level budget, (value.write level).toList.length < budget →
    Reads (readValue budget) value (value.write level).toList

theorem reads_writeItems {items : List Value} (legible : ∀ item ∈ items, Legible item)
    (level : Nat) (enough : ∀ text ∈ writeItems level items, text.toList.length < budget) :
    List.Forall₂ (Reads (readValue budget)) items ((writeItems level items).map String.toList) := by
  induction items with
  | nil => exact .nil
  | cons item others ih =>
    rw [writeItems, List.map_cons]
    rw [writeItems, List.forall_mem_cons] at enough
    rw [List.forall_mem_cons] at legible
    exact .cons (legible.1 level budget enough.1) (ih legible.2 enough.2)

theorem reads_writeMembers {members : List (String × Value)}
    (legible : ∀ member ∈ members, Legible member.2) (level : Nat)
    (enough : ∀ text ∈ writeMembers level members, text.toList.length < budget) :
    List.Forall₂ (Reads (readMember (readValue budget))) members
      ((writeMembers level members).map String.toList) := by
  induction members with
  | nil => exact .nil
  | cons member others ih =>
    obtain ⟨name, value⟩ := member
    rw [writeMembers, List.map_cons]
    rw [writeMembers, List.forall_mem_cons] at enough
    rw [List.forall_mem_cons] at legible
    refine .cons (reads_member (legible.1 level budget ?_) name) (ih legible.2 enough.2)
    have short := enough.1
    rw [String.toList_append, List.length_append] at short
    exact Nat.lt_of_le_of_lt (Nat.le_add_left _ _) short

/-- What is written for a value is read as this value. -/
theorem legible (value : Value) : Legible value := by
  have budgeted {length budget : Nat} (enough : length < budget) : ∃ less, budget = less + 1 :=
    Nat.exists_eq_add_one.mpr (Nat.zero_lt_of_lt enough)
  induction value using Value.induct with
  | bool value =>
    intro level budget enough
    obtain ⟨budget, rfl⟩ := budgeted enough
    rw [Value.write]
    exact reads_bool value
  | number number =>
    intro level budget enough
    obtain ⟨budget, rfl⟩ := budgeted enough
    rw [Value.write]
    exact reads_number number
  | string text =>
    intro level budget enough
    obtain ⟨budget, rfl⟩ := budgeted enough
    rw [Value.write]
    exact reads_string text
  | list items ih =>
    intro level budget enough
    obtain ⟨budget, rfl⟩ := budgeted enough
    rw [Value.write] at enough ⊢
    have opens : "[".toList = ['['] := rfl
    have ends : "]".toList = [']'] := rfl
    obtain ⟨count, each⟩ := length_lt_enclosed opens ends enough
    have reads := reads_writeItems ih (level + 1) each
    refine reads_list reads ?_ level
    rw [reads.length_eq, List.length_map]
    exact count
  | object members ih =>
    intro level budget enough
    obtain ⟨budget, rfl⟩ := budgeted enough
    rw [Value.write] at enough ⊢
    have opens : "\x7b".toList = ['\x7b'] := rfl
    have ends : "\x7d".toList = ['\x7d'] := rfl
    obtain ⟨count, each⟩ := length_lt_enclosed opens ends enough
    have reads := reads_writeMembers ih (level + 1) each
    refine reads_object reads ?_ level
    rw [reads.length_eq, List.length_map]
    exact count

/-- A document that is written is read as its value, also with blank characters behind it. -/
theorem read_write (value : Value) {blank : Text} (spaces : Blank blank) :
    read? ((value.write 0).toList ++ blank) = some value := by
  have reads := legible value 0 (((value.write 0).toList ++ blank).length + 1) (by
    rw [List.length_append]
    omega)
  have stops : Stops (blank ++ []) := stops_of_blank spaces nofun
  rw [List.append_nil] at stops
  have empty : Blank [] := nofun
  have first := reads.skip_eq empty blank
  rw [List.nil_append] at first
  have none := skip_append spaces []
  rw [List.append_nil] at none
  rw [read?, first, reads.reads blank stops, Option.bind_some]
  dsimp only
  rw [none]
  rfl

end Hygiene.Json
