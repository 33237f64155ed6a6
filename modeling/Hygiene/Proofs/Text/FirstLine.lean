import Hygiene.Proofs.Header.Shebang
import Hygiene.Proofs.Text.Encoding

/-!
# The first line of bytes

The byte of the line feed is in the encoding of no other character
(`lineFeedByte_not_mem_utf8EncodeChar`), so the first line of bytes can be told before it is
known whether they are a text. When they are one, it is the first line of the text, and the
interpreter that the bytes ask for is the one that the text asks for (`kindOfBytes_encode`).
-/

set_option autoImplicit false

namespace Hygiene

namespace Text

/-- The byte of the line feed. -/
def lineFeedByte : UInt8 := 10

/-- The bytes in front of the first line feed. -/
def firstLine (bytes : ByteArray) : ByteArray :=
  (bytes.data.toList.takeWhile (· ≠ lineFeedByte)).toByteArray

theorem toByteArray_data (bytes : ByteArray) : bytes.data.toList.toByteArray = bytes := by
  ext1
  rw [List.data_toByteArray, Array.toArray_toList]

theorem data_encode (text : Text) :
    text.encode.data.toList = text.flatMap String.utf8EncodeChar := by
  rw [encode_eq_utf8Encode]
  exact List.toList_data_toByteArray

theorem lineFeedByte_ne {value : Nat} (differs : value % 256 ≠ 10) :
    lineFeedByte ≠ UInt8.ofNat value := by
  intro same
  have values := congrArg UInt8.toNat same
  rw [UInt8.toNat_ofNat'] at values
  exact differs values.symm

/-- The byte of the line feed is in the encoding of no other character. Longer encodings have
no bytes below 128. -/
theorem lineFeedByte_not_mem_utf8EncodeChar {c : Char} (other : c ≠ '\n') :
    lineFeedByte ∉ String.utf8EncodeChar c := by
  have number : c.val.toNat ≠ 10 := fun same => other (Char.ext (UInt32.toNat_inj.mp same))
  rw [String.utf8EncodeChar]
  split
  · simp only [List.mem_singleton]
    exact lineFeedByte_ne (by omega)
  · split
    · simp only [List.mem_cons, List.not_mem_nil, or_false, not_or]
      exact ⟨lineFeedByte_ne (by omega), lineFeedByte_ne (by omega)⟩
    · split
      · simp only [List.mem_cons, List.not_mem_nil, or_false, not_or]
        exact ⟨lineFeedByte_ne (by omega), lineFeedByte_ne (by omega),
          lineFeedByte_ne (by omega)⟩
      · simp only [List.mem_cons, List.not_mem_nil, or_false, not_or]
        exact ⟨lineFeedByte_ne (by omega), lineFeedByte_ne (by omega),
          lineFeedByte_ne (by omega), lineFeedByte_ne (by omega)⟩

theorem lineFeedByte_not_mem_encode {line : Text} (noFeed : '\n' ∉ line) :
    lineFeedByte ∉ line.encode.data.toList := by
  rw [data_encode, List.mem_flatMap]
  rintro ⟨c, member, byte⟩
  exact lineFeedByte_not_mem_utf8EncodeChar (fun same => noFeed (same ▸ member)) byte

/-- The first line of the encoding of a text is the encoding of its first line. -/
theorem firstLine_encode_append {line : Text} (rest : Text) (noFeed : '\n' ∉ line) :
    firstLine (Text.encode (line ++ '\n' :: rest)) = line.encode := by
  have before : ∀ byte ∈ line.encode.data.toList, byte ≠ lineFeedByte :=
    fun byte member same => lineFeedByte_not_mem_encode noFeed (same ▸ member)
  have feed : String.utf8EncodeChar '\n' = [lineFeedByte] := by decide
  have bytes : (Text.encode (line ++ '\n' :: rest)).data.toList =
      line.encode.data.toList ++ lineFeedByte :: rest.encode.data.toList := by
    simp only [data_encode, List.flatMap_append, List.flatMap_cons, feed, List.singleton_append]
  rw [firstLine, bytes, List.takeWhile_append_of_pos (by simpa using before),
    List.takeWhile_cons_of_neg (by simp), List.append_nil, toByteArray_data]

theorem firstLine_encode {line : Text} (noFeed : '\n' ∉ line) :
    firstLine line.encode = line.encode := by
  have before : ∀ byte ∈ line.encode.data.toList, byte ≠ lineFeedByte :=
    fun byte member same => lineFeedByte_not_mem_encode noFeed (same ▸ member)
  rw [firstLine, List.takeWhile_eq_self_iff.mpr (by simpa using before), toByteArray_data]

/-- A byte below 128 at the front of an encoding is all of it. -/
theorem utf8EncodeChar_of_head {c : Char} {byte : UInt8} (ascii : byte.toNat < 128)
    (head : (String.utf8EncodeChar c).head? = some byte) :
    c.val.toNat = byte.toNat ∧ String.utf8EncodeChar c = [byte] := by
  have value : ∀ number : Nat, UInt8.ofNat number = byte → number % 256 = byte.toNat := by
    intro number same
    rw [← same, UInt8.toNat_ofNat']
  rw [String.utf8EncodeChar] at head ⊢
  split at head
  · rename_i small
    rw [List.head?_cons, Option.some.injEq] at head
    have same := value _ head
    rw [if_pos small, head]
    exact ⟨by omega, rfl⟩
  · split at head
    · rw [List.head?_cons, Option.some.injEq] at head
      have same := value _ head
      omega
    · split at head
      · rw [List.head?_cons, Option.some.injEq] at head
        have same := value _ head
        omega
      · rw [List.head?_cons, Option.some.injEq] at head
        have same := value _ head
        omega

theorem head_of_encode {text : Text} {c : Char} {later : List UInt8} (ascii : c.toNat < 128)
    (bytes : text.encode.data.toList = UInt8.ofNat c.toNat :: later) :
    ∃ rest : Text, text = c :: rest ∧ rest.encode.data.toList = later := by
  have byte : (UInt8.ofNat c.toNat).toNat = c.toNat := by
    rw [UInt8.toNat_ofNat']
    omega
  cases text with
  | nil =>
    rw [data_encode] at bytes
    cases bytes
  | cons first rest =>
    rw [data_encode, List.flatMap_cons] at bytes
    have head : (String.utf8EncodeChar first).head? = some (UInt8.ofNat c.toNat) := by
      cases encoded : String.utf8EncodeChar first with
      | nil => exact absurd encoded String.utf8EncodeChar_ne_nil
      | cons front others =>
        rw [encoded, List.cons_append, List.cons.injEq] at bytes
        rw [bytes.1, List.head?_cons]
    obtain ⟨number, whole⟩ := utf8EncodeChar_of_head (by rw [byte]; exact ascii) head
    rw [whole, List.singleton_append, List.cons.injEq] at bytes
    have same : first = c := Char.ext (UInt32.toNat_inj.mp (number.trans byte))
    exact ⟨rest, by rw [same], (data_encode rest).trans bytes.2⟩

end Text

theorem Content.data_of_getElem? {bytes : ByteArray} {index : Nat} {byte : UInt8}
    (found : bytes[index]? = some byte) : bytes.data.toList[index]? = some byte := by
  obtain ⟨inside, same⟩ := getElem?_eq_some_iff.mp found
  have bounded : index < bytes.data.toList.length := by simpa using inside
  rw [List.getElem?_eq_getElem bounded, ← same]
  rfl

/-- Only a text that begins like a script is stored with the mark of a script. -/
theorem Content.exists_of_beginsScript_encode {text : Text}
    (script : beginsScript text.encode = true) : ∃ rest : Text, text = '#' :: '!' :: rest := by
  rw [beginsScript, Bool.and_eq_true, beq_iff_eq, beq_iff_eq] at script
  have first := data_of_getElem? script.1
  have second := data_of_getElem? script.2
  rw [← List.head?_eq_getElem?, List.head?_eq_some_iff] at first
  obtain ⟨bytes, front⟩ := first
  rw [front, List.getElem?_cons_succ, ← List.head?_eq_getElem?, List.head?_eq_some_iff] at second
  obtain ⟨later, rfl⟩ := second
  obtain ⟨below, rfl, behind⟩ := Text.head_of_encode (c := '#') (by decide) front
  obtain ⟨rest, rfl, -⟩ := Text.head_of_encode (c := '!') (by decide) behind
  exact ⟨rest, rfl⟩

namespace Shebang

/-- The kind of the scripts that bytes introduce with their first line. What follows that line
need not be a text. -/
def kindOfBytes? (bytes : ByteArray) : Option FileKind :=
  (Text.decode? (Text.firstLine bytes)).bind fun line => (split line).1.bind kind?

/-- **The interpreter that a text asks for is seen on its first line of bytes.** -/
theorem kindOfBytes_encode (content : Text) :
    kindOfBytes? content.encode = (split content).1.bind kind? := by
  by_cases found : '\n' ∈ content
  · obtain ⟨line, rest, rfl, noFeed⟩ := List.eq_append_cons_of_mem found
    rw [kindOfBytes?, Text.firstLine_encode_append rest noFeed,
      (Text.decode_eq_some_iff _ line).mpr rfl, Option.bind_some]
    cases script : opens line with
    | false =>
      rw [split_of_not_opens script, split_of_not_opens]
      rw [opens_append_lineFeed, script]
    | true =>
      rw [split_lastLine noFeed script, split_line_append rest noFeed script]
      exact (kind_append_lineFeed script).symm
  · rw [kindOfBytes?, Text.firstLine_encode found, (Text.decode_eq_some_iff _ content).mpr rfl,
      Option.bind_some]

end Shebang

end Hygiene
