import Hygiene.Content

/-!
# Texts as bytes

A text is stored as the bytes of its encoding. Bytes are read as a text exactly when they are
the encoding of it (`decode_eq_some_iff`), so what was stored is what is read.
-/

set_option autoImplicit false

namespace Hygiene

namespace Text

/-- The bytes under which a text is stored. -/
def encode (text : Text) : ByteArray :=
  (String.ofList text).toUTF8

/-- The text that bytes are read as. -/
def decode? (bytes : ByteArray) : Option Text :=
  (String.fromUTF8? bytes).map String.toList

theorem encode_eq_utf8Encode (text : Text) : text.encode = text.utf8Encode :=
  String.toByteArray_ofList

/-- Bytes are read as a text when they are its encoding, and only then. -/
theorem decode_eq_some_iff (bytes : ByteArray) (text : Text) :
    decode? bytes = some text ↔ bytes = text.encode := by
  rw [decode?, String.fromUTF8?, encode_eq_utf8Encode]
  split
  · rename_i valid
    rw [Option.map_some, Option.some.injEq]
    constructor
    · intro same
      rw [← same, String.utf8Encode_toList]
      rfl
    · intro same
      have string : String.fromUTF8 bytes valid = String.ofList text := by
        rw [← String.toByteArray_inj, String.toByteArray_ofList, ← same]
        rfl
      rw [string, String.toList_ofList]
  · rename_i broken
    refine ⟨fun none => (nomatch none), fun same => absurd ?_ broken⟩
    rw [same]
    exact ByteArray.isValidUTF8_utf8Encode

theorem encode_injective {left right : Text} (same : left.encode = right.encode) :
    left = right := by
  have read := (decode_eq_some_iff left.encode left).mpr rfl
  rw [(decode_eq_some_iff left.encode right).mpr same, Option.some.injEq] at read
  exact read.symm

end Text

/-- A text that begins like a script is stored with the mark of a script. -/
theorem Content.beginsScript_encode (rest : Text) :
    beginsScript (Text.encode ('#' :: '!' :: rest)) = true := by
  obtain ⟨later, bytes⟩ : ∃ later : List UInt8,
      Text.encode ('#' :: '!' :: rest) = (35 :: 33 :: later).toByteArray :=
    ⟨rest.flatMap String.utf8EncodeChar, Text.encode_eq_utf8Encode _⟩
  have second : 1 < (35 :: 33 :: later).toByteArray.size := by simp
  have first := Nat.lt_of_succ_lt second
  rw [bytes, beginsScript, getElem?_pos (35 :: 33 :: later).toByteArray 0 first,
    getElem?_pos (35 :: 33 :: later).toByteArray 1 second]
  simp only [List.getElem_toByteArray]
  rfl

end Hygiene
