import Hygiene.Glob.Pattern

/-!
# Matching

A pattern is matched against the bytes of a path, so `?` and a class stand for one
byte. The pieces are tried one after the other: each piece takes something off the
front, and since there may be several ways to do so, what is known after some pieces is
a list of the rests that can be left. The path matches when nothing can be left at the
end.
-/

set_option autoImplicit false

namespace Hygiene.Glob

/-- The bytes of a path. -/
abbrev Bytes := List UInt8

/-- The bytes of a text. -/
def encode (text : Text) : Bytes :=
  text.flatMap String.utf8EncodeChar

/-- The byte of a slash. -/
def slash : UInt8 := 47

/-- The ends of a list of bytes, from the whole list to nothing. -/
def suffixes : Bytes → List Bytes
  | [] => [[]]
  | byte :: rest => (byte :: rest) :: suffixes rest

/-- What can be left when bytes other than slashes are taken. -/
def pastNames : Bytes → List Bytes
  | [] => [[]]
  | byte :: rest => (byte :: rest) :: if byte = slash then [] else pastNames rest

/-- What stands behind each of the slashes. -/
def pastSlashes : Bytes → List Bytes
  | [] => []
  | byte :: rest => if byte = slash then rest :: pastSlashes rest else pastSlashes rest

/-- Single bytes, as ranges. -/
def singles (bytes : Bytes) : List (UInt8 × UInt8) :=
  bytes.map fun byte => (byte, byte)

/-- The ranges of bytes for a range of characters. The members are written as bytes, so
the range runs from the last byte of its lower end to the first byte of its upper
end, and their other bytes are members of their own. -/
def byteRanges (low high : Char) : List (UInt8 × UInt8) :=
  let lower := String.utf8EncodeChar low
  let upper := String.utf8EncodeChar high
  if low = high then singles lower
  else
    singles lower.dropLast ++ [(lower.getLastD 0, upper.headD 0)] ++ singles upper.tail

/-- Whether a byte lies in one of the ranges. -/
def inRanges (ranges : List (Char × Char)) (byte : UInt8) : Bool :=
  (ranges.flatMap fun (low, high) => byteRanges low high).any fun (low, high) =>
    low ≤ byte && byte ≤ high

/-- What is left when the first byte is taken, provided that it passes a test. -/
def takeByte (test : UInt8 → Bool) : Bytes → List Bytes
  | [] => []
  | byte :: rest => if test byte then [rest] else []

/-- What is left when the given bytes are taken. -/
def takeBytes (taken bytes : Bytes) : List Bytes :=
  if taken.isPrefixOf bytes then [bytes.drop taken.length] else []

mutual

/-- What a piece can leave. -/
def Piece.rests : Piece → Bytes → List Bytes
  | .char c, bytes => takeBytes (String.utf8EncodeChar c) bytes
  | .any, bytes => takeByte (· != slash) bytes
  | .star, bytes => pastNames bytes
  | .leading, bytes => bytes :: pastSlashes bytes
  | .trailing, bytes => (takeByte (· == slash) bytes).flatMap suffixes
  | .between, bytes =>
    (takeByte (· == slash) bytes).flatMap fun rest => rest :: pastSlashes rest
  | .oneOf negated ranges, bytes => takeByte (fun byte => inRanges ranges byte != negated) bytes
  | .choice branches, bytes => if branches.isEmpty then [bytes] else restsOfAny branches bytes

/-- What pieces in a row can leave, from what was left before them. -/
def restsOfAll : List Piece → List Bytes → List Bytes
  | [], found => found
  | piece :: others, found => restsOfAll others (found.flatMap piece.rests).eraseDups

/-- What one of several branches can leave. -/
def restsOfAny : List (List Piece) → Bytes → List Bytes
  | [], _ => []
  | branch :: others, bytes => restsOfAll branch [bytes] ++ restsOfAny others bytes

end

/-- Whether a path matches a pattern. The pattern `**` is matched by every path. -/
def Pattern.accepts (pattern : Pattern) (path : Text) : Bool :=
  match pattern with
  | [.leading] => true
  | _ => (restsOfAll pattern [encode path]).any List.isEmpty

end Hygiene.Glob
