import LaunchKit.Text.Quoted

/-!
# Raw texts

The system keeps names and values as bytes, and what it hands over need not be the encoding of a
text. So a raw text may hold, between characters, *surrogates*: code points that are no characters
and have no encoding. A byte that belongs to no character is handed over as a surrogate of its own
and becomes that byte again on the way back. All other surrogates stand for nothing, and a text
with one of them does not reach the system.

Encoding is not injective: surrogates whose bytes, taken together, encode a character are read as
that character.

## Main definitions

* `CodePoint`, `RawText`: texts that may hold surrogates.
* `RawText.encode`, `RawText.decode`: the way to the system and the way back.
* `RawText.shown`, `RawText.quoted`: raw texts in print.
-/
namespace LaunchKit

/-- A sequence of bytes, as the system keeps it. -/
abbrev Bytes := List UInt8

/-- The encoding of a text. -/
def Text.bytes (text : Text) : Bytes := text.flatMap String.utf8EncodeChar

/-- A text stands for its encoding. -/
instance : Coe Text Bytes := ⟨Text.bytes⟩

/-- A character, or a surrogate by its place among the surrogates. -/
inductive CodePoint where
  | character (c : Char)
  | surrogate (place : Fin 0x800)
  deriving DecidableEq, Repr

/-- A sequence of code points. -/
abbrev RawText := List CodePoint

/-- A text is a raw text without surrogates. -/
instance : Coe Text RawText := ⟨List.map CodePoint.character⟩

namespace CodePoint

/-- The number of a code point. -/
def number : CodePoint → Nat
  | character c => c.toNat
  | surrogate place => 0xD800 + place

def isSurrogate : CodePoint → Bool
  | character _ => false
  | surrogate _ => true

/-- The character that a code point is. -/
def character? : CodePoint → Option Char
  | character c => some c
  | surrogate _ => none

/-- The surrogate that stands for a byte. -/
def ofByte (byte : UInt8) : CodePoint := surrogate ⟨0x400 + byte.toNat, by
  have := byte.toNat_lt
  omega⟩

/-- The bytes of a code point. No surrogate stands for a byte of ASCII, which is a character by
itself. -/
def bytes? : CodePoint → Option Bytes
  | character c => some (String.utf8EncodeChar c)
  | surrogate place =>
    if 0x480 ≤ place.val ∧ place.val < 0x500 then some [UInt8.ofNat (place.val - 0x400)] else none

end CodePoint

namespace RawText

/-! ## In print -/

/-- A raw text in print, with escapes for the surrogates. -/
def shown (raw : RawText) : Text :=
  raw.flatMap fun
    | .character c => [c]
    | point => Text.pointEscape point.number

/-- One code point between quotes. -/
def quotedPoint (mark : Char) : CodePoint → Text
  | .character c => Text.quotedChar mark c
  | point => Text.pointEscape point.number

/-- The quoted form of a raw text. -/
def quoted (raw : RawText) : Text :=
  let mark := Text.quoteMark (raw.filterMap CodePoint.character?)
  mark :: raw.flatMap (quotedPoint mark) ++ [mark]

@[simp] theorem shown_text (text : Text) : shown text = text := by
  simp [shown, List.flatMap_map, List.flatMap_singleton']

/-- Without surrogates there is nothing to escape but what is escaped in texts. -/
@[simp] theorem quoted_text (text : Text) : quoted text = Text.quoted text := by
  simp [quoted, Text.quoted, List.flatMap_map, List.filterMap_map, Function.comp_def,
    CodePoint.character?, quotedPoint]

/-! ## To the system -/

/-- A code point without bytes: its position, and how many surrogates follow on it. -/
structure Unencodable where
  position : Nat
  point : CodePoint
  following : Nat
  deriving DecidableEq, Repr

/-- The bytes of a raw text that begins at a position. -/
def encodeFrom (position : Nat) : RawText → Except Unencodable Bytes
  | [] => .ok []
  | point :: rest =>
    match point.bytes? with
    | some bytes => (bytes ++ ·) <$> encodeFrom (position + 1) rest
    | none => .error ⟨position, point, (rest.takeWhile CodePoint.isSurrogate).length⟩

/-- The bytes of a raw text, or the first code point that has none. -/
def encode (raw : RawText) : Except Unencodable Bytes := encodeFrom 0 raw

/-! ## From the system -/

/-- The character at the head of bytes. -/
def first? (bytes : Bytes) : Option Char := (bytes.take 4).toByteArray.utf8DecodeChar? 0

/-- The raw text of bytes of which some belong to a character that was read. -/
def decodeFrom (skipped : Nat) : Bytes → RawText
  | [] => []
  | byte :: rest =>
    match skipped with
    | skipped + 1 => decodeFrom skipped rest
    | 0 =>
      match first? (byte :: rest) with
      | some c => .character c :: decodeFrom (c.utf8Size - 1) rest
      | none => .ofByte byte :: decodeFrom 0 rest

/-- The raw text that bytes are handed over as. -/
def decode (bytes : Bytes) : RawText := decodeFrom 0 bytes

example : encode [.character 'é', .ofByte 0xFF] = .ok [0xC3, 0xA9, 0xFF] := rfl
example : encode [.ofByte 0xC3, .surrogate 0, .ofByte 0xA9, .character 'a'] =
    .error ⟨1, .surrogate 0, 1⟩ := rfl
example : decode [0xC3, 0xA9, 0xED, 0xA0, 0x61] =
    [.character 'é', .ofByte 0xED, .ofByte 0xA0, .character 'a'] := by decide +kernel

end RawText
end LaunchKit
