/-!
# Text as characters and as bytes

Names and paths are lists of characters. Their capacity limits and the 8.3
encoding count bytes of the UTF-8 form, so both measures stand here. Upper case
is that of ASCII only, for characters and for bytes alike: a byte of 128 or more
is never changed.
-/

namespace FatVolume.Text

/-- The bytes of a text in UTF-8. -/
def utf8 (text : List Char) : List UInt8 := text.flatMap String.utf8EncodeChar

/-- The number of bytes of a text in UTF-8. -/
def utf8Length (text : List Char) : Nat :=
  text.foldr (fun character length => character.utf8Size + length) 0

/-- The encoding of a text has as many bytes as were counted character by character, so
room can be tested without encoding it. -/
theorem length_utf8 (text : List Char) : (utf8 text).length = utf8Length text := by
  induction text with
  | nil => rfl
  | cons first rest inductionHypothesis =>
    simp only [utf8, utf8Length] at inductionHypothesis
    simp [utf8, utf8Length, inductionHypothesis, String.length_utf8EncodeChar]

/-- The text with its ASCII letters in upper case. -/
def upper (text : List Char) : List Char := text.map Char.toUpper

/-- A byte with the ASCII letters in upper case. -/
def upperByte (byte : UInt8) : UInt8 := if 0x61 ≤ byte ∧ byte ≤ 0x7A then byte - 0x20 else byte

/-- Both slashes separate the components of a path. -/
def isSeparator (character : Char) : Bool := character == '/' || character == '\\'

/-- The two separators as bytes. -/
def isSeparatorByte (byte : UInt8) : Bool := byte == 0x2F || byte == 0x5C

end FatVolume.Text
