import FatVolume.Text.Unshown

/-!
# Quoted text

Text from outside is quoted where a notice repeats it, so that its ends and its
invisible characters can be told. Quotation marks and backslashes are escaped, and so
are the line feed, the carriage return, the tabulator and the zero character, each
with a letter or digit of its own. A character that is not shown stands by its number in
hexadecimal, in braces. An apostrophe is no quotation mark here.
-/

namespace FatVolume.Text.Quoted

/-- The escape of a character by its number. -/
def byNumber (character : Char) : List Char :=
  ['\\', 'u', '\x7b'] ++ Nat.toDigits 16 character.toNat ++ ['\x7d']

/-- The form of one character within quotation marks. -/
def encodeChar (character : Char) : List Char :=
  if character = '"' then ['\\', '"']
  else if character = '\\' then ['\\', '\\']
  else if character = '\n' then ['\\', 'n']
  else if character = '\r' then ['\\', 'r']
  else if character = '\t' then ['\\', 't']
  else if character = '\x00' then ['\\', '0']
  else if isUnshown character then byNumber character
  else [character]

/-- A text in quotation marks. -/
def encode (text : List Char) : List Char := '"' :: text.flatMap encodeChar ++ ['"']

end FatVolume.Text.Quoted
