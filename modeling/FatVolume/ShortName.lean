import FatVolume.Failure
import FatVolume.Text

/-!
# Short names

A directory names its entries by eleven bytes: a stem of eight and an extension
of three, each padded with spaces. A path component is encoded by splitting its
UTF-8 bytes at the first dot, refusing what a short name cannot carry, and
raising the rest to upper case. A stored name is shown with its padding removed
and a dot between the parts; bytes outside printable ASCII show as `?`.

When a component has two faults, an earlier test decides: the stem's length
before its bytes, the stem before the extension.
-/

namespace FatVolume

/-- The eleven name bytes of a directory entry. -/
abbrev RawName := Vector UInt8 11

namespace ShortName

/-- The byte that fills the unused part of a stem or extension. -/
def padding : UInt8 := 0x20

/-- The byte of the dot, which divides stem and extension. -/
def dot : UInt8 := 0x2E

/-- Bytes of printable ASCII that a short name may not carry, apart from the dot
and the separators. -/
def forbidden : List UInt8 :=
  [0x22, 0x2A, 0x2B, 0x2C, 0x3A, 0x3B, 0x3C, 0x3D, 0x3E, 0x3F, 0x5B, 0x5D, 0x7C, 0x20]

/-- Printable ASCII, the space included. -/
def isPrintable (byte : UInt8) : Bool := 0x20 ≤ byte && byte < 0x7F

/-- A byte that may stand in the stem or the extension of a short name. -/
def isAllowed (byte : UInt8) : Bool :=
  isPrintable byte && byte != dot && !Text.isSeparatorByte byte && !forbidden.contains byte

/-- One part of a name in upper case, filled with spaces up to its width. -/
def encodePart (width : Nat) (bytes : List UInt8) : Except Failure (Vector UInt8 width) :=
  if bytes.all isAllowed then
    .ok (Vector.ofFn fun position => (bytes[position.val]?.map Text.upperByte).getD padding)
  else
    .error .badComponent

/-- The stored form of a path component. -/
def encode (component : List Char) : Except Failure RawName := do
  let bytes := Text.utf8 component
  let stem := bytes.takeWhile (· != dot)
  let extension := (bytes.dropWhile (· != dot)).drop 1
  if stem.isEmpty then throw .badComponent
  if 8 < stem.length then throw .nameTooLong
  let stemPart ← encodePart 8 stem
  if 3 < extension.length then throw .nameTooLong
  let extensionPart ← encodePart 3 extension
  return stemPart ++ extensionPart

/-- One stored byte as it is shown. -/
def displayByte (byte : UInt8) : Char :=
  if isPrintable byte then Char.ofNat byte.toNat else '?'

/-- One part of a stored name as it is shown: up to its first space. -/
def displayPart (bytes : List UInt8) : List Char :=
  (bytes.takeWhile (· != padding)).map displayByte

/-- A stored name as it is shown. The dot stands there exactly when the extension
is not all spaces, so an extension that starts with a space shows as a bare dot. -/
def display (name : RawName) : List Char :=
  let stem := displayPart (name.toList.take 8)
  let extension := name.toList.drop 8
  if extension.all (· == padding) then stem else stem ++ '.' :: displayPart extension

/-- Stored names are equal with the case of ASCII letters folded. Other bytes are
compared exactly. -/
def sameFolded (left right : RawName) : Bool := left.map Text.upperByte == right.map Text.upperByte

/-- The name of the entry by which a directory refers to itself. -/
def self : RawName := #v[0x2E, 0x20, 0x20, 0x20, 0x20, 0x20, 0x20, 0x20, 0x20, 0x20, 0x20]

/-- The name of the entry by which a directory refers to its parent. -/
def parent : RawName := #v[0x2E, 0x2E, 0x20, 0x20, 0x20, 0x20, 0x20, 0x20, 0x20, 0x20, 0x20]

end ShortName

end FatVolume
