import FatVolume.Sector
import FatVolume.ShortName

/-!
# Directory slots

A directory is a sequence of slots of 32 bytes. The first name byte and the
attribute byte decide what a slot holds: the end marker, an erased entry, a
fragment of a long name, a volume label, or a live entry. The marker bytes are
tested before the attributes, and a long-name fragment before a label.

A live entry keeps its eleven name bytes, its attributes, the number of its first
cluster and its size. The fourteen bytes between the attributes and the cluster
number hold time stamps; they are ignored on reading and written as zero.
-/

namespace FatVolume

/-- What a listing reports an entry to be. -/
inductive EntryKind where
  | file
  | directory
  deriving DecidableEq, Repr

namespace Attributes

/-- The bit of a volume label. -/
def volumeLabel : UInt8 := 0x08

/-- The bit of a directory. -/
def directory : UInt8 := 0x10

/-- The six bits that are compared with the marker of a long-name fragment. -/
def meaningful : UInt8 := 0x3F

/-- The marker of a long-name fragment: read-only, hidden, system and label together. -/
def longName : UInt8 := 0x0F

/-- The directory bit is set, whatever the other bits are. -/
def isDirectory (attributes : UInt8) : Bool := attributes &&& directory == directory

end Attributes

/-- A live entry of a directory. -/
structure Entry where
  name : RawName
  attributes : UInt8
  /-- The first cluster of the entry's chain, as stored. -/
  cluster : UInt16
  /-- The size in bytes, as stored. -/
  size : UInt32
  deriving DecidableEq

/-- What one slot of a directory holds. -/
inductive Slot where
  /-- This slot and every later one are unused. -/
  | endMarker
  /-- The entry that stood here was removed. -/
  | erased
  | longName
  | volumeLabel
  | live (entry : Entry)
  deriving DecidableEq

/-- Where a slot lies on the disk. -/
structure SlotPosition where
  lba : Nat
  index : Fin 16
  deriving DecidableEq

namespace Slot

/-- The name byte of the end marker. -/
def endByte : UInt8 := 0x00

/-- The name byte of an erased entry. -/
def erasedByte : UInt8 := 0xE5

/-- The entry whose fields stand in a record, whatever the record marks. -/
def fields (record : Record) : Entry where
  name := Vector.ofFn fun position => record[position.val]
  attributes := record[11]
  cluster := LittleEndian.word record[26] record[27]
  size := LittleEndian.doubleWord (LittleEndian.word record[28] record[29])
    (LittleEndian.word record[30] record[31])

/-- What a record of 32 bytes holds. -/
def decode (record : Record) : Slot :=
  if record[0] = endByte then .endMarker
  else if record[0] = erasedByte then .erased
  else if record[11] &&& Attributes.meaningful = Attributes.longName then .longName
  else if record[11] &&& Attributes.volumeLabel = Attributes.volumeLabel then .volumeLabel
  else .live (fields record)

/-- What the first 32 of some bytes hold. Fewer bytes than a record are refused. -/
def decodeBytes (bytes : List UInt8) : Except Failure Slot :=
  if enough : 32 ≤ bytes.length then
    .ok (decode (Vector.ofFn fun position => bytes[position.val]))
  else
    .error .malformed

/-- The slot can take a new entry. -/
def isFree : Slot → Bool
  | endMarker => true
  | erased => true
  | _ => false

end Slot

namespace Entry

/-- The record of an entry, with zero bytes for the stamps. -/
def encode (entry : Entry) : Record :=
  Vector.ofFn fun position =>
    if inName : position.val < 11 then entry.name[position.val]
    else match position.val with
      | 11 => entry.attributes
      | 26 => LittleEndian.lowByte entry.cluster
      | 27 => LittleEndian.highByte entry.cluster
      | 28 => LittleEndian.lowByte (LittleEndian.lowHalf entry.size)
      | 29 => LittleEndian.highByte (LittleEndian.lowHalf entry.size)
      | 30 => LittleEndian.lowByte (LittleEndian.highHalf entry.size)
      | 31 => LittleEndian.highByte (LittleEndian.highHalf entry.size)
      | _ => 0

/-- Put the record of an entry in place of the first 32 bytes of a buffer. A shorter buffer is
refused as it stands. -/
def store (entry : Entry) : EStateM Failure (List UInt8) Unit := do
  if (← get).length < 32 then throw .malformed
  modify fun buffer => entry.encode.toList ++ buffer.drop 32

/-- A buffer in which an entry is stored. -/
def encodeInto (entry : Entry) (buffer : List UInt8) : Except Failure (List UInt8) :=
  match entry.store buffer with
  | .ok _ stored => .ok stored
  | .error failure _ => .error failure

/-- An empty directory entry: no size, no attribute but its own. -/
def directory (name : RawName) (cluster : Nat) : Entry where
  name := name
  attributes := Attributes.directory
  cluster := UInt16.ofNat cluster
  size := 0

/-- The entry is one of a directory. -/
def isDirectory (entry : Entry) : Bool := Attributes.isDirectory entry.attributes

/-- What a listing reports the entry to be. -/
def kind (entry : Entry) : EntryKind := if entry.isDirectory then .directory else .file

/-- The entry refers to its own directory or to the parent. -/
def isDot (entry : Entry) : Bool := entry.name == ShortName.self || entry.name == ShortName.parent

/-- The name of an entry as it is shown. -/
def displayName (entry : Entry) : List Char := ShortName.display entry.name

end Entry

end FatVolume
