import FatVolume.Slot

/-!
# Listing records

A user program receives each entry of a listing as a record of fixed size: 64 bytes
for the name, which a zero byte ends, the size, and a tag for the kind. A name that is
too long is cut so that the final zero byte always has room.
-/

namespace FatVolume

namespace EntryKind

/-- The number that stands for a kind in a record. -/
def tag : EntryKind → UInt8
  | file => 1
  | directory => 2

/-- The kind that a number stands for, if any. -/
def ofTag (tag : UInt8) : Option EntryKind :=
  if tag = 1 then some file else if tag = 2 then some directory else none

/-- The tag of a kind determines it, so that a reader of a record cannot take a file for a
directory. -/
theorem ofTag_tag (kind : EntryKind) : ofTag kind.tag = some kind := by
  cases kind <;> rfl

end EntryKind

/-- One entry of a listing as it is delivered to user programs. -/
structure ListingRecord where
  name : Vector UInt8 64
  size : UInt32
  tag : UInt8
  deriving DecidableEq

namespace ListingRecord

/-- The record that a buffer holds before it is filled. -/
def empty : ListingRecord where
  name := Vector.replicate 64 0
  size := 0
  tag := 0

/-- The room of a record for a name, filled with the first of some bytes. -/
def nameField (bytes : List UInt8) : Vector UInt8 64 :=
  Vector.ofFn fun position => (bytes[position.val]?).getD 0

/-- The record of a name, a kind and a size. -/
def ofParts (name : List Char) (kind : EntryKind) (size : UInt32) : ListingRecord where
  name := nameField ((Text.utf8 name).take 63)
  size := size
  tag := kind.tag

/-- The record of an entry. A directory has size zero there, whatever is recorded. -/
def ofEntry (entry : Entry) : ListingRecord :=
  ofParts entry.displayName entry.kind (if entry.isDirectory then 0 else entry.size)

/-- The bytes of the name, up to the first zero byte. -/
def nameBytes (record : ListingRecord) : List UInt8 := record.name.toList.takeWhile (· != 0)

/-- The kind that the tag stands for, if any. -/
def kind? (record : ListingRecord) : Option EntryKind := EntryKind.ofTag record.tag

end ListingRecord

end FatVolume
