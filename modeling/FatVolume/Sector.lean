import FatVolume.LittleEndian

/-!
# Sectors

A sector is a block of exactly 512 bytes, the unit of every transfer. It is read
in three ways: as bytes, as 256 little-endian words (the allocation table), and
as 16 records of 32 bytes (a directory). Indices into words and records are
bounded by their types, so no access can leave the sector.

Replacing a word or a record changes the bytes of that word or record and no
other byte; the lemmas beside the definitions say so through each view.
-/

namespace FatVolume

/-- The block of 512 bytes that a disk transfers at once. -/
abbrev Sector := Vector UInt8 512

/-- Numerals stand for the slots of a directory sector. -/
instance (priority := 2000) neZero_slots : @NeZero Nat Zero.ofOfNat0 16 := ⟨Nat.succ_ne_zero 15⟩

/-- One of the 16 slots of a directory sector, as raw bytes. -/
abbrev Record := Vector UInt8 32

namespace Sector

/-- The sector that holds only zero bytes, as found on an untouched medium. -/
def zero : Sector := Vector.replicate 512 0

/-- The little-endian word at position `index` of a table sector. -/
def word (sector : Sector) (index : Fin 256) : UInt16 :=
  LittleEndian.word sector[2 * index.val] sector[2 * index.val + 1]

/-- The sector with the word at `index` replaced. -/
def setWord (sector : Sector) (index : Fin 256) (value : UInt16) : Sector :=
  (sector.set (2 * index.val) (LittleEndian.lowByte value)).set (2 * index.val + 1)
    (LittleEndian.highByte value)

/-- The 32 bytes of slot `index` of a directory sector. -/
def record (sector : Sector) (index : Fin 16) : Record :=
  Vector.ofFn fun offset => sector[32 * index.val + offset.val]

/-- The sector with the bytes of slot `index` replaced. -/
def setRecord (sector : Sector) (index : Fin 16) (record : Record) : Sector :=
  Vector.ofFn fun position =>
    if position.val / 32 = index.val then record[position.val % 32]
    else sector[position]

/-- A word that was put into a sector is read back from its place, byte by byte in the
order in which it was stored. -/
theorem word_setWord_self (sector : Sector) (index : Fin 256) (value : UInt16) :
    (sector.setWord index value).word index = value := by
  simp [word, setWord, LittleEndian.word_lowByte_highByte]

/-- The other words of a sector are kept when one is replaced: words of different indices
share no byte. -/
theorem word_setWord_other (sector : Sector) (index other : Fin 256) (value : UInt16)
    (distinct : other ≠ index) : (sector.setWord index value).word other = sector.word other := by
  have separated : other.val ≠ index.val := fun same => distinct (Fin.ext same)
  simp only [word, setWord, Vector.getElem_set]
  rw [if_neg (by omega), if_neg (by omega), if_neg (by omega), if_neg (by omega)]

/-- The record that was put into a slot of a sector is read back from it with all of its
32 bytes. -/
theorem record_setRecord_self (sector : Sector) (index : Fin 16) (record : Record) :
    (sector.setRecord index record).record index = record := by
  ext offset inside
  have quotient : (32 * index.val + offset) / 32 = index.val := by omega
  simp [Sector.record, setRecord, quotient, Nat.mod_eq_of_lt inside]

/-- The other slots of a sector are kept when one is replaced. A byte belongs to the slot
that its quotient by 32 names. -/
theorem record_setRecord_other (sector : Sector) (index other : Fin 16) (record : Record)
    (distinct : other ≠ index) :
    (sector.setRecord index record).record other = sector.record other := by
  have separated : other.val ≠ index.val := fun same => distinct (Fin.ext same)
  ext offset inside
  have quotient : (32 * other.val + offset) / 32 ≠ index.val := by omega
  simp [Sector.record, setRecord, quotient]

/-- How many bytes a sector adds to those that were copied of a chain: as many as it
holds from the given position on, and no more than are still wanted. -/
def runLength (position copied length : Nat) : Nat :=
  min (512 - position % 512) (length - copied)

/-- A sector adds a byte at least, as long as one is wanted. This is what makes the copying
of a chain end. -/
theorem runLength_pos (position : Nat) {copied length : Nat} (wanted : copied < length) :
    0 < runLength position copied length := by
  simp only [runLength]
  omega

/-- A sector adds no byte from behind its end, so the bytes that it adds can be taken out
of it. -/
theorem runLength_le (position copied length : Nat) :
    position % 512 + runLength position copied length ≤ 512 := by
  simp only [runLength]
  omega

/-- The bytes that a sector adds to those that were copied of a chain. -/
def run (sector : Sector) (position copied length : Nat) : Array UInt8 :=
  sector.toArray.extract (position % 512) (position % 512 + runLength position copied length)

/-- The bytes that a sector adds are as many as were counted for it: all of them lie
inside the sector, and none is missing at its end. -/
theorem run_size (sector : Sector) (position copied length : Nat) :
    (sector.run position copied length).size = runLength position copied length := by
  have inside := runLength_le position copied length
  rw [run, Array.size_extract, Vector.size_toArray]
  omega

end Sector

end FatVolume
