import FatVolume.Proofs.Geometry
import Mathlib.Algebra.Group.Nat.Defs

/-!
# Addresses and counters in machine words

Addresses are worked out in words of 64 bits, counters and sizes in words of 32. A sum
or product that does not fit its word, a difference below zero, and bytes that are taken
from behind the end of a sector or a buffer, are errors that stop a machine; here they are
the absence of a value. `evaluate` repeats each recorded computation step by step in this
arithmetic: the address of an entry, of a root slot and of a sector of a cluster, the bytes
of an entry and of a slot in their sector, the counters of a cursor, and every run of bytes
that is copied out of a sector into a buffer.

A computation is proper when its operands are in the range that the regions of the
volume give. Where the addresses of a volume fit a word, a proper computation never
leaves its words and bounds, and its value is that of unbounded arithmetic.
-/

namespace FatVolume

namespace Word

/-- The sum, if it fits a word of so many bits. -/
def add (bits left right : Nat) : Option Nat :=
  if left + right < 2 ^ bits then some (left + right) else none

/-- The product, if it fits a word of so many bits. -/
def multiply (bits left right : Nat) : Option Nat :=
  if left * right < 2 ^ bits then some (left * right) else none

/-- The difference, if it is not below zero. -/
def subtract (left right : Nat) : Option Nat :=
  if right ≤ left then some (left - right) else none

/-- The quotient, unless it is one by zero. -/
def divide (left right : Nat) : Option Nat :=
  if right = 0 then none else some (left / right)

/-- The number, if it is stored in a word of so many bits without loss. -/
def narrow (bits value : Nat) : Option Nat :=
  if value < 2 ^ bits then some value else none

/-- The end of a run of bytes, if it is not behind the end of as many bytes as there are. -/
def range (start length available : Nat) : Option Nat := do
  let stop ← add 64 start length
  if stop ≤ available then some stop else none

/-- A sum that fits its word is the sum of unbounded arithmetic. Each step of a
computation is compared in this way, one by one. -/
theorem add_of_lt {bits left right : Nat} (fits : left + right < 2 ^ bits) :
    add bits left right = some (left + right) := if_pos fits

/-- A product that fits its word is the product of unbounded arithmetic. -/
theorem multiply_of_lt {bits left right : Nat} (fits : left * right < 2 ^ bits) :
    multiply bits left right = some (left * right) := if_pos fits

/-- A difference that is not below zero is the difference of unbounded arithmetic;
otherwise there is none. -/
theorem subtract_of_le {left right : Nat} (least : right ≤ left) :
    subtract left right = some (left - right) := if_pos least

/-- A quotient by something is the quotient of unbounded arithmetic, rounded down; a
quotient by zero does not exist. -/
theorem divide_of_pos {left right : Nat} (positive : 0 < right) :
    divide left right = some (left / right) := if_neg (Nat.ne_of_gt positive)

/-- A number that fits a narrower word is stored there without loss. -/
theorem narrow_of_lt {bits value : Nat} (fits : value < 2 ^ bits) :
    narrow bits value = some value := if_pos fits

/-- A run of bytes that ends within the available ones, and at an address, has its end. A
run that ends elsewhere is none. -/
theorem range_of_le {start length available : Nat} (inside : start + length ≤ available)
    (fits : start + length < 2 ^ 64) : range start length available = some (start + length) := by
  rw [range, add_of_lt fits]
  exact if_pos inside

end Word

namespace Computation

/-- What is worked out in machine words, where no step leaves its word or its bounds. -/
def evaluate (layout : Layout) : Computation → Option Nat
  | linkSector copy cluster => do
    let offset ← Word.multiply 64 cluster 2
    let skipped ← Word.multiply 64 copy layout.tableSectors
    let start ← Word.add 64 layout.tableStart skipped
    let lba ← Word.add 64 start (offset / 512)
    let _ ← Word.range (offset % 512) 2 512
    return lba
  | rootSector taken => do
    let remaining ← Word.subtract layout.rootEntries taken
    let consumed ← Word.subtract layout.rootEntries remaining
    let lba ← Word.add 64 layout.rootStart (consumed / 16)
    let _ ← Word.subtract remaining 1
    return lba
  | clusterSector cluster sector => do
    let number ← Word.subtract cluster 2
    let skipped ← Word.multiply 64 number layout.sectorsPerCluster
    let start ← Word.add 64 layout.dataStart skipped
    Word.add 64 start sector
  | slotStart index => do
    let start ← Word.multiply 64 index 32
    let _ ← Word.range start 32 512
    let _ ← Word.add 64 index 1
    return start
  | nextSector sector => Word.add 32 sector 1
  | previousSector sector => Word.subtract sector 1
  | nextHop hops => do
    let _ ← Word.subtract layout.maxCluster 1
    Word.add 32 hops 1
  | bytesBehind size offset => Word.subtract size offset
  | firstBytes length available => Word.range 0 length available
  | clustersBefore offset => do
    let bytes ← Word.multiply 32 layout.sectorsPerCluster 512
    Word.divide offset bytes
  | copiedRun position copied length => do
    let room ← Word.subtract 512 (position % 512)
    let wanted ← Word.subtract length copied
    let count := min room wanted
    let _ ← Word.range copied count length
    let _ ← Word.range (position % 512) count 512
    let _ ← Word.add 64 position count
    return count
  | entryCount count => Word.narrow 64 count

/-- The operands are in range: an entry of a data cluster in an existing copy, a slot of
the root directory or of a sector, a sector of a data cluster, a counter below its limit, a
number of bytes that a size can tell and no more than there are, and a place inside a
cluster. -/
def Proper (layout : Layout) : Computation → Prop
  | linkSector copy cluster => copy < layout.tableCopies ∧ layout.DataCluster cluster
  | rootSector taken => taken < layout.rootEntries
  | clusterSector cluster sector =>
    layout.DataCluster cluster ∧ sector < layout.sectorsPerCluster
  | slotStart index => index < 16
  | nextSector sector => sector < layout.sectorsPerCluster
  | previousSector sector => 0 < sector
  | nextHop hops => hops < layout.clusterCount
  | bytesBehind size offset => offset < size
  | firstBytes length available => length < 2 ^ 32 ∧ length ≤ available
  | clustersBefore _ => True
  | copiedRun position copied length =>
    position < layout.clusterBytes ∧ copied < length ∧ length < 2 ^ 32
  | entryCount count => count < 2 ^ 32

variable {volume : Volume}

/-- A machine finds the sector of an entry with every product and sum in 64 bits, if the
volume ends at an address. The two bytes of the entry lie in that sector. -/
private theorem evaluate_linkSector {copy cluster : Nat} (stored : copy < volume.tableCopies)
    (data : volume.DataCluster cluster) (addressed : volume.dataEnd ≤ 2 ^ 64) :
    (linkSector copy cluster).evaluate volume.toLayout =
      some (volume.linkSector copy cluster) := by
  have numbered := data.lt_marker
  have inside := (Layout.owns_linkSector data stored).lt_dataEnd
  simp only [Layout.linkSector] at inside ⊢
  have offset : Word.multiply 64 cluster 2 = some (cluster * 2) := Word.multiply_of_lt (by omega)
  have skipped : Word.multiply 64 copy volume.tableSectors = some (copy * volume.tableSectors) :=
    Word.multiply_of_lt (by omega)
  have start : Word.add 64 volume.tableStart (copy * volume.tableSectors) =
      some (volume.tableStart + copy * volume.tableSectors) := Word.add_of_lt (by omega)
  have sector : cluster * 2 / 512 = cluster / 256 := by omega
  have lba : Word.add 64 (volume.tableStart + copy * volume.tableSectors) (cluster / 256) =
      some (volume.tableStart + copy * volume.tableSectors + cluster / 256) :=
    Word.add_of_lt (by omega)
  have bytes : Word.range (cluster * 2 % 512) 2 512 = some (cluster * 2 % 512 + 2) :=
    Word.range_of_le (by omega) (by omega)
  simp only [evaluate, Option.bind_eq_bind, offset, skipped, start, sector, lba,
    Option.bind_some, bytes]
  rfl

/-- A machine finds the sector of a slot of the root directory. It works with the slots
that remain, and none of its differences is below zero. -/
private theorem evaluate_rootSector {taken : Nat} (inside : taken < volume.rootEntries)
    (addressed : volume.dataEnd ≤ 2 ^ 64) :
    (rootSector taken).evaluate volume.toLayout = some (volume.rootStart + taken / 16) := by
  have owned := (Layout.owns_rootSector inside).lt_dataEnd
  have remaining : Word.subtract volume.rootEntries taken = some (volume.rootEntries - taken) :=
    Word.subtract_of_le (by omega)
  have consumed : Word.subtract volume.rootEntries (volume.rootEntries - taken) = some taken := by
    rw [Word.subtract_of_le (by omega)]
    exact congrArg some (by omega)
  have lba : Word.add 64 volume.rootStart (taken / 16) = some (volume.rootStart + taken / 16) :=
    Word.add_of_lt (by omega)
  have counted : Word.subtract (volume.rootEntries - taken) 1 =
      some (volume.rootEntries - taken - 1) := Word.subtract_of_le (by omega)
  simp only [evaluate, Option.bind_eq_bind, remaining, consumed, lba, counted,
    Option.bind_some]
  rfl

/-- A machine finds the sector of a data cluster: the number is at least 2, the product
fits, and the sum stays in front of the end of the volume. -/
private theorem evaluate_clusterSector {cluster sector : Nat} (data : volume.DataCluster cluster)
    (inside : sector < volume.sectorsPerCluster) (addressed : volume.dataEnd ≤ 2 ^ 64) :
    (clusterSector cluster sector).evaluate volume.toLayout =
      some (volume.clusterStart cluster + sector) := by
  have owned := Layout.clusterSector_lt_dataEnd data inside
  simp only [Layout.clusterStart] at owned ⊢
  have number : Word.subtract cluster 2 = some (cluster - 2) := Word.subtract_of_le data.1
  have skipped : Word.multiply 64 (cluster - 2) volume.sectorsPerCluster =
      some ((cluster - 2) * volume.sectorsPerCluster) := Word.multiply_of_lt (by omega)
  have start : Word.add 64 volume.dataStart ((cluster - 2) * volume.sectorsPerCluster) =
      some (volume.dataStart + (cluster - 2) * volume.sectorsPerCluster) :=
    Word.add_of_lt (by omega)
  have lba : Word.add 64 (volume.dataStart + (cluster - 2) * volume.sectorsPerCluster) sector =
      some (volume.dataStart + (cluster - 2) * volume.sectorsPerCluster + sector) :=
    Word.add_of_lt (by omega)
  simp only [evaluate, Option.bind_eq_bind, number, skipped, start, lba, Option.bind_some]

/-- A machine finds the first byte of a slot, which lies in the sector with all of its
record. -/
private theorem evaluate_slotStart {index : Nat} (inside : index < 16) :
    (slotStart index).evaluate volume.toLayout = some (index * 32) := by
  have start : Word.multiply 64 index 32 = some (index * 32) := Word.multiply_of_lt (by omega)
  have bytes : Word.range (index * 32) 32 512 = some (index * 32 + 32) :=
    Word.range_of_le (by omega) (by omega)
  have behind : Word.add 64 index 1 = some (index + 1) := Word.add_of_lt (by omega)
  simp only [evaluate, Option.bind_eq_bind, start, bytes, behind, Option.bind_some]
  rfl

/-- The bytes that a sector adds are taken out of it, and come to stand in the buffer:
both slices end where their bytes do, and both counters stay in their words. -/
private theorem evaluate_copiedRun {position copied length : Nat}
    (inside : position < volume.clusterBytes) (wanted : copied < length)
    (sized : length < 2 ^ 32) :
    (copiedRun position copied length).evaluate volume.toLayout =
      some (Sector.runLength position copied length) := by
  have small := volume.usable.sectorsPerCluster_lt
  simp only [Layout.clusterBytes] at inside
  have counted : min (512 - position % 512) (length - copied) =
      Sector.runLength position copied length := rfl
  have within := Sector.runLength_le position copied length
  have enough : copied + Sector.runLength position copied length ≤ length := by
    simp only [Sector.runLength]
    omega
  have room : Word.subtract 512 (position % 512) = some (512 - position % 512) :=
    Word.subtract_of_le (by omega)
  have rest : Word.subtract length copied = some (length - copied) :=
    Word.subtract_of_le (by omega)
  have target : Word.range copied (Sector.runLength position copied length) length =
      some (copied + Sector.runLength position copied length) :=
    Word.range_of_le enough (by omega)
  have origin : Word.range (position % 512) (Sector.runLength position copied length) 512 =
      some (position % 512 + Sector.runLength position copied length) :=
    Word.range_of_le within (by omega)
  have further : Word.add 64 position (Sector.runLength position copied length) =
      some (position + Sector.runLength position copied length) := Word.add_of_lt (by omega)
  simp only [evaluate, Option.bind_eq_bind, room, rest, counted, target, origin, further,
    Option.bind_some]
  rfl

/-- On a volume whose addresses fit a machine word, no step of a proper computation
underflows or overflows, and none takes bytes from behind the end of its sector or buffer. -/
theorem evaluate_proper (addressed : volume.dataEnd ≤ 2 ^ 64) {computation : Computation}
    (proper : computation.Proper volume.toLayout) :
    computation.evaluate volume.toLayout = some (computation.value volume.toLayout) := by
  cases computation with
  | linkSector copy cluster => exact evaluate_linkSector proper.1 proper.2 addressed
  | rootSector taken => exact evaluate_rootSector proper addressed
  | clusterSector cluster sector => exact evaluate_clusterSector proper.1 proper.2 addressed
  | nextSector sector =>
    have small := volume.usable.sectorsPerCluster_lt
    exact Word.add_of_lt (Nat.lt_of_lt_of_le (Nat.add_lt_add_right proper 1) (by omega))
  | nextHop hops =>
    have limited := volume.maxCluster_le_tableLimit
    simp only [Proper, Layout.clusterCount] at proper
    simp only [Layout.tableLimit] at limited
    have counted : Word.subtract volume.maxCluster 1 = some (volume.maxCluster - 1) :=
      Word.subtract_of_le (by omega)
    have followed : Word.add 32 hops 1 = some (hops + 1) := Word.add_of_lt (by omega)
    simp only [evaluate, Option.bind_eq_bind, counted, followed, Option.bind_some, value]
  | bytesBehind size offset => exact Word.subtract_of_le (Nat.le_of_lt proper)
  | slotStart index => exact evaluate_slotStart proper
  | previousSector sector => exact Word.subtract_of_le proper
  | firstBytes length available =>
    obtain ⟨sized, within⟩ := proper
    rw [evaluate, Word.range_of_le (by omega) (by omega), value, Nat.zero_add]
  | clustersBefore offset =>
    have positive := volume.usable.sectorsPerCluster_pos
    have small := volume.usable.sectorsPerCluster_lt
    have bytes : Word.multiply 32 volume.sectorsPerCluster 512 =
        some (volume.sectorsPerCluster * 512) := Word.multiply_of_lt (by omega)
    simp only [evaluate, Option.bind_eq_bind, bytes, Option.bind_some, value, Layout.clusterBytes]
    exact Word.divide_of_pos (by omega)
  | copiedRun position copied length =>
    exact evaluate_copiedRun proper.1 proper.2.1 proper.2.2
  | entryCount count =>
    exact Word.narrow_of_lt (Nat.lt_trans proper (by decide))

end Computation

end FatVolume
