import FatVolume.Host

/-!
# Volumes

A volume is a run of sectors that starts with a boot sector. The boot sector gives
the sizes of its parts; the parts follow each other without a gap: reserved
sectors, the copies of the allocation table, the root directory, and the data
clusters, which are numbered from 2.

`Layout` holds the sizes as naturals together with the start of the volume, and
every boundary is a function of them, computed in unbounded arithmetic. A `Volume`
is a layout with the bounds that `Layout.ofBootSector` has tested or that the
widths of the fields of a boot sector impose.

The highest cluster number is bounded by three things: the entries of one table
copy, the value that marks a bad cluster, and the sectors of the volume where
their number is known.
-/

namespace FatVolume

/-- The sizes in a boot sector, and where the volume starts. -/
structure Layout where
  /-- The address of the boot sector. -/
  base : Nat
  sectorsPerCluster : Nat
  reservedSectors : Nat
  /-- The number of copies of the allocation table. -/
  tableCopies : Nat
  /-- The number of slots of the root directory. -/
  rootEntries : Nat
  /-- The number of sectors of one copy of the allocation table. -/
  tableSectors : Nat
  /-- The number of sectors of the volume, zero when the boot sector does not tell. -/
  totalSectors : Nat
  deriving DecidableEq, Repr

namespace Layout

/-- The first sector of the first table copy. -/
def tableStart (layout : Layout) : Nat := layout.base + layout.reservedSectors

/-- The first sector of the root directory. -/
def rootStart (layout : Layout) : Nat :=
  layout.tableStart + layout.tableCopies * layout.tableSectors

/-- The number of sectors that hold the slots of the root directory. -/
def rootSectors (layout : Layout) : Nat := (layout.rootEntries * 32 + 511) / 512

/-- The first sector of cluster 2. -/
def dataStart (layout : Layout) : Nat := layout.rootStart + layout.rootSectors

/-- The highest cluster number that has an entry in a table copy and is no marker. -/
def tableLimit (layout : Layout) : Nat := min (layout.tableSectors * 256 - 1) 0xFFF6

/-- The highest cluster number that lies inside the table and the volume. -/
def maxCluster (layout : Layout) : Nat :=
  let dataOffset := layout.dataStart - layout.base
  if dataOffset < layout.totalSectors then
    min ((layout.totalSectors - dataOffset) / layout.sectorsPerCluster + 1) layout.tableLimit
  else
    layout.tableLimit

/-- The number of data clusters, and so the length of the longest chain. -/
def clusterCount (layout : Layout) : Nat := layout.maxCluster - 1

/-- The number of bytes of a cluster. -/
def clusterBytes (layout : Layout) : Nat := layout.sectorsPerCluster * 512

/-- The first sector of a cluster with a number of at least 2. -/
def clusterStart (layout : Layout) (cluster : Nat) : Nat :=
  layout.dataStart + (cluster - 2) * layout.sectorsPerCluster

/-- The sector of a table copy in which the entry of a cluster lies. -/
def linkSector (layout : Layout) (copy cluster : Nat) : Nat :=
  layout.tableStart + copy * layout.tableSectors + cluster / 256

/-- The number belongs to a data cluster. -/
def isDataCluster (layout : Layout) (cluster : Nat) : Bool :=
  2 ≤ cluster && cluster ≤ layout.maxCluster

/-- Refuse what is no data cluster; a number below 2 and one behind the last cluster
are told apart. -/
def checkCluster (layout : Layout) (cluster : Nat) : Except Failure Unit :=
  if cluster < 2 then .error .reservedCluster
  else if layout.maxCluster < cluster then .error .brokenChain
  else .ok ()

/-- What a mounted layout satisfies: no size that divides or repeats is zero, there
is a data cluster, and every size fits its field in the boot sector. -/
structure Usable (layout : Layout) : Prop where
  sectorsPerCluster_pos : 0 < layout.sectorsPerCluster
  tableCopies_pos : 0 < layout.tableCopies
  tableSectors_pos : 0 < layout.tableSectors
  two_le_maxCluster : 2 ≤ layout.maxCluster
  sectorsPerCluster_lt : layout.sectorsPerCluster < 256
  reservedSectors_lt : layout.reservedSectors < 65536
  tableCopies_lt : layout.tableCopies < 256
  rootEntries_lt : layout.rootEntries < 65536
  tableSectors_lt : layout.tableSectors < 65536
  totalSectors_lt : layout.totalSectors < 4294967296

end Layout

/-- What is worked out on a volume, in unbounded arithmetic. -/
def Computation.value (layout : Layout) : Computation → Nat
  | linkSector copy cluster => layout.linkSector copy cluster
  | rootSector taken => layout.rootStart + taken / 16
  | clusterSector cluster sector => layout.clusterStart cluster + sector
  | slotStart index => index * 32
  | nextSector sector => sector + 1
  | previousSector sector => sector - 1
  | nextHop hops => hops + 1
  | bytesBehind size offset => size - offset
  | firstBytes length _ => length
  | clustersBefore offset => offset / layout.clusterBytes
  | copiedRun position copied length => Sector.runLength position copied length
  | entryCount count => count

/-- A layout that can be worked with. -/
structure Volume extends Layout where
  usable : toLayout.Usable

namespace Volume

/-- Volumes are equal when their layouts are. -/
instance : DecidableEq Volume := fun left right =>
  if same : left.toLayout = right.toLayout then
    isTrue (by cases left; cases right; cases same; rfl)
  else
    isFalse fun equal => same (congrArg toLayout equal)

/-- The word at a byte offset of a boot sector. -/
def wordAt (sector : Sector) (offset : Fin 511) : UInt16 :=
  LittleEndian.word sector[offset.val] sector[offset.val + 1]

/-- The total number of sectors: the narrow field, or the wide one where the narrow
one is empty. -/
def totalSectorsOf (sector : Sector) : Nat :=
  let narrow := wordAt sector 19
  if narrow ≠ 0 then narrow.toNat
  else (LittleEndian.doubleWord (wordAt sector 32) (wordAt sector 34)).toNat

/-- The sizes as they stand in a boot sector. -/
def layoutOf (base : Nat) (sector : Sector) : Layout where
  base := base
  sectorsPerCluster := sector[13].toNat
  reservedSectors := (wordAt sector 14).toNat
  tableCopies := sector[16].toNat
  rootEntries := (wordAt sector 17).toNat
  tableSectors := (wordAt sector 22).toNat
  totalSectors := totalSectorsOf sector

/-- The sizes of a boot sector fit their fields, so that only the tests of
`ofBootSector` remain for the layout to be usable. -/
theorem usable_layoutOf (base : Nat) (sector : Sector)
    (clusterSized : (layoutOf base sector).sectorsPerCluster ≠ 0)
    (copied : (layoutOf base sector).tableCopies ≠ 0)
    (tableSized : (layoutOf base sector).tableSectors ≠ 0)
    (populated : ¬ (layoutOf base sector).maxCluster < 2) : (layoutOf base sector).Usable where
  sectorsPerCluster_pos := Nat.pos_of_ne_zero clusterSized
  tableCopies_pos := Nat.pos_of_ne_zero copied
  tableSectors_pos := Nat.pos_of_ne_zero tableSized
  two_le_maxCluster := Nat.le_of_not_lt populated
  sectorsPerCluster_lt := UInt8.toNat_lt _
  reservedSectors_lt := UInt16.toNat_lt _
  tableCopies_lt := UInt8.toNat_lt _
  rootEntries_lt := UInt16.toNat_lt _
  tableSectors_lt := UInt16.toNat_lt _
  totalSectors_lt := by
    simp only [layoutOf, totalSectorsOf]
    split
    · exact Nat.lt_trans (UInt16.toNat_lt _) (by decide)
    · exact UInt32.toNat_lt _

/-- The volume that a boot sector describes. The signature is tested first, then the
sector size, then the sizes that must not be zero, then that there is a cluster. -/
def ofBootSector (base : Nat) (sector : Sector) : Except Failure Volume :=
  if sector[510] ≠ 0x55 ∨ sector[511] ≠ 0xAA then .error .badSignature
  else if wordAt sector 11 ≠ 512 then .error .malformed
  else if clusterSized : (layoutOf base sector).sectorsPerCluster = 0 then .error .malformed
  else if copied : (layoutOf base sector).tableCopies = 0 then .error .malformed
  else if tableSized : (layoutOf base sector).tableSectors = 0 then .error .malformed
  else if populated : (layoutOf base sector).maxCluster < 2 then .error .malformed
  else
    .ok ⟨layoutOf base sector, usable_layoutOf base sector clusterSized copied tableSized populated⟩

/-- Read the volume whose boot sector stands at an address. -/
def mount (base : Nat) : HostM Volume := do
  ofBootSector base (← readSector base)

/-- Work a number out, with a note that it was. -/
def workOut (volume : Volume) (computation : Computation) : HostM Nat := do
  compute computation
  return computation.value volume.toLayout

/-- Work out the address of a sector of a cluster. -/
def clusterAddress (volume : Volume) (cluster sector : Nat) : HostM Nat :=
  volume.workOut (.clusterSector cluster sector)

/-- Work out the address of the sector of a root slot. -/
def rootAddress (volume : Volume) (taken : Nat) : HostM Nat := volume.workOut (.rootSector taken)

end Volume

end FatVolume
