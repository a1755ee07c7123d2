import FatVolume.Proofs.Extent
import FatVolume.Proofs.MachineWords
import FatVolume.Proofs.TableBytes
import Mathlib.Order.Bounds.Defs

/-!
# The tiling of a volume

The table copies, the root region and the clusters of a volume cover its sectors from the
first table copy to the end of the last cluster, each sector once. Both bytes of an entry
lie in one sector of the copy where they are sought, for the numbers 0 and 1 too, which
have an entry and no cluster.

The highest cluster number is the highest that keeps this up: where the boot sector does not
count its sectors, or counts more than lie in front of the data region, no higher number has
both an entry in each copy and a cluster among the counted sectors. Where the sectors that it
counts end in front of the data region, the count is passed over; nothing is said of the
highest number then, except that it has an entry.

All boundaries are worked out in machine words as they are in unbounded numbers, if the data
region starts at an address of 64 bits.
-/

namespace FatVolume

namespace Layout

variable {layout : Layout}

/-! ## Regions -/

/-- A region of a volume behind the reserved sectors. -/
inductive Region where
  | table (copy : Nat)
  | root
  | cluster (number : Nat)
  deriving DecidableEq

namespace Region

/-- The volume has the region. -/
def Exists (layout : Layout) : Region → Prop
  | table copy => copy < layout.tableCopies
  | root => True
  | cluster number => layout.DataCluster number

/-- The first sector of a region. -/
def start (layout : Layout) : Region → Nat
  | table copy => layout.tableStart + copy * layout.tableSectors
  | root => layout.rootStart
  | cluster number => layout.clusterStart number

/-- The number of sectors of a region. -/
def size (layout : Layout) : Region → Nat
  | table _ => layout.tableSectors
  | root => layout.rootSectors
  | cluster _ => layout.sectorsPerCluster

/-- The address is that of a sector of the region. -/
def Holds (layout : Layout) (region : Region) (lba : Nat) : Prop :=
  ∃ place < region.size layout, lba = region.start layout + place

/-- The zone of the regions of one kind: its first address and the first behind it. -/
def zone (layout : Layout) : Region → Nat × Nat
  | table _ => (layout.tableStart, layout.rootStart)
  | root => (layout.rootStart, layout.dataStart)
  | cluster _ => (layout.dataStart, layout.dataEnd)

variable {region other : Region} {lba : Nat}

/-- A sector of a region lies in the zone of its kind: the table copies in front of the
root region, and the clusters behind it. -/
theorem Holds.in_zone (holds : region.Holds layout lba) (there : region.Exists layout) :
    (region.zone layout).1 ≤ lba ∧ lba < (region.zone layout).2 := by
  obtain ⟨place, inside, rfl⟩ := holds
  cases region with
  | table copy =>
    have copies : (copy + 1) * layout.tableSectors ≤ layout.tableCopies * layout.tableSectors :=
      Nat.mul_le_mul_right _ there
    rw [Nat.succ_mul] at copies
    simp only [size] at inside
    simp only [zone, start, rootStart]
    omega
  | root => exact ⟨Nat.le_add_right _ _, Nat.add_lt_add_left inside _⟩
  | cluster number =>
    exact ⟨(layout.dataStart_le_clusterStart number).trans (Nat.le_add_right _ _),
      clusterSector_lt_dataEnd there inside⟩

/-- No sector belongs to two regions of a volume, be they of different kinds or of the
same one. -/
theorem Holds.unique (holds : region.Holds layout lba) (among : other.Holds layout lba)
    (there : region.Exists layout) (present : other.Exists layout) : region = other := by
  have bounds := holds.in_zone there
  have limits := among.in_zone present
  have roots := layout.rootStart_le_dataStart
  cases region <;> cases other <;> try (simp only [zone] at bounds limits; omega)
  case table.table copy number =>
    obtain ⟨place, inside, rfl⟩ := holds
    obtain ⟨position, within, same⟩ := among
    simp only [start, Nat.add_assoc] at same
    exact congrArg table (block_unique inside within (Nat.add_left_cancel same)).1
  case root.root => rfl
  case cluster.cluster => exact congrArg cluster (InCluster.unique holds among there present)

/-- Every sector between the reserved ones and the root region belongs to one of the table
copies. -/
theorem exists_table (usable : layout.Usable) (first : layout.tableStart ≤ lba)
    (last : lba < layout.rootStart) :
    ∃ copy < layout.tableCopies, (table copy).Holds layout lba := by
  have widths := usable.tableSectors_pos
  have split := Nat.div_add_mod' (lba - layout.tableStart) layout.tableSectors
  refine ⟨(lba - layout.tableStart) / layout.tableSectors, ?_,
    (lba - layout.tableStart) % layout.tableSectors, Nat.mod_lt _ widths, ?_⟩
  · rw [Nat.div_lt_iff_lt_mul widths]
    simp only [rootStart] at last
    omega
  · simp only [start]
    omega

/-- Every sector from the first data cluster to the end of the last one belongs to one of
the data clusters. -/
theorem exists_cluster (usable : layout.Usable) (first : layout.dataStart ≤ lba)
    (last : lba < layout.dataEnd) :
    ∃ number, layout.DataCluster number ∧ (cluster number).Holds layout lba := by
  have widths := usable.sectorsPerCluster_pos
  have populated := usable.two_le_maxCluster
  have split := Nat.div_add_mod' (lba - layout.dataStart) layout.sectorsPerCluster
  have below : (lba - layout.dataStart) / layout.sectorsPerCluster < layout.maxCluster - 1 := by
    obtain ⟨more, counted⟩ : ∃ more, layout.maxCluster = more + 2 :=
      ⟨layout.maxCluster - 2, by omega⟩
    have clusters : layout.maxCluster - 1 = more + 1 := by omega
    rw [Nat.div_lt_iff_lt_mul widths, clusters, Nat.succ_mul]
    simp only [dataEnd, clusterStart] at last
    rw [counted, Nat.add_sub_cancel] at last
    omega
  have data : layout.DataCluster ((lba - layout.dataStart) / layout.sectorsPerCluster + 2) :=
    ⟨Nat.le_add_left _ _, Nat.add_le_of_le_sub populated (Nat.le_sub_one_of_lt below)⟩
  refine ⟨_, data, (lba - layout.dataStart) % layout.sectorsPerCluster, Nat.mod_lt _ widths, ?_⟩
  simp only [start, clusterStart, Nat.add_sub_cancel]
  omega

/-- Every sector from the first table copy to the end of the last cluster belongs to a
region. -/
theorem exists_holds (usable : layout.Usable) (first : layout.tableStart ≤ lba)
    (last : lba < layout.dataEnd) : ∃ region, Exists layout region ∧ region.Holds layout lba := by
  by_cases tabled : lba < layout.rootStart
  · obtain ⟨copy, stored, holds⟩ := exists_table usable first tabled
    exact ⟨table copy, stored, holds⟩
  · by_cases rooted : lba < layout.dataStart
    · refine ⟨root, trivial, lba - layout.rootStart, ?_, ?_⟩
      · simp only [size]
        simp only [dataStart] at rooted
        omega
      · simp only [start]
        omega
    · obtain ⟨number, data, holds⟩ := exists_cluster usable (Nat.not_lt.mp rooted) last
      exact ⟨cluster number, data, holds⟩

/-- The regions cover the sectors from the first table copy to the end of the last cluster,
each sector once, and no other. -/
theorem existsUnique_holds_iff (usable : layout.Usable) :
    (∃! region, Exists layout region ∧ region.Holds layout lba) ↔
      layout.tableStart ≤ lba ∧ lba < layout.dataEnd := by
  constructor
  · rintro ⟨region, ⟨there, holds⟩, _⟩
    have bounds := holds.in_zone there
    have roots := layout.rootStart_le_dataStart
    have ends := layout.dataStart_le_dataEnd
    have tables : layout.tableStart ≤ layout.rootStart := Nat.le_add_right _ _
    cases region <;> simp only [zone] at bounds <;> omega
  · rintro ⟨first, last⟩
    obtain ⟨region, there, holds⟩ := exists_holds usable first last
    exact ⟨region, ⟨there, holds⟩, fun other ⟨present, among⟩ => among.unique holds present there⟩

end Region

/-! ## Entries -/

/-- Both bytes of an entry lie in the sector where it is sought, and that is a sector of the
copy. -/
def EntryInside (layout : Layout) (copy cluster : Nat) : Prop :=
  (Region.table copy).Holds layout (layout.linkSector copy cluster) ∧
    ∀ offset, layout.InLink copy cluster offset →
      offset / 512 = layout.linkSector copy cluster

/-- The entry of a cluster lies inside a copy of the table if and only if the copy has as
many entries. -/
theorem entryInside_iff (copy cluster : Nat) :
    layout.EntryInside copy cluster ↔ cluster < layout.tableSectors * 256 := by
  rw [← Nat.div_lt_iff_lt_mul (by decide)]
  constructor
  · rintro ⟨⟨place, inside, same⟩, _⟩
    simp only [Region.size] at inside
    simp only [linkSector, Region.start] at same
    omega
  · intro inside
    refine ⟨⟨cluster / 256, inside, rfl⟩, fun offset among => ?_⟩
    simp only [InLink, linkOffset] at among
    simp only [linkSector]
    omega

/-- The table admits exactly the cluster numbers that have an entry inside every copy and
are none of the values reserved as marks. -/
theorem le_tableLimit_iff (usable : layout.Usable) (number : Nat) :
    number ≤ layout.tableLimit ↔ number ≤ 0xFFF6 ∧ ∀ copy < layout.tableCopies,
      layout.EntryInside copy number := by
  have tables := usable.tableSectors_pos
  have copies := usable.tableCopies_pos
  simp only [tableLimit, entryInside_iff]
  constructor
  · intro limited
    exact ⟨by omega, fun _ _ => by omega⟩
  · rintro ⟨unmarked, inside⟩
    have first := inside 0 copies
    omega

/-- A boot sector that counts no sectors, or counts more than lie in front of the data region,
has as its highest number the highest whose entry lies inside each copy and whose cluster, where
sectors are counted, lies among them. -/
theorem maxCluster_isGreatest (usable : layout.Usable)
    (counted : layout.totalSectors = 0 ∨ layout.dataStart - layout.base < layout.totalSectors) :
    IsGreatest {number | number ≤ 0xFFF6 ∧
      (∀ copy < layout.tableCopies, layout.EntryInside copy number) ∧
      (layout.totalSectors ≠ 0 → layout.clusterStart number + layout.sectorsPerCluster ≤
        layout.base + layout.totalSectors)} layout.maxCluster := by
  have populated := usable.two_le_maxCluster
  have starts := layout.base_le_dataStart
  constructor
  · obtain ⟨unmarked, inside⟩ :=
      (le_tableLimit_iff usable _).mp layout.maxCluster_le_tableLimit
    refine ⟨unmarked, inside, fun some => ?_⟩
    have reached : layout.dataStart < layout.base + layout.totalSectors := by omega
    exact dataEnd_le_of_reached populated reached
  · rintro number ⟨unmarked, inside, among⟩
    have limited := (le_tableLimit_iff usable number).mpr ⟨unmarked, inside⟩
    by_cases reached : layout.dataStart - layout.base < layout.totalSectors
    · rcases Nat.lt_or_ge number 2 with low | data
      · omega
      · have last := among (by omega)
        obtain ⟨more, named⟩ : ∃ more, number = more + 2 := ⟨number - 2, by omega⟩
        rw [named, clusterStart, Nat.add_sub_cancel] at last
        have whole : (more + 1) * layout.sectorsPerCluster ≤
            layout.totalSectors - (layout.dataStart - layout.base) := by
          rw [Nat.succ_mul]
          omega
        have clusters := (Nat.le_div_iff_mul_le usable.sectorsPerCluster_pos).mpr whole
        rw [maxCluster, if_pos reached, Nat.le_min]
        exact ⟨by omega, limited⟩
    · rw [maxCluster, if_neg reached]
      exact limited

/-! ## Boundaries in machine words -/

/-- The numbers that are worked out from a boot sector. -/
structure Boundaries where
  tableStart : Nat
  rootSectors : Nat
  rootStart : Nat
  dataStart : Nat
  maxCluster : Nat
  deriving DecidableEq

/-- The boundaries of a layout, in unbounded arithmetic. -/
def boundaries (layout : Layout) : Boundaries :=
  ⟨layout.tableStart, layout.rootSectors, layout.rootStart, layout.dataStart, layout.maxCluster⟩

/-- The highest cluster number worked out in machine words, from the number of sectors in
front of the data region and from the bound that the table sets. -/
def evaluateHighest (layout : Layout) (dataOffset tableLimit : Nat) : Option Nat :=
  if dataOffset < layout.totalSectors then do
    let left ← Word.subtract layout.totalSectors dataOffset
    let clusters ← Word.divide left layout.sectorsPerCluster
    let last ← Word.add 64 clusters 1
    Word.narrow 32 (min last tableLimit)
  else some tableLimit

/-- The boundaries worked out step by step in machine words. Addresses have 64 bits, sizes 32,
and the highest cluster number is stored in 16. -/
def evaluate (layout : Layout) : Option Boundaries := do
  let tableStart ← Word.add 64 layout.base layout.reservedSectors
  let rootBytes ← Word.multiply 32 layout.rootEntries 32
  let full ← Word.divide rootBytes 512
  let rootSectors ← Word.add 32 full (if rootBytes % 512 = 0 then 0 else 1)
  let tables ← Word.multiply 64 layout.tableCopies layout.tableSectors
  let rootStart ← Word.add 64 tableStart tables
  let dataStart ← Word.add 64 rootStart rootSectors
  let entries ← Word.multiply 32 layout.tableSectors 256
  let highest ← Word.subtract entries 1
  let dataOffset ← Word.subtract dataStart layout.base
  let maxCluster ← layout.evaluateHighest dataOffset (min highest 0xFFF6)
  let stored ← Word.narrow 16 maxCluster
  return ⟨tableStart, rootSectors, rootStart, dataStart, stored⟩

/-- Working out the highest cluster number in machine words leaves none of them, and gives
the one that the layout has. -/
theorem evaluateHighest_eq (usable : layout.Usable) :
    layout.evaluateHighest (layout.dataStart - layout.base) layout.tableLimit =
      some layout.maxCluster := by
  have clusterSized := usable.sectorsPerCluster_pos
  have counted := usable.totalSectors_lt
  have limit : layout.tableLimit ≤ 0xFFF6 := Nat.min_le_right _ _
  by_cases reached : layout.dataStart - layout.base < layout.totalSectors
  · have fewer : (layout.totalSectors - (layout.dataStart - layout.base)) /
        layout.sectorsPerCluster ≤ layout.totalSectors :=
      (Nat.div_le_self _ _).trans (Nat.sub_le _ _)
    have left := Word.subtract_of_le (Nat.le_of_lt reached)
    have clusters : Word.divide (layout.totalSectors - (layout.dataStart - layout.base))
        layout.sectorsPerCluster = some _ := Word.divide_of_pos clusterSized
    have last : Word.add 64
        ((layout.totalSectors - (layout.dataStart - layout.base)) / layout.sectorsPerCluster) 1 =
        some _ := Word.add_of_lt (by omega)
    simp only [evaluateHighest, if_pos reached, Option.bind_eq_bind, left, clusters, last,
      Option.bind_some]
    rw [maxCluster, if_pos reached]
    exact Word.narrow_of_lt (by omega)
  · rw [evaluateHighest, if_neg reached, maxCluster, if_neg reached]

/-- Working out all boundaries of a usable layout in machine words leaves none of them, if
the data region begins at an address of 64 bits. -/
theorem evaluate_eq (usable : layout.Usable) (addressed : layout.dataStart < 2 ^ 64) :
    layout.evaluate = some layout.boundaries := by
  have tableSized := usable.tableSectors_pos
  have tableSmall := usable.tableSectors_lt
  have rootSmall := usable.rootEntries_lt
  have starts := layout.base_le_dataStart
  have root : layout.dataStart = layout.rootStart + layout.rootSectors := rfl
  have tables : layout.rootStart =
      layout.tableStart + layout.tableCopies * layout.tableSectors := rfl
  have table : layout.tableStart = layout.base + layout.reservedSectors := rfl
  have reserved : Word.add 64 layout.base layout.reservedSectors = some layout.tableStart :=
    Word.add_of_lt (by omega)
  have rootBytes : Word.multiply 32 layout.rootEntries 32 = some (layout.rootEntries * 32) :=
    Word.multiply_of_lt (by omega)
  have full : Word.divide (layout.rootEntries * 32) 512 = some (layout.rootEntries * 32 / 512) :=
    Word.divide_of_pos (by decide)
  have rootSectors : Word.add 32 (layout.rootEntries * 32 / 512)
      (if layout.rootEntries * 32 % 512 = 0 then 0 else 1) = some layout.rootSectors := by
    -- The number of root sectors is rounded up by one division and one comparison.
    have rounded : layout.rootSectors = layout.rootEntries * 32 / 512 +
        (if layout.rootEntries * 32 % 512 = 0 then 0 else 1) := by
      simp only [Layout.rootSectors]
      split <;> omega
    rw [rounded]
    exact Word.add_of_lt (by split <;> omega)
  have copies : Word.multiply 64 layout.tableCopies layout.tableSectors =
      some (layout.tableCopies * layout.tableSectors) := Word.multiply_of_lt (by omega)
  have rootStart : Word.add 64 layout.tableStart (layout.tableCopies * layout.tableSectors) =
      some layout.rootStart := Word.add_of_lt (by omega)
  have dataStart : Word.add 64 layout.rootStart layout.rootSectors = some layout.dataStart :=
    Word.add_of_lt (by omega)
  have entries : Word.multiply 32 layout.tableSectors 256 = some (layout.tableSectors * 256) :=
    Word.multiply_of_lt (by omega)
  have highest : Word.subtract (layout.tableSectors * 256) 1 =
      some (layout.tableSectors * 256 - 1) := Word.subtract_of_le (by omega)
  have limit : min (layout.tableSectors * 256 - 1) 0xFFF6 = layout.tableLimit := rfl
  have offset : Word.subtract layout.dataStart layout.base =
      some (layout.dataStart - layout.base) := Word.subtract_of_le starts
  have stored : Word.narrow 16 layout.maxCluster = some layout.maxCluster := by
    have limited := layout.maxCluster_le_tableLimit
    exact Word.narrow_of_lt (by omega)
  simp only [evaluate, Option.bind_eq_bind, reserved, rootBytes, full, rootSectors, copies,
    rootStart, dataStart, entries, highest, offset, limit, evaluateHighest_eq usable, stored,
    Option.bind_some]
  rfl

end Layout

namespace Volume

/-- A volume has the boundaries that a boot sector at an address gives it, and can be worked
with. -/
structure Sound (base : Nat) (sector : Sector) (volume : Volume) : Prop where
  tableStart_eq : volume.tableStart = base + (wordAt sector 14).toNat
  rootStart_eq :
    volume.rootStart = volume.tableStart + sector[16].toNat * (wordAt sector 22).toNat
  dataStart_eq : volume.dataStart = volume.rootStart + volume.rootSectors
  /-- The root region has just as many sectors as its slots need. -/
  rootSectors_least : IsLeast {count | (wordAt sector 17).toNat * 32 ≤ count * 512}
    volume.rootSectors
  /-- The regions cover the volume, each sector once. -/
  tiled : ∀ lba, (∃! region : Layout.Region,
      region.Exists volume.toLayout ∧ region.Holds volume.toLayout lba) ↔
    volume.tableStart ≤ lba ∧ lba < volume.dataEnd
  /-- The highest number is stored in sixteen bits without loss. -/
  numbered : 2 ≤ volume.maxCluster ∧ volume.maxCluster ≤ 0xFFF6 ∧
    (UInt16.ofNat volume.maxCluster).toNat = volume.maxCluster
  entries : ∀ cluster ≤ volume.maxCluster, ∀ copy < volume.tableCopies,
    volume.EntryInside copy cluster
  clusters : ∀ cluster number lba, volume.DataCluster cluster → volume.DataCluster number →
    volume.InCluster cluster lba →
      volume.dataStart ≤ lba ∧ (volume.InCluster number lba → cluster = number)
  /-- The number of a data cluster, stored as a link, leads to the cluster. -/
  linked : ∀ cluster, volume.DataCluster cluster →
    Link.classify (UInt16.ofNat cluster) volume.maxCluster = .next cluster
  /-- No higher number than the highest would do. -/
  greatest : totalSectorsOf sector = 0 ∨ volume.dataStart - base < totalSectorsOf sector →
    IsGreatest {number | number ≤ 0xFFF6 ∧
      (∀ copy < volume.tableCopies, volume.EntryInside copy number) ∧
      (totalSectorsOf sector ≠ 0 → volume.clusterStart number + volume.sectorsPerCluster ≤
        base + totalSectorsOf sector)} volume.maxCluster
  /-- Machine words suffice for all that is worked out. -/
  words : volume.dataStart < 2 ^ 64 → volume.evaluate = some volume.boundaries

/-- What a boot sector describes is sound, wherever the volume starts and whatever sizes the
boot sector has, if it is accepted at all. -/
theorem sound_of_ofBootSector {base : Nat} {sector : Sector} {volume : Volume}
    (parsed : ofBootSector base sector = .ok volume) : Sound base sector volume := by
  have sizes := layout_of_ofBootSector parsed
  have based : volume.base = base := congrArg Layout.base sizes
  have counted : volume.totalSectors = totalSectorsOf sector := congrArg Layout.totalSectors sizes
  have limited := (Layout.le_tableLimit_iff volume.usable _).mp volume.maxCluster_le_tableLimit
  constructor
  case tableStart_eq => rw [sizes]; rfl
  case rootStart_eq => rw [sizes]; rfl
  case dataStart_eq => rfl
  case rootSectors_least =>
    rw [sizes]
    constructor
    · change (wordAt sector 17).toNat * 32 ≤ (layoutOf base sector).rootSectors * 512
      simp only [Layout.rootSectors, layoutOf]
      omega
    · intro count (enough : (wordAt sector 17).toNat * 32 ≤ count * 512)
      simp only [Layout.rootSectors, layoutOf]
      omega
  case tiled => exact fun lba => Layout.Region.existsUnique_holds_iff volume.usable
  case numbered =>
    have populated := volume.usable.two_le_maxCluster
    have highest : volume.DataCluster volume.maxCluster := ⟨populated, le_rfl⟩
    exact ⟨populated, limited.1, highest.toNat_ofNat⟩
  case entries =>
    intro cluster below copy stored
    have highest := (Layout.entryInside_iff copy _).mp (limited.2 copy stored)
    exact (Layout.entryInside_iff copy cluster).mpr (by omega)
  case clusters =>
    exact fun cluster number lba data numbered inside =>
      ⟨inside.dataStart_le, fun within => inside.unique within data numbered⟩
  case linked => exact fun cluster data => data.classify data.toNat_ofNat
  case greatest =>
    rw [← counted, ← based]
    exact Layout.maxCluster_isGreatest volume.usable
  case words => exact Layout.evaluate_eq volume.usable

/-- The small volume at the last addresses of 64 bits. -/
def topmost : Volume where
  toLayout := { small.toLayout with base := 2 ^ 64 - 20 }
  usable := by constructor <;> decide

/-- It is accepted there, and no step of working it out leaves its word although its last
cluster ends with the last address. -/
theorem sound_of_ofBootSector_topmost :
    ofBootSector (2 ^ 64 - 20) smallSector = .ok topmost ∧ topmost.dataEnd = 2 ^ 64 ∧
      topmost.evaluate = some ⟨2 ^ 64 - 19, 1, 2 ^ 64 - 17, 2 ^ 64 - 16, 9⟩ ∧
      IsGreatest {number | number ≤ 0xFFF6 ∧
        (∀ copy < topmost.tableCopies, topmost.EntryInside copy number) ∧
        (totalSectorsOf smallSector ≠ 0 → topmost.clusterStart number + topmost.sectorsPerCluster ≤
          2 ^ 64 - 20 + totalSectorsOf smallSector)} topmost.maxCluster := by
  have parsed : ofBootSector (2 ^ 64 - 20) smallSector = .ok topmost := by decide +kernel
  have sound := sound_of_ofBootSector parsed
  have worked : topmost.boundaries = ⟨2 ^ 64 - 19, 1, 2 ^ 64 - 17, 2 ^ 64 - 16, 9⟩ := by
    decide +kernel
  refine ⟨parsed, by decide +kernel, ?_, sound.greatest (.inr (by decide +kernel))⟩
  rw [sound.words (by decide +kernel), worked]

end Volume

end FatVolume
