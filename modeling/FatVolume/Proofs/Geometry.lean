import FatVolume.Table

/-!
# The regions of a volume

The sectors behind the reserved ones are divided into the table copies, the root
region and the clusters. An address belongs to at most one of them, and within each
to one entry sector, root sector or sector of a cluster: the maps from numbers to
addresses are injective as long as the numbers are in range.

These are facts about sizes alone; no operation is run here.
-/

namespace FatVolume.Layout

variable {layout : Layout}

/-- The number of a data cluster, as opposed to a marker or a number without a cluster. -/
def DataCluster (layout : Layout) (cluster : Nat) : Prop :=
  2 ≤ cluster ∧ cluster ≤ layout.maxCluster

/-- The first address behind the last cluster. -/
def dataEnd (layout : Layout) : Nat :=
  layout.clusterStart layout.maxCluster + layout.sectorsPerCluster

/-- The address belongs to a table copy, to the root region, or to a data cluster. -/
def Owns (layout : Layout) (lba : Nat) : Prop :=
  (layout.tableStart ≤ lba ∧ lba < layout.rootStart) ∨
    (layout.rootStart ≤ lba ∧ lba < layout.rootStart + layout.rootSectors) ∨
      ∃ cluster sector, layout.DataCluster cluster ∧ sector < layout.sectorsPerCluster ∧
        lba = layout.clusterStart cluster + sector

/-- A cluster has bytes, so that a position in a file can be counted in clusters and the
rest in bytes. -/
theorem Usable.clusterBytes_pos (usable : layout.Usable) : 0 < layout.clusterBytes :=
  Nat.mul_pos usable.sectorsPerCluster_pos (by decide)

/-- The test of a cluster number accepts exactly the data clusters. Every use of a number
that was read from a disk rests on it. -/
theorem checkCluster_ok_iff (cluster : Nat) :
    layout.checkCluster cluster = .ok () ↔ layout.DataCluster cluster := by
  simp only [checkCluster, DataCluster]
  split
  · next low => simp only [reduceCtorEq, false_iff]; omega
  · split
    · next high => simp only [reduceCtorEq, false_iff]; omega
    · next low high => simp only [true_iff]; omega

/-- A number without a cluster is refused for what it is: one of the two reserved ones, or
one that no chain can lead to. -/
theorem checkCluster_refused {cluster : Nat} (other : ¬ layout.DataCluster cluster) :
    layout.checkCluster cluster =
      .error (if cluster < 2 then .reservedCluster else .brokenChain) := by
  simp only [checkCluster]
  split
  · rfl
  · next low => rw [if_pos (Nat.lt_of_not_le fun high => other ⟨Nat.not_lt.mp low, high⟩)]

/-- The table bounds the cluster numbers: there is an entry for each of them. -/
theorem maxCluster_le_tableLimit (layout : Layout) : layout.maxCluster ≤ layout.tableLimit := by
  simp only [maxCluster]
  split <;> omega

/-- No data cluster has the number of a marker, so a cluster number fits a table entry and
is read back as what it is. -/
theorem DataCluster.lt_marker {cluster : Nat} (data : layout.DataCluster cluster) :
    cluster < 0xFFF7 := by
  have limited := layout.maxCluster_le_tableLimit
  simp only [tableLimit] at limited
  have bounded := data.2
  omega

/-- The entry of a data cluster lies inside a single copy of the table; there is no entry
that would be sought in the next copy. -/
theorem DataCluster.div_lt_tableSectors {cluster : Nat} (data : layout.DataCluster cluster) :
    cluster / 256 < layout.tableSectors := by
  have limited := layout.maxCluster_le_tableLimit
  simp only [tableLimit] at limited
  obtain ⟨low, high⟩ := data
  omega

/-- The number of a data cluster is stored in 16 bits without loss. -/
theorem DataCluster.toNat_ofNat {cluster : Nat} (data : layout.DataCluster cluster) :
    (UInt16.ofNat cluster).toNat = cluster := by
  have bounded := data.lt_marker
  rw [UInt16.toNat_ofNat']
  omega

/-- The stored number of a data cluster is no mark of a free cluster, so a link to it
claims the cluster in which it stands. -/
theorem DataCluster.ofNat_ne_zero {cluster : Nat} (data : layout.DataCluster cluster) :
    UInt16.ofNat cluster ≠ 0 := by
  intro zero
  have same := data.toNat_ofNat
  have low := data.1
  rw [zero] at same
  change 0 = cluster at same
  omega

/-- A position in consecutive blocks of one width tells the block and the place in it.
Sectors in clusters and entries in sectors are both told apart in this way. -/
theorem block_unique {width index number remainder place : Nat} (inside : remainder < width)
    (within : place < width) (same : index * width + remainder = number * width + place) :
    index = number ∧ remainder = place := by
  have quotient (block rest : Nat) (small : rest < width) : (block * width + rest) / width = block := by
    rw [Nat.add_comm, Nat.add_mul_div_right _ _ (by omega), Nat.div_eq_of_lt small, Nat.zero_add]
  have blocks : index = number := by
    have divided := congrArg (· / width) same
    simpa only [quotient index _ inside, quotient number _ within] using divided
  subst blocks
  exact ⟨rfl, by omega⟩

/-- An entry is sought inside the copy that is meant, between the start of that copy and
the start of the next one. -/
theorem linkSector_in_copy (copy : Nat) {cluster : Nat} (data : layout.DataCluster cluster) :
    layout.tableStart + copy * layout.tableSectors ≤ layout.linkSector copy cluster ∧
      layout.linkSector copy cluster <
        layout.tableStart + (copy + 1) * layout.tableSectors := by
  have inside := data.div_lt_tableSectors
  simp only [linkSector]
  rw [Nat.succ_mul]
  omega

/-- An entry in an existing copy lies in front of the root region, so writing links cannot
touch the root directory. -/
theorem linkSector_lt_rootStart {copy cluster : Nat} (data : layout.DataCluster cluster)
    (stored : copy < layout.tableCopies) :
    layout.linkSector copy cluster < layout.rootStart := by
  have inside := (linkSector_in_copy copy data).2
  have copies : (copy + 1) * layout.tableSectors ≤ layout.tableCopies * layout.tableSectors :=
    Nat.mul_le_mul_right _ stored
  simp only [rootStart]
  omega

/-- Entries share a sector only in one copy, and with the same number of sectors
before them. -/
theorem linkSector_inj {copy other cluster number : Nat} (data : layout.DataCluster cluster)
    (numbered : layout.DataCluster number)
    (same : layout.linkSector copy cluster = layout.linkSector other number) :
    copy = other ∧ cluster / 256 = number / 256 := by
  have inside := data.div_lt_tableSectors
  have within := numbered.div_lt_tableSectors
  simp only [linkSector] at same
  exact block_unique inside within (by omega)

/-- The slots of the root directory lie inside the root region, also where they do not
fill its last sector. -/
theorem rootSector_lt {taken : Nat} (inside : taken < layout.rootEntries) :
    taken / 16 < layout.rootSectors := by
  simp only [rootSectors]
  omega

/-- The sectors of different clusters, and different sectors of one, have different
addresses. -/
theorem clusterSector_inj {cluster number sector place : Nat}
    (data : layout.DataCluster cluster) (numbered : layout.DataCluster number)
    (inside : sector < layout.sectorsPerCluster) (within : place < layout.sectorsPerCluster)
    (same : layout.clusterStart cluster + sector = layout.clusterStart number + place) :
    cluster = number ∧ sector = place := by
  simp only [clusterStart] at same
  have blocks : (cluster - 2) * layout.sectorsPerCluster + sector =
      (number - 2) * layout.sectorsPerCluster + place := by omega
  obtain ⟨clusters, sectors⟩ := block_unique inside within blocks
  have low := data.1
  have least := numbered.1
  exact ⟨by omega, sectors⟩

/-- The data region begins no later than any of its clusters, whatever the number of the
cluster. -/
theorem dataStart_le_clusterStart (cluster : Nat) :
    layout.dataStart ≤ layout.clusterStart cluster := Nat.le_add_right _ _

/-- No sector of a data cluster lies behind the end of the data region. This is where the
number of clusters and their width meet. -/
theorem clusterSector_lt_dataEnd {cluster sector : Nat} (data : layout.DataCluster cluster)
    (inside : sector < layout.sectorsPerCluster) :
    layout.clusterStart cluster + sector < layout.dataEnd := by
  have skipped : (cluster - 2) * layout.sectorsPerCluster ≤
      (layout.maxCluster - 2) * layout.sectorsPerCluster :=
    Nat.mul_le_mul_right _ (Nat.sub_le_sub_right data.2 2)
  simp only [dataEnd, clusterStart]
  omega

/-- The root region does not begin behind the data region; it may be empty as far as this
goes. -/
theorem rootStart_le_dataStart (layout : Layout) : layout.rootStart ≤ layout.dataStart :=
  Nat.le_add_right _ _

/-- The data region does not end before it begins. -/
theorem dataStart_le_dataEnd (layout : Layout) : layout.dataStart ≤ layout.dataEnd :=
  Nat.le_trans (Nat.le_add_right _ _) (Nat.le_add_right _ _)

/-- Whatever a volume owns lies in front of the end of its data region, which is thus the
one bound that a disk has to reach. -/
theorem Owns.lt_dataEnd {lba : Nat} (owned : layout.Owns lba) : lba < layout.dataEnd := by
  have roots := layout.rootStart_le_dataStart
  have ends := layout.dataStart_le_dataEnd
  rcases owned with ⟨_, table⟩ | ⟨_, root⟩ | ⟨cluster, sector, data, inside, rfl⟩
  · omega
  · have same : layout.dataStart = layout.rootStart + layout.rootSectors := rfl
    omega
  · exact clusterSector_lt_dataEnd data inside

/-- The sector of an entry in an existing table copy belongs to the volume. -/
theorem owns_linkSector {copy cluster : Nat} (data : layout.DataCluster cluster)
    (stored : copy < layout.tableCopies) : layout.Owns (layout.linkSector copy cluster) :=
  .inl ⟨by unfold linkSector; omega, linkSector_lt_rootStart data stored⟩

/-- The sector of a slot of the root directory belongs to the volume. -/
theorem owns_rootSector {taken : Nat} (inside : taken < layout.rootEntries) :
    layout.Owns (layout.rootStart + taken / 16) :=
  .inr (.inl ⟨Nat.le_add_right _ _, Nat.add_lt_add_left (rootSector_lt inside) _⟩)

/-- Each sector of a data cluster belongs to the volume. -/
theorem owns_clusterSector {cluster sector : Nat} (data : layout.DataCluster cluster)
    (inside : sector < layout.sectorsPerCluster) :
    layout.Owns (layout.clusterStart cluster + sector) :=
  .inr (.inr ⟨cluster, sector, data, inside, rfl⟩)

/-! ## Regions of sectors -/

/-- The address is that of a sector with root slots. -/
def InRoot (layout : Layout) (lba : Nat) : Prop :=
  ∃ taken < layout.rootEntries, lba = layout.rootStart + taken / 16

/-- The address is that of a sector of a cluster. -/
def InCluster (layout : Layout) (cluster lba : Nat) : Prop :=
  ∃ sector < layout.sectorsPerCluster, lba = layout.clusterStart cluster + sector

/-- A sector of the root region lies behind the table copies and in front of the data
region. -/
theorem InRoot.bounds {lba : Nat} (inside : layout.InRoot lba) :
    layout.rootStart ≤ lba ∧ lba < layout.dataStart := by
  obtain ⟨taken, below, rfl⟩ := inside
  have low := rootSector_lt below
  simp only [dataStart]
  omega

/-- A sector of a cluster lies in the data region, and so neither in the root region nor
in a table copy. -/
theorem InCluster.dataStart_le {cluster lba : Nat} (inside : layout.InCluster cluster lba) :
    layout.dataStart ≤ lba := by
  obtain ⟨sector, _, rfl⟩ := inside
  exact Nat.le_trans (dataStart_le_clusterStart cluster) (Nat.le_add_right _ _)

/-- A sector belongs to one data cluster. Chains without a common cluster have no sector
in common either. -/
theorem InCluster.unique {cluster number lba : Nat} (inside : layout.InCluster cluster lba)
    (within : layout.InCluster number lba) (data : layout.DataCluster cluster)
    (numbered : layout.DataCluster number) : cluster = number := by
  obtain ⟨sector, bounded, rfl⟩ := inside
  obtain ⟨place, below, same⟩ := within
  exact (clusterSector_inj data numbered bounded below same).1

/-- The address is owned, and lies in the root region only if that may be entered. -/
def Reaches (layout : Layout) (rooted : Prop) (lba : Nat) : Prop :=
  layout.Owns lba ∧ (layout.InRoot lba → rooted)

/-- What lies outside the root region is reached whether or not the root region may be
entered. -/
theorem Reaches.outside {rooted : Prop} {lba : Nat} (reached : layout.Reaches False lba) :
    layout.Reaches rooted lba := ⟨reached.1, fun inside => (reached.2 inside).elim⟩

/-- Table entries are reached without entering the root region. -/
theorem reaches_linkSector {copy cluster : Nat} (data : layout.DataCluster cluster)
    (stored : copy < layout.tableCopies) :
    layout.Reaches False (layout.linkSector copy cluster) := by
  refine ⟨owns_linkSector data stored, fun inside => ?_⟩
  have before := linkSector_lt_rootStart data stored
  have bounds := inside.bounds
  omega

/-- A slot of the root directory is reached by an operation that may enter the root
region. -/
theorem reaches_rootSector {rooted : Prop} (enters : rooted) {taken : Nat}
    (inside : taken < layout.rootEntries) :
    layout.Reaches rooted (layout.rootStart + taken / 16) :=
  ⟨owns_rootSector inside, fun _ => enters⟩

/-- The sectors of data clusters are reached without entering the root region. -/
theorem reaches_clusterSector {cluster sector : Nat} (data : layout.DataCluster cluster)
    (inside : sector < layout.sectorsPerCluster) :
    layout.Reaches False (layout.clusterStart cluster + sector) := by
  refine ⟨owns_clusterSector data inside, fun among => ?_⟩
  have behind := layout.dataStart_le_clusterStart cluster
  have bounds := among.bounds
  omega

end FatVolume.Layout

namespace FatVolume

/-- A volume of twenty sectors with two table copies, one sector of root slots and
clusters of two sectors, for examples. -/
def Volume.small : Volume where
  base := 0
  sectorsPerCluster := 2
  reservedSectors := 1
  tableCopies := 2
  rootEntries := 16
  tableSectors := 1
  totalSectors := 20
  usable := by constructor <;> decide

end FatVolume
