import FatVolume.Proofs.Confinement.Regions
import FatVolume.Proofs.Formatted

/-!
# Volumes that tell their size

A boot sector may count the sectors of its volume. Where the count reaches behind the start
of the data region, the last cluster is chosen such that every sector of the volume is
counted, and no cluster that is handed out lies behind them. Where it does not reach so far
the count is passed over, and every cluster that is handed out lies behind all counted
sectors.

What a disk holds behind the counted sectors is not spoken of.
-/

namespace FatVolume

namespace Layout

variable {layout : Layout}

/-- The address is that of a sector that the boot sector counts. -/
def Counts (layout : Layout) (lba : Nat) : Prop :=
  layout.base ≤ lba ∧ lba < layout.base + layout.totalSectors

/-- The table copies, the root region and the clusters lie among the counted sectors. -/
def Fits (layout : Layout) : Prop := ∀ lba, layout.Owns lba → layout.Counts lba

/-- The data region begins no earlier than the volume itself, as reserved sectors, table
copies and root region stand in front of it. -/
theorem base_le_dataStart (layout : Layout) : layout.base ≤ layout.dataStart := by
  simp only [dataStart, rootStart, tableStart]
  omega

/-- Every sector that belongs to a layout lies behind its first one, be it in a table
copy, in the root region or in a cluster. -/
theorem Owns.base_le {lba : Nat} (owned : layout.Owns lba) : layout.base ≤ lba := by
  have starts := layout.base_le_dataStart
  rcases owned with ⟨table, _⟩ | ⟨root, _⟩ | ⟨cluster, sector, _, _, rfl⟩
  · simp only [tableStart] at table
    omega
  · simp only [rootStart, tableStart] at root
    omega
  · have behind := layout.dataStart_le_clusterStart cluster
    omega

/-- Where the counted sectors reach into the data region, no data cluster ends behind the
last of them. -/
theorem dataEnd_le_of_reached (populated : 2 ≤ layout.maxCluster)
    (reached : layout.dataStart < layout.base + layout.totalSectors) :
    layout.dataEnd ≤ layout.base + layout.totalSectors := by
  have starts := layout.base_le_dataStart
  have left : layout.dataStart - layout.base < layout.totalSectors := by omega
  have bounded : layout.maxCluster - 1 ≤
      (layout.totalSectors - (layout.dataStart - layout.base)) / layout.sectorsPerCluster := by
    simp only [maxCluster]
    rw [if_pos left]
    exact Nat.sub_le_of_le_add (Nat.min_le_left _ _)
  have whole : (layout.maxCluster - 1) * layout.sectorsPerCluster ≤
      layout.totalSectors - (layout.dataStart - layout.base) :=
    (Nat.mul_le_mul_right _ bounded).trans (Nat.div_mul_le_self _ _)
  obtain ⟨more, counted⟩ : ∃ more, layout.maxCluster = more + 2 := ⟨layout.maxCluster - 2, by omega⟩
  rw [counted, show more + 2 - 1 = more + 1 by omega, Nat.succ_mul] at whole
  rw [dataEnd, clusterStart, counted, Nat.add_sub_cancel]
  omega

/-- A layout lies among its counted sectors if and only if the count reaches into the data
region. -/
theorem Usable.fits_iff (usable : layout.Usable) :
    layout.Fits ↔ layout.dataStart < layout.base + layout.totalSectors := by
  constructor
  · intro fits
    have first : layout.Owns (layout.clusterStart 2 + 0) :=
      owns_clusterSector ⟨le_rfl, usable.two_le_maxCluster⟩ usable.sectorsPerCluster_pos
    have counted := (fits _ first).2
    have behind := layout.dataStart_le_clusterStart 2
    omega
  · intro reached lba owned
    have ends := dataEnd_le_of_reached usable.two_le_maxCluster reached
    exact ⟨owned.base_le, Nat.lt_of_lt_of_le owned.lt_dataEnd ends⟩

/-- A sector of a data cluster is one of those that belong to the layout. -/
theorem InCluster.owns {cluster lba : Nat} (inside : layout.InCluster cluster lba)
    (data : layout.DataCluster cluster) : layout.Owns lba := by
  obtain ⟨sector, within, rfl⟩ := inside
  exact owns_clusterSector data within

end Layout

namespace Volume

variable {volume : Volume} {host : Host} {cluster : Nat}

/-- The volume that a boot sector describes has exactly the sizes that stand in that
sector, none of them adjusted. -/
theorem layout_of_ofBootSector {base : Nat} {sector : Sector}
    (parsed : ofBootSector base sector = .ok volume) : volume.toLayout = layoutOf base sector := by
  simp only [ofBootSector] at parsed
  split_ifs at parsed
  cases parsed
  rfl

/-- An operation that claims clusters ends with this one for its caller. -/
inductive HandsOut (volume : Volume) (host : Host) (cluster : Nat) : Prop
  | allocated (ended : outcome volume.allocate host = .ok cluster)
  | extended (last : Nat) (ended : outcome (volume.extendChain last) host = .ok cluster)
  | created (path : List Char) (ended : outcome (volume.createDirectory path) host = .ok cluster)

/-- Only data clusters are handed out, by an allocation, an extension or a creation,
whatever the medium holds and the disk refuses. -/
theorem HandsOut.data (handed : volume.HandsOut host cluster) : volume.DataCluster cluster := by
  have any : ∀ transfer, AnyTransfer transfer := fun _ => trivial
  cases handed with
  | allocated ended => exact (allocate_confined any host).2 cluster ended
  | extended last ended => exact (extendChain_confined any last host).2 cluster ended
  | created path ended =>
    obtain ⟨_, _, performs, creates⟩ := createDirectory_performs host.medium volume path
    cases performs.intended_of_ok rfl ended
    cases creates with
    | created _ _ free => exact (Medium.firstFree_some free).1

/-- A volume lies among the sectors that its boot sector counts if and only if these reach
its data region, which an empty count never does. Nothing is then transferred behind them,
and every cluster that is handed out lies among them. Otherwise every cluster lies behind all
of them. -/
theorem fits_iff_reached {base : Nat} {sector : Sector}
    (parsed : ofBootSector base sector = .ok volume) :
    (volume.Fits ↔ volume.dataStart < base + totalSectorsOf sector) ∧
    (volume.Fits → ∀ host : Host,
      (∀ cluster, volume.HandsOut host cluster → ∀ lba, volume.InCluster cluster lba →
        base ≤ lba ∧ lba < base + totalSectorsOf sector) ∧
      ∀ path, ∃ events,
        (afterwards (volume.createDirectory path) host).trace = events ++ host.trace ∧
        ∀ attempt refusal, Event.transfer attempt refusal ∈ events →
          base ≤ attempt.lba ∧ attempt.lba < base + totalSectorsOf sector) ∧
    (¬ volume.Fits → ∀ cluster lba, volume.InCluster cluster lba →
      base + totalSectorsOf sector ≤ lba) := by
  have sizes := layout_of_ofBootSector parsed
  have based : volume.base = base := congrArg Layout.base sizes
  have counted : volume.totalSectors = totalSectorsOf sector := congrArg Layout.totalSectors sizes
  rw [← based, ← counted]
  have reached := volume.usable.fits_iff
  refine ⟨reached, fun fits host => ⟨?_, fun path => ?_⟩, fun behind cluster lba inside => ?_⟩
  · intro cluster handed lba inside
    exact fits lba (inside.owns handed.data)
  · have confined :
        Confined volume.toLayout AnyTransfer (volume.createDirectory path) fun _ => True :=
      createDirectory_confined (fun _ => trivial) path
    obtain ⟨events, traced, owned⟩ := (confined host).1.trace
    exact ⟨events, traced, fun attempt refusal member =>
      fits _ (owned attempt refusal member).1⟩
  · rw [reached] at behind
    have starts := inside.dataStart_le
    omega

/-- A boot sector with two table copies of one sector and with sixteen root entries. -/
def bootSector (sectorsPerCluster totalSectors : UInt8) : Sector :=
  ((((((((Sector.zero.set! 12 2).set! 13 sectorsPerCluster).set! 14 1).set! 16 2).set! 17
    16).set! 19 totalSectors).set! 22 1).set! 510 0x55).set! 511 0xAA

/-- A boot sector that counts four sectors, as many as lie in front of its data region. -/
def crowdedSector : Sector := bootSector 1 4

/-- The volume that it describes. -/
def crowded : Volume where
  base := 0
  sectorsPerCluster := 1
  reservedSectors := 1
  tableCopies := 2
  rootEntries := 16
  tableSectors := 1
  totalSectors := 4
  usable := by constructor <;> decide

/-- It is accepted although its data region begins behind the counted sectors, and its
first free cluster lies there. -/
theorem crowded_hands_out_behind :
    ofBootSector 0 crowdedSector = .ok crowded ∧ totalSectorsOf crowdedSector = 4 ∧
      ¬ crowded.Fits ∧ crowded.HandsOut (Host.untouched 300 4096 {}) 2 ∧
        ∀ lba, crowded.InCluster 2 lba → 4 ≤ lba := by
  have parsed : ofBootSector 0 crowdedSector = .ok crowded := by decide +kernel
  have counted : totalSectorsOf crowdedSector = 4 := by decide +kernel
  have overfull : ¬ crowded.Fits := fun fits =>
    absurd (crowded.usable.fits_iff.mp fits) (by decide)
  have free : crowded.HandsOut (Host.untouched 300 4096 {}) 2 := by
    have claims := allocate_performs (Host.untouched 300 4096 {}).medium crowded
    rw [Host.untouched_blankTable.firstFree] at claims
    have confined : Confined crowded.toLayout AnyTransfer crowded.allocate crowded.DataCluster :=
      allocate_confined fun _ => trivial
    exact .allocated ((claims _ rfl).completes confined (Host.untouched_serves (by decide))).1
  refine ⟨parsed, counted, overfull, free, fun lba inside => ?_⟩
  exact inside.dataStart_le

/-- The boot sector of a volume of twenty sectors. -/
def smallSector : Sector := bootSector 2 20

/-- A boot sector that counts twenty sectors is accepted, and every cluster that is handed
out on its volume lies among these. -/
theorem fits_iff_reached_small :
    ofBootSector 0 smallSector = .ok small ∧ small.Fits ∧
      ∀ host cluster, small.HandsOut host cluster → ∀ lba, small.InCluster cluster lba →
        0 ≤ lba ∧ lba < 0 + totalSectorsOf smallSector := by
  have parsed : ofBootSector 0 smallSector = .ok small := by decide +kernel
  obtain ⟨reached, inside, _⟩ := fits_iff_reached parsed
  have fits : small.Fits := reached.mpr (by decide +kernel)
  exact ⟨parsed, fits, fun host => (inside fits host).1⟩

end Volume

end FatVolume
