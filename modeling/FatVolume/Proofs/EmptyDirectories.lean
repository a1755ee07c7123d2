import FatVolume.Proofs.Confinement.Requests
import FatVolume.Proofs.Formatted
import FatVolume.Proofs.Insertion
import FatVolume.Proofs.TableBytes

/-!
# Empty directories

A cluster that is made an empty directory holds two entries, one for the directory itself and
one for its parent, and end markers in all other slots, whatever it held before. The bytes
outside of the cluster are left alone on every disk, whether or not the operation is cut
short; what a cluster holds that was filled in part is not said here.

A number without a cluster, be it that of the directory or of its parent, is refused before
the disk is asked for anything. The number of the parent is tested first.
-/

namespace FatVolume

namespace Volume

/-- What a slot of an empty directory holds, by its sector and its place there. -/
def emptySlot (cluster : Nat) (parent : Directory) (sector : Nat) (index : Fin 16) : Slot :=
  if sector = 0 ∧ index = 0 then .live (Entry.directory ShortName.self cluster)
  else if sector = 0 ∧ index = 1 then .live (Entry.directory ShortName.parent parent.cluster)
  else .endMarker

end Volume

namespace Medium

variable {medium : Medium} {volume : Volume} {cluster : Nat} {parent : Directory}

/-- Each slot of a cluster that is filled as an empty directory is decoded as what it
should hold: its two entries first, and end markers in all others. -/
theorem Filled.decode (filled : medium.Filled volume cluster parent) {sector : Nat}
    (inside : sector < volume.sectorsPerCluster) (index : Fin 16) :
    Slot.decode ((medium (volume.clusterStart cluster + sector)).record index) =
      Volume.emptySlot cluster parent sector index := by
  rcases Nat.eq_zero_or_pos sector with rfl | later
  · rw [filled.first]
    by_cases first : index = 0
    · rw [first, decode_firstSector_self]
      rfl
    · by_cases second : index = 1
      · rw [second, decode_firstSector_parent]
        rfl
      · rw [decode_firstSector_other cluster parent first second, Volume.emptySlot,
          if_neg fun both => first both.2, if_neg fun both => second both.2]
  · have behind : ¬ sector = 0 := Nat.ne_of_gt later
    rw [filled.blank _ ⟨sector, inside, rfl⟩ (by omega), Slot.decode_zero, Volume.emptySlot,
      if_neg fun both => behind both.1, if_neg fun both => behind both.1]

end Medium

namespace Volume

variable {volume : Volume} {cluster : Nat} {parent : Directory} {host : Host}

/-- Filling a cluster below a parent whose number is no data cluster fails, as a reserved
or a broken one, and touches nothing. -/
theorem initialiseDirectory_of_parent {above : Nat} (foreign : ¬ volume.DataCluster above) :
    volume.initialiseDirectory cluster (.chain above) host =
      .error (if above < 2 then .reservedCluster else .brokenChain) host := by
  simp only [initialiseDirectory, Layout.checkCluster_refused foreign]
  rfl

/-- Filling a cluster whose number is that of no data cluster fails, as a reserved or a
broken one, and touches nothing. -/
theorem initialiseDirectory_of_cluster
    (above : ∀ number, parent = .chain number → volume.DataCluster number)
    (foreign : ¬ volume.DataCluster cluster) :
    volume.initialiseDirectory cluster parent host =
      .error (if cluster < 2 then .reservedCluster else .brokenChain) host := by
  have refused := Layout.checkCluster_refused foreign
  cases parent with
  | root =>
    simp only [initialiseDirectory, zeroCluster, refused]
    rfl
  | chain number =>
    have checked := (Layout.checkCluster_ok_iff number).mpr (above number rfl)
    simp only [initialiseDirectory, zeroCluster, refused, checked]
    rfl

/-- Whatever the disk refuses while a cluster is filled as an empty directory, every
sector outside of it is left alone. -/
theorem initialiseDirectory_outside (volume : Volume) (host : Host) (cluster : Nat)
    (parent : Directory) {lba : Nat} (outside : ¬ volume.InCluster cluster lba) :
    (afterwards (volume.initialiseDirectory cluster parent) host).medium lba = host.medium lba := by
  by_cases above : ∀ number, parent = .chain number → volume.DataCluster number
  · by_cases data : volume.DataCluster cluster
    · obtain ⟨done, begun, left⟩ := (initialiseDirectory_performs data above host rfl).leaves
      rw [left]
      exact Medium.apply_outside
        (fun write member => Medium.mem_initialWrites (begun.mem member)) outside
    · rw [(ran_error_iff.mp (initialiseDirectory_of_cluster above data)).2]
  · obtain ⟨number, rfl, foreign⟩ : ∃ number, parent = .chain number ∧
        ¬ volume.DataCluster number := by
      simpa only [not_forall, exists_prop] using above
    rw [(ran_error_iff.mp (initialiseDirectory_of_parent foreign)).2]

/-- A data cluster becomes an empty directory where nothing is refused. A number without a
cluster is refused at once. No byte outside of the cluster changes, whatever is refused. -/
theorem initialiseDirectory_fills (volume : Volume) (host : Host) (cluster : Nat)
    (parent : Directory) :
    let after := afterwards (volume.initialiseDirectory cluster parent) host
    (volume.DataCluster cluster →
      (∀ above, parent = .chain above → volume.DataCluster above) →
      host.disk.sectorSize = 512 → host.Undisturbed after →
        outcome (volume.initialiseDirectory cluster parent) host = .ok () ∧
        (∀ sector < volume.sectorsPerCluster, ∀ index : Fin 16,
          Slot.decode ((after.disk.sector (volume.clusterStart cluster + sector)).record index) =
            emptySlot cluster parent sector index) ∧
        (Entry.directory ShortName.self cluster).cluster.toNat = cluster ∧
        (Entry.directory ShortName.parent parent.cluster).cluster.toNat = parent.cluster) ∧
    (∀ above, parent = .chain above → ¬ volume.DataCluster above →
      volume.initialiseDirectory cluster parent host =
        .error (if above < 2 then .reservedCluster else .brokenChain) host) ∧
    ((∀ above, parent = .chain above → volume.DataCluster above) →
      ¬ volume.DataCluster cluster →
        volume.initialiseDirectory cluster parent host =
          .error (if cluster < 2 then .reservedCluster else .brokenChain) host) ∧
    ∀ offset, ¬ volume.InCluster cluster (offset / 512) →
      after.disk.byte offset = host.disk.byte offset := by
  intro after
  refine ⟨?filled, ?parent, initialiseDirectory_of_cluster, ?outside⟩
  case filled =>
    intro data above sized undisturbed
    obtain ⟨ended, left⟩ :=
      (initialiseDirectory_performs data above host rfl).carriedOut sized undisturbed
    -- Every sector of the cluster is written, so nothing of what it held is left.
    have filled : after.medium.Filled volume cluster parent := by
      rw [left]
      exact Medium.filled_of_initialWrites _ _ _ _
    refine ⟨ended, fun sector inside index => filled.decode inside index, data.toNat_ofNat, ?_⟩
    cases parent with
    | root => rfl
    | chain number => exact (above number rfl).toNat_ofNat
  case parent =>
    rintro above rfl foreign
    exact initialiseDirectory_of_parent foreign
  case outside =>
    intro offset outside
    change after.medium.byte offset = host.medium.byte offset
    exact Medium.byte_eq_of_sector (initialiseDirectory_outside volume host cluster parent outside)

/-- A host with a disk on which the last cluster of the small volume holds what was left
there. -/
def staleHost : Host where
  disk :=
    { capacity := 20
      contents := ((∅ : Std.TreeMap Nat Sector).insert 18 (Vector.replicate 512 0x41)).insert 19
        (Vector.replicate 512 0x41) }
  largestBlock := 4096

/-- The first slot behind the two entries and the last slot of the cluster held entries, and
mark the end afterwards. Below a number without a cluster nothing happens. -/
theorem initialiseDirectory_fills_stale :
    let after := afterwards (small.initialiseDirectory 9 (.chain 3)) staleHost
    small.DataCluster 9 ∧ small.DataCluster 3 ∧ staleHost.disk.sectorSize = 512 ∧
      staleHost.Undisturbed after ∧
      Slot.decode ((staleHost.disk.sector 19).record 15) ≠ .endMarker ∧
      Slot.decode ((after.disk.sector 19).record 15) = .endMarker ∧
      Slot.decode ((after.disk.sector 18).record 1) =
        .live (Entry.directory ShortName.parent 3) ∧
      ¬ small.DataCluster 10 ∧
      small.initialiseDirectory 9 (.chain 10) staleHost = .error .brokenChain staleHost ∧
      ¬ small.DataCluster 1 ∧
      small.initialiseDirectory 1 .root staleHost = .error .reservedCluster staleHost ∧
      ¬ small.InCluster 9 (9215 / 512) ∧ after.disk.byte 9215 = staleHost.disk.byte 9215 := by
  intro after
  have data : small.DataCluster 9 := by constructor <;> decide
  have above : small.DataCluster 3 := by constructor <;> decide
  have missing : ¬ small.DataCluster 10 := fun inside => absurd inside.2 (by decide)
  have reserved : ¬ small.DataCluster 1 := fun inside => absurd inside.1 (by decide)
  have parents : ∀ number, Directory.chain 3 = .chain number → small.DataCluster number := by
    rintro number ⟨⟩
    exact above
  have outside : ¬ small.InCluster 9 (9215 / 512) := by
    rintro ⟨sector, _, same⟩
    have start : small.clusterStart 9 = 18 := by decide
    omega
  have serves : staleHost.Serves small := .of_capacity rfl (by decide) fun _ _ => rfl
  have any (transfer : Transfer) : small.Reaches True transfer.lba → AnyTransfer transfer :=
    fun _ => trivial
  have confined := initialiseDirectory_confined any 9 (.chain 3)
  have calm : staleHost.Undisturbed after := (confined staleHost).1.served serves
  obtain ⟨filled, _, _, kept⟩ := initialiseDirectory_fills small staleHost 9 (.chain 3)
  obtain ⟨_, slots, _, _⟩ := filled data parents rfl calm
  refine ⟨data, above, rfl, calm, by decide +kernel, slots 1 (by decide) 15, slots 0 (by decide) 1,
    missing, (initialiseDirectory_fills small staleHost 9 (.chain 10)).2.1 10 rfl missing, reserved,
    (initialiseDirectory_fills small staleHost 1 .root).2.2.1 (by rintro _ ⟨⟩) reserved, outside,
    kept 9215 outside⟩

end Volume

end FatVolume
