import FatVolume.Proofs.Extent
import FatVolume.Proofs.Service

/-!
# Mounting a volume again

A mounted volume keeps the sizes that stood in its boot sector, and never reads that sector
again. The boot sector counts itself among the reserved sectors, so where there are reserved
sectors no request can change it, and mounting again gives the same volume, whatever has been
asked meanwhile and whatever the disk has refused.

A boot sector that counts no reserved sector is accepted as well. The first table copy then
begins with the boot sector, and a claimed cluster overwrites a part of it.
-/

namespace FatVolume

/-- The boot sector lies in a table copy, and so among the sectors that are written to, if
and only if no sector is reserved. -/
theorem Layout.Usable.owns_base_iff {layout : Layout} (usable : layout.Usable) :
    layout.Owns layout.base ↔ layout.reservedSectors = 0 := by
  have tables : 0 < layout.tableCopies * layout.tableSectors :=
    Nat.mul_pos usable.tableCopies_pos usable.tableSectors_pos
  constructor
  · intro owned
    rcases owned with ⟨table, _⟩ | ⟨root, _⟩ | ⟨cluster, sector, _, _, same⟩
    · simp only [tableStart] at table
      omega
    · simp only [rootStart, tableStart] at root
      omega
    · have behind := layout.dataStart_le_clusterStart cluster
      simp only [dataStart, rootStart, tableStart] at behind
      omega
  · intro unreserved
    refine .inl ⟨?_, ?_⟩
    · simp only [tableStart]
      omega
    · simp only [rootStart, tableStart]
      omega

/-- The host with a disk that refuses nothing within its capacity from now on. -/
def Host.healed (host : Host) : Host := { host with disk := host.disk.withFaults {} }

/-- The host after some requests, one after the other, each of which succeeds or fails. -/
def Mounted.performAll (mounted : Mounted) (requests : List Request) (host : Host) : Host :=
  requests.foldl (fun host request => afterwards (request.perform mounted) host) host

/-- Requests keep a sector that is not among those of the volume, and requests that only
read keep every sector. -/
theorem Mounted.performAll_keeps (mounted : Mounted) {requests : List Request} {lba : Nat}
    (kept : ¬ mounted.volume.Owns lba ∨ ∀ request ∈ requests, request.mayWrite = false)
    (host : Host) :
    host.SameDevice (mounted.performAll requests host) ∧
      (mounted.performAll requests host).disk.sector lba = host.disk.sector lba := by
  -- One request keeps the sector and the device, and the others begin where it has ended.
  induction requests generalizing host with
  | nil => exact ⟨.refl host, rfl⟩
  | cons request rest inductionHypothesis =>
    have steps := (request.perform_confined mounted host).1
    have first : (afterwards (request.perform mounted) host).disk.sector lba =
        host.disk.sector lba := by
      refine steps.unwritten fun data owned permitted => ?_
      rcases kept with outside | still
      · exact outside owned
      · rcases permitted with writes | ⟨_, impossible⟩
        · rw [still request List.mem_cons_self] at writes
          cases writes
        · cases impossible
    have later : ¬ mounted.volume.Owns lba ∨ ∀ request ∈ rest, request.mayWrite = false :=
      kept.imp_right fun still other member => still other (List.mem_cons_of_mem _ member)
    obtain ⟨device, same⟩ :=
      inductionHypothesis later (afterwards (request.perform mounted) host)
    exact ⟨steps.sameDevice.trans device, same.trans first⟩

namespace Volume

variable {base : Nat} {host : Host} {volume : Volume}

/-- Where the disk does not refuse the boot sector, mounting ends as parsing that sector
does, and leaves nothing but the read behind. -/
theorem mount_served (sized : host.disk.sectorSize = 512)
    (granted : host.disk.refusal (.read base) = none) :
    outcome (mount base) host = ofBootSector base (host.disk.sector base) ∧
      afterwards (mount base) host = host.served (.read base) := by
  obtain ⟨attempted, left⟩ := ran_ok_iff.mp (attempt_of_service sized granted)
  have read : outcome (readSector base) host = .ok (host.disk.sector base) := by
    rw [readSector, outcome_bind_ok attempted, left]
    rfl
  have after : afterwards (readSector base) host = host.served (.read base) := by
    rw [readSector, afterwards_bind_ok attempted, left]
    rfl
  rw [mount, outcome_bind_ok read, afterwards_bind_ok read, outcome_lift, afterwards_lift, after]
  exact ⟨rfl, rfl⟩

/-- A volume is mounted only where the disk has sectors of the expected size and does not
refuse the boot sector. -/
theorem mount_granted (mounted : outcome (mount base) host = .ok volume) :
    host.disk.sectorSize = 512 ∧ host.disk.refusal (.read base) = none := by
  have failed {failure : Failure} (refused : outcome (attempt (.read base)) host = .error failure) :
      False := by
    have stopped : outcome (readSector base) host = .error failure := outcome_bind_error refused
    rw [mount, outcome_bind_error stopped] at mounted
    cases mounted
  by_cases sized : host.disk.sectorSize = 512
  · cases answered : host.disk.refusal (.read base) with
    | none => exact ⟨sized, rfl⟩
    | some cause => exact (failed (ran_error_iff.mp (attempt_of_refusal sized answered)).1).elim
  · exact (failed (ran_error_iff.mp (attempt_of_sectorSize sized _)).1).elim

/-- A transfer that is not refused is one of a sector within the capacity of the disk. -/
theorem lt_capacity_of_granted {transfer : Transfer}
    (granted : host.disk.refusal transfer = none) : transfer.lba < host.disk.capacity := by
  simp only [Disk.refusal] at granted
  split at granted
  · assumption
  · cases granted

/-- Where sectors are reserved, or nothing is created, a volume can be mounted again after any
requests, and is the same volume. Where none is reserved, the boot sector is one that requests
may overwrite. -/
theorem mount_again (mounted : outcome (mount base) host = .ok volume) :
    (volume.Owns base ↔ volume.reservedSectors = 0) ∧
    ∀ (channel : Nat) (partition : Partition) (requests : List Request),
      (0 < volume.reservedSectors ∨ ∀ request ∈ requests, request.mayWrite = false) →
        outcome (mount base) (Mounted.performAll ⟨channel, volume, partition⟩ requests
          (afterwards (mount base) host)).healed = .ok volume := by
  obtain ⟨sized, granted⟩ := mount_granted mounted
  obtain ⟨parsed, left⟩ := mount_served sized granted
  rw [mounted] at parsed
  have based : volume.base = base := congrArg Layout.base (layout_of_ofBootSector parsed.symm)
  have owned := volume.usable.owns_base_iff
  rw [based] at owned
  refine ⟨owned, fun channel partition requests safe => ?_⟩
  have kept : ¬ volume.Owns base ∨ ∀ request ∈ requests, request.mayWrite = false := by
    refine safe.imp_left fun reserved => ?_
    rw [owned]
    exact Nat.ne_of_gt reserved
  obtain ⟨device, same⟩ :=
    Mounted.performAll_keeps ⟨channel, volume, partition⟩ kept (host.served (.read base))
  rw [left]
  generalize Mounted.performAll ⟨channel, volume, partition⟩ requests _ = later at device same ⊢
  have inside : base < later.disk.capacity := by
    rw [device.capacity]
    exact lt_capacity_of_granted granted
  have healed : later.healed.disk.refusal (.read base) = none := if_pos inside
  have stillSized : later.healed.disk.sectorSize = 512 := device.sectorSize.trans sized
  rw [(mount_served stillSized healed).1, parsed]
  exact congrArg (ofBootSector base) same

/-- A host with a disk of twenty sectors that begins with a boot sector, and whose controller
refuses some transfers. -/
def bootHost (sector : Sector) (plan : FaultPlan) : Host where
  disk :=
    { capacity := 20
      contents := (∅ : Std.TreeMap Nat Sector).insert 0 sector
      faults := plan.oracle {} }
  largestBlock := 4096

/-- The controller refuses every write of the root sector, so that a directory is made in part.
The volume can be mounted again. -/
theorem mount_again_small :
    let host := bootHost smallSector { failWrites := [3] }
    outcome (mount 0) host = .ok small ∧ 0 < small.reservedSectors ∧
      outcome (mount 0) (Mounted.performAll ⟨0, small, ⟨0, 20, 4⟩⟩
        [.makeDirectory ['/', 'A'], .lookup ['/', 'A']]
        (afterwards (mount 0) host)).healed = .ok small := by
  intro host
  have mounted : outcome (mount 0) host = .ok small := by decide +kernel
  have reserved : 0 < small.reservedSectors := by decide
  exact ⟨mounted, reserved, (mount_again mounted).2 0 ⟨0, 20, 4⟩ _ (.inl reserved)⟩

/-- A boot sector that counts no reserved sector. The bytes in front of its sizes are a jump
and a name, as is usual. -/
def unreservedSector : Sector :=
  ((((((((((((bootSector 1 20).set! 0 0xEB).set! 1 0x3C).set! 2 0x90).set! 3 0x4D).set! 4
    0x53).set! 5 0x44).set! 6 0x4F).set! 7 0x53).set! 8 0x35).set! 9 0x2E).set! 10 0x30).set! 14 0

/-- The volume that it describes. -/
def unreserved : Volume where
  base := 0
  sectorsPerCluster := 1
  reservedSectors := 0
  tableCopies := 2
  rootEntries := 16
  tableSectors := 1
  totalSectors := 20
  usable := by constructor <;> decide

/-- The first free cluster is the one whose link is the count of reserved sectors. Once a
directory has been made there, mounting again gives another volume. -/
theorem unreserved_overwritten :
    let host := bootHost unreservedSector {}
    let after := Mounted.performAll ⟨0, unreserved, ⟨0, 20, 4⟩⟩ [.makeDirectory ['/', 'A']]
      (afterwards (mount 0) host)
    outcome (mount 0) host = .ok unreserved ∧ outcome (mount 0) after.healed ≠ .ok unreserved := by
  intro host after
  have mounted : outcome (mount 0) host = .ok unreserved := by decide +kernel
  have changed :
      (outcome (mount 0) after.healed).toOption.map (·.reservedSectors) = some 65535 := by
    decide +kernel
  refine ⟨mounted, fun same => ?_⟩
  rw [same] at changed
  cases changed

end Volume

end FatVolume
