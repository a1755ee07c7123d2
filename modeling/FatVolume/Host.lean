import FatVolume.Disk
import FatVolume.Notice

/-!
# The host of a volume

Operations on a volume run against a host: the disk, the largest block that the
heap grants, and a trace of what has happened, newest event first. The trace
records each attempted transfer with its refusal, and each notice; it is what
statements about order, counts and addresses of transfers speak of.

Beside the trace stands a record of the numbers that were worked out on the way:
which entry, slot or sector was sought, which bytes were taken out of a sector or a
buffer, and which counter was advanced. Numbers are unbounded here; the record is
what a statement about machine words and about bounds speaks of.

An operation ends in a value or a failure, and the host survives both. `readSector`
and `writeSector` are the only operations that touch the disk. Both test the sector
size before they attempt anything.
-/

namespace FatVolume

/-- Something that happened while operations ran. -/
inductive Event where
  | transfer (attempt : Transfer) (refusal : Option DiskError)
  | notice (notice : Notice)
  deriving DecidableEq

/-- A number that is worked out from a cluster number, a position or a counter. -/
inductive Computation where
  /-- The sector in which a table copy holds the entry of a cluster. -/
  | linkSector (copy cluster : Nat)
  /-- The sector of the root slot that has so many slots before it. -/
  | rootSector (taken : Nat)
  /-- A sector of a cluster, counted from the cluster's first. -/
  | clusterSector (cluster sector : Nat)
  /-- The first byte of a slot within its sector. -/
  | slotStart (index : Nat)
  /-- The number of the sector that follows in a cluster. -/
  | nextSector (sector : Nat)
  /-- The number of the sector in front of one of a cluster. -/
  | previousSector (sector : Nat)
  /-- The number of links followed, once one more is. -/
  | nextHop (hops : Nat)
  /-- The bytes of a file from an offset on. -/
  | bytesBehind (size offset : Nat)
  /-- The first bytes of a buffer, as many as are handed on. -/
  | firstBytes (length available : Nat)
  /-- The clusters of a chain in front of the one that holds an offset. -/
  | clustersBefore (offset : Nat)
  /-- The bytes that one sector of a chain adds to those that were copied already. -/
  | copiedRun (position copied length : Nat)
  /-- The entries that were told, counted one by one. -/
  | entryCount (count : Nat)
  deriving DecidableEq, Repr

/-- What operations on a volume act upon. -/
structure Host where
  disk : Disk
  /-- The size in bytes of the largest block that the heap grants. -/
  largestBlock : Nat
  /-- What has happened, newest event first. -/
  trace : List Event := []
  /-- What has been worked out, newest first. -/
  computed : List Computation := []

/-- Operations that act on a host and may stop at a failure. -/
abbrev HostM := EStateM Failure Host

/-- A computation without effects may stop at a failure inside one with effects. -/
instance liftExcept {ε σ : Type} : MonadLift (Except ε) (EStateM ε σ) where
  monadLift
    | .ok value => pure value
    | .error failure => throw failure

/-- The outcome of an operation as a value: a failure no longer stops what follows,
and the effects up to it remain. -/
def observe {ε σ α : Type} (operation : EStateM ε σ α) : EStateM ε σ (Except ε α) := fun state =>
  match operation state with
  | .ok value after => .ok (.ok value) after
  | .error failure after => .ok (.error failure) after

/-- A sequence of two operations succeeds only if both do. The inversion lets a successful
run be taken apart step by step. -/
theorem bind_ok {ε σ α β : Type} {first : EStateM ε σ α} {second : α → EStateM ε σ β}
    {before after : σ} {value : β} (succeeded : (first >>= second) before = .ok value after) :
    ∃ middle between, first before = .ok middle between ∧
      second middle between = .ok value after := by
  change EStateM.bind first second before = _ at succeeded
  unfold EStateM.bind at succeeded
  split at succeeded
  · next middle between ran => exact ⟨middle, between, ran, succeeded⟩
  · cases succeeded

namespace Host

/-- The host after one more event. -/
def record (host : Host) (event : Event) : Host := { host with trace := event :: host.trace }

end Host

/-- Report a notice. -/
def report (notice : Notice) : HostM Unit := modify (·.record (.notice notice))

/-- Note what is being worked out. -/
def compute (computation : Computation) : HostM Unit :=
  modify fun host => { host with computed := computation :: host.computed }

/-- Attempt a transfer, and stop if the disk refuses it. -/
def attempt (transfer : Transfer) : HostM Unit := do
  let host ← get
  if host.disk.sectorSize ≠ 512 then throw (.sectorSize host.disk.sectorSize)
  match host.disk.refusal transfer with
  | some cause =>
    set ({ host with disk := host.disk.refuse }.record (.transfer transfer (some cause)))
    throw (.transfer cause)
  | none => set ({ host with disk := host.disk.serve transfer }.record (.transfer transfer none))

/-- Read the sector at an address. -/
def readSector (lba : Nat) : HostM Sector := do
  attempt (.read lba)
  return (← get).disk.sector lba

/-- Write the sector at an address. -/
def writeSector (lba : Nat) (data : Sector) : HostM Unit := attempt (.write lba data)

/-- The sector kept from an earlier read with its address, if it is the one wanted. -/
def keptSector (held : Option (Nat × Sector)) (lba : Nat) : Option Sector :=
  match held with
  | some (address, sector) => if address = lba then some sector else none
  | none => none

/-- The sector at an address: the one kept if it is wanted, or else read. -/
def readUnlessKept (held : Option (Nat × Sector)) (lba : Nat) : HostM Sector :=
  match keptSector held lba with
  | some sector => pure sector
  | none => readSector lba

end FatVolume
