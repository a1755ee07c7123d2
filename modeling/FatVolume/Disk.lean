import FatVolume.Failure
import FatVolume.Sector
import Std.Data.TreeMap

/-!
# Disks

A disk is a finite sequence of sectors, of which only those that differ from zero
need to be stored: its content is a total function from addresses to sectors.

Transfers can fail. Addresses behind the capacity are out of range; every other
refusal comes from a fault oracle, which sees how many transfers the disk has
served and refused so far and the transfer itself. An arbitrary oracle describes an
arbitrary pattern of failures; a fault plan is the family of patterns that names
bad addresses and bounds the number of further transfers. A refused transfer
changes no sector.

Direct access to the bytes of a disk (`peek`, `poke`) is no transfer: it prepares
or inspects a medium and neither fails nor counts.
-/

namespace FatVolume

/-- One sector moved between the disk and its user. -/
inductive Transfer where
  | read (lba : Nat)
  | write (lba : Nat) (data : Sector)
  deriving DecidableEq

/-- The address of a transfer. -/
def Transfer.lba : Transfer → Nat
  | read lba => lba
  | write lba _ => lba

/-- How many transfers a disk has served and refused. -/
structure Tally where
  reads : Nat := 0
  writes : Nat := 0
  refused : Nat := 0
  deriving DecidableEq, Repr

/-- The tally after one more served transfer. -/
def Tally.served (tally : Tally) : Transfer → Tally
  | .read _ => { tally with reads := tally.reads + 1 }
  | .write _ _ => { tally with writes := tally.writes + 1 }

/-- A disk with its stored sectors and its failures. -/
structure Disk where
  /-- The number of sectors. -/
  capacity : Nat
  /-- The bytes per sector that the disk reports. -/
  sectorSize : Nat := 512
  /-- The stored sectors; every other sector is zero. -/
  contents : Std.TreeMap Nat Sector := ∅
  /-- The refusals of the controller. -/
  faults : Tally → Transfer → Option DiskError := fun _ _ => none
  tally : Tally := {}

namespace Disk

/-- The sector at an address. -/
def sector (disk : Disk) (lba : Nat) : Sector := disk.contents.getD lba Sector.zero

/-- The disk with one sector replaced. -/
def setSector (disk : Disk) (lba : Nat) (data : Sector) : Disk :=
  { disk with contents := disk.contents.insert lba data }

/-- Why the disk would refuse a transfer now, if it would. -/
def refusal (disk : Disk) (transfer : Transfer) : Option DiskError :=
  if transfer.lba < disk.capacity then disk.faults disk.tally transfer else some .outOfRange

/-- The disk after a served transfer. -/
def serve (disk : Disk) (transfer : Transfer) : Disk :=
  let counted := { disk with tally := disk.tally.served transfer }
  match transfer with
  | .read _ => counted
  | .write lba data => counted.setSector lba data

/-- The disk after a refused transfer. -/
def refuse (disk : Disk) : Disk :=
  { disk with tally := { disk.tally with refused := disk.tally.refused + 1 } }

/-- Replacing a sector is seen at its own address and nowhere else. Since every address
has a sector, stored or zero, this needs no bound. -/
theorem sector_setSector (disk : Disk) (lba other : Nat) (data : Sector) :
    (disk.setSector lba data).sector other = if other = lba then data else disk.sector other := by
  simp only [sector, setSector, Std.TreeMap.getD_insert, Nat.compare_eq_eq]
  by_cases same : lba = other
  · rw [if_pos same, if_pos same.symm]
  · rw [if_neg same, if_neg (Ne.symm same)]

/-- A read that is served changes the tally and no sector, so the content that later
transfers meet is the same. -/
theorem sector_serve_read (disk : Disk) (lba other : Nat) :
    (disk.serve (.read lba)).sector other = disk.sector other := rfl

/-- A write that is served replaces the one sector that it names. The counting of
transfers in between has no effect on contents. -/
theorem sector_serve_write (disk : Disk) (lba other : Nat) (data : Sector) :
    (disk.serve (.write lba data)).sector other =
      if other = lba then data else disk.sector other :=
  sector_setSector _ lba other data

/-- A refused transfer is counted and otherwise leaves the disk alone; there is no
half-written sector. -/
theorem sector_refuse (disk : Disk) (lba : Nat) : disk.refuse.sector lba = disk.sector lba := rfl

/-- The byte at an offset from the start of the disk. -/
def byte (disk : Disk) (offset : Nat) : UInt8 := (disk.sector (offset / 512))[offset % 512]

/-- The bytes from an offset on. -/
def peek (disk : Disk) (offset length : Nat) : Array UInt8 :=
  Array.ofFn fun position : Fin length => disk.byte (offset + position.val)

/-- A sector overlaid with the part of some bytes that falls into it, the bytes
being placed at `offset` and the sector at `start`. -/
def overlay (sector : Sector) (start offset : Nat) (bytes : Array UInt8) : Sector :=
  Vector.ofFn fun position =>
    if offset ≤ start + position.val then
      (bytes[start + position.val - offset]?).getD (sector.get position)
    else sector.get position

/-- The disk with bytes placed from an offset on. -/
def poke (disk : Disk) (offset : Nat) (bytes : Array UInt8) : Disk :=
  if bytes.isEmpty then disk
  else
    let first := offset / 512
    let last := (offset + bytes.size - 1) / 512
    (List.range' first (last - first + 1)).foldl
      (fun poked lba =>
        poked.setSector lba (overlay (poked.sector lba) (512 * lba) offset bytes)) disk

end Disk

/-- Failures named by address and by count. -/
structure FaultPlan where
  failReads : List Nat := []
  failWrites : List Nat := []
  /-- The number of further reads that succeed, if it is bounded. -/
  readsLeft : Option Nat := none
  /-- The number of further writes that succeed, if it is bounded. -/
  writesLeft : Option Nat := none
  deriving DecidableEq, Repr

namespace FaultPlan

/-- The bound on further transfers, if there is one, is used up. -/
def spent (left : Option Nat) (since : Nat) (now : Nat) : Bool := left.any (since + · ≤ now)

/-- The oracle of a plan that begins when the disk has the tally `since`. -/
def oracle (plan : FaultPlan) (since now : Tally) : Transfer → Option DiskError
  | .read lba =>
    if plan.failReads.contains lba || spent plan.readsLeft since.reads now.reads then
      some .device
    else
      none
  | .write lba _ =>
    if plan.failWrites.contains lba || spent plan.writesLeft since.writes now.writes then
      some .device
    else
      none

end FaultPlan

/-- The disk with its failures replaced by those of a plan that begins now. -/
def Disk.withFaults (disk : Disk) (plan : FaultPlan) : Disk :=
  { disk with faults := plan.oracle disk.tally }

end FatVolume
