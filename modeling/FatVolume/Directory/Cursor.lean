import FatVolume.Slot
import FatVolume.Table

/-!
# Walking a directory

A directory is stored either in the root region, whose length is fixed, or in a
chain of clusters. A cursor stands before one slot of a directory and keeps the
last sector that it has read, so that neighbouring slots cost one transfer.

`nextSlot` yields the slot before which the cursor stands. The cursor survives a
failure and can be asked again. A failure to read a sector leaves it where it was.
Where a sector of a chain is used up, the cursor moves to the following sector
number before it asks the table for the next cluster; if the table fails it there,
the cursor is left behind the last sector of its cluster. If the table says that
the chain ends there, the cursor goes back to that sector and is done.

`slotsLeft` bounds how many slots a cursor can still yield, whatever the medium
holds: each yielded slot makes it smaller. It lets every loop over slots end, and a
chain that returns to itself is left after as many clusters as the volume has.
-/

namespace FatVolume

/-- Which directory is meant: the root region, or the chain from a cluster on. -/
inductive Directory where
  | root
  | chain (cluster : Nat)
  deriving DecidableEq, Repr

namespace Directory

/-- The directory that a stored cluster number opens. Zero stands for the root. -/
def ofCluster (cluster : Nat) : Directory := if cluster = 0 then .root else .chain cluster

/-- The cluster number that is stored to refer to a directory. -/
def cluster : Directory → Nat
  | root => 0
  | chain first => first

end Directory

/-- Where a cursor stands. -/
inductive Place where
  /-- Behind as many slots of the root region. -/
  | root (taken : Nat)
  /-- In a sector of a cluster, behind as many of its slots, after following as many links. -/
  | chain (cluster sector taken hops : Nat)
  deriving DecidableEq, Repr

/-- A resumable walk over the slots of one directory. -/
structure Cursor where
  place : Place
  /-- The last sector read, with its address. -/
  held : Option (Nat × Sector) := none
  /-- Nothing more will be yielded. -/
  done : Bool := false

namespace Cursor

/-- A cursor before the first slot of a directory. A chain has to start at a data
cluster; its sectors are not read yet. -/
def start (volume : Volume) : Directory → Except Failure Cursor
  | .root => .ok { place := .root 0 }
  | .chain cluster => do
    volume.checkCluster cluster
    return { place := .chain cluster 0 0 0 }

/-- The cluster that a cursor over a chain walks, or walked last. -/
def cluster? (cursor : Cursor) : Option Nat :=
  match cursor.place with
  | .root _ => none
  | .chain cluster _ _ _ => some cluster

/-- A bound on the slots that a cursor can still yield. -/
def slotsLeft (volume : Volume) (cursor : Cursor) : Nat :=
  match cursor.place with
  | .root taken => volume.rootEntries - taken
  | .chain _ sector taken hops =>
    ((volume.clusterCount - 1 - hops) * volume.sectorsPerCluster +
      (volume.sectorsPerCluster - 1 - sector)) * 16 + (16 - taken)

end Cursor

/-- A cursor together with the host that it reads from. -/
structure Walk where
  cursor : Cursor
  host : Host

/-- Operations that move a cursor. Cursor and host survive a failure. -/
abbrev WalkM := EStateM Failure Walk

/-- An operation on the host leaves the cursor as it is. -/
instance : MonadLift HostM WalkM where
  monadLift operation walk :=
    match operation walk.host with
    | .ok value host => .ok value { walk with host }
    | .error failure host => .error failure { walk with host }

namespace Walk

/-- The walk with its cursor at another place. -/
def moveTo (walk : Walk) (place : Place) : Walk :=
  { walk with cursor := { walk.cursor with place } }

/-- The walk with its cursor at another place and no sector kept. -/
def leaveFor (walk : Walk) (place : Place) : Walk :=
  { walk with cursor := { walk.cursor with place, held := none } }

/-- The walk with a sector kept. -/
def keep (walk : Walk) (lba : Nat) (sector : Sector) : Walk :=
  { walk with cursor := { walk.cursor with held := some (lba, sector) } }

/-- The walk with its cursor finished. -/
def finish (walk : Walk) : Walk := { walk with cursor := { walk.cursor with done := true } }

end Walk

namespace Cursor

/-- The sector at an address, which the cursor keeps from now on. -/
def sectorAt (lba : Nat) : WalkM Sector := do
  let sector ← readUnlessKept (← get).cursor.held lba
  modify (·.keep lba sector)
  return sector

/-- Yield the slot at a position and move behind it. -/
def take (position : SlotPosition) (behind : Place) : WalkM (Option (SlotPosition × Slot)) := do
  let sector ← sectorAt position.lba
  compute (.slotStart position.index)
  modify (·.moveTo behind)
  return some (position, Slot.decode (sector.record position.index))

/-- Yield the first slot of a sector of a chain. -/
def takeFirst (volume : Volume) (cluster sector hops : Nat) :
    WalkM (Option (SlotPosition × Slot)) := do
  let lba ← volume.clusterAddress cluster sector
  take ⟨lba, 0⟩ (.chain cluster sector 1 hops)

/-- Leave a used-up sector of a chain and yield the first slot of the following one.
The cursor moves before the table is asked. -/
def enterSector (volume : Volume) (cluster sector hops : Nat) :
    WalkM (Option (SlotPosition × Slot)) := do
  let following ← volume.workOut (.nextSector sector)
  modify (·.leaveFor (.chain cluster following 0 hops))
  if following < volume.sectorsPerCluster then
    takeFirst volume cluster following hops
  else
    match ← volume.follow cluster with
    | none =>
      let last ← volume.workOut (.previousSector following)
      modify fun walk => (walk.leaveFor (.chain cluster last 0 hops)).finish
      return none
    | some successor =>
      let followed ← volume.workOut (.nextHop hops)
      if followed < volume.clusterCount then
        modify (·.leaveFor (.chain successor 0 0 followed))
        takeFirst volume successor 0 followed
      else
        throw .brokenChain

/-- Yield the slot before which the cursor stands, whatever it holds, and move behind
it. None at the end of the directory's storage, and ever after. -/
def nextSlot (volume : Volume) : WalkM (Option (SlotPosition × Slot)) := do
  let walk ← get
  if walk.cursor.done then return none
  match walk.cursor.place with
  | .root taken =>
    if taken < volume.rootEntries then
      let lba ← volume.rootAddress taken
      take ⟨lba, taken % 16, Nat.mod_lt _ (by decide)⟩ (.root (taken + 1))
    else
      modify Walk.finish
      return none
  | .chain cluster sector taken hops =>
    if inside : taken < 16 then
      let lba ← volume.clusterAddress cluster sector
      take ⟨lba, taken, inside⟩ (.chain cluster sector (taken + 1) hops)
    else
      enterSector volume cluster sector hops

/-- Run operations that move a cursor, and drop the cursor afterwards. -/
def along {α : Type} (cursor : Cursor) (operation : WalkM α) : HostM α := fun host =>
  match operation ⟨cursor, host⟩ with
  | .ok value rest => .ok value rest.host
  | .error failure rest => .error failure rest.host

end Cursor

end FatVolume
