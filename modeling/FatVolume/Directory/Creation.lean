import FatVolume.Directory.Lookup

/-!
# Creating directories

A new directory needs a free slot in its parent and a cluster of its own. A slot is
free when it is erased or lies at or behind the end marker. The root region cannot
grow; a chain without a free slot grows by one cluster of zero bytes, which are end
markers.

The order of writes keeps what is reachable complete. A cluster is claimed in the
table, then filled, and only then linked into a chain or named by an entry; the
entry of the new directory is written last. What a failure in between leaves behind
is a claimed cluster that nothing refers to.
-/

namespace FatVolume

/-- The outcome of a search for a free slot in a chain. -/
inductive SlotSearch where
  | found (position : SlotPosition)
  /-- Every slot is taken, and the chain ends with this cluster. -/
  | needsExtension (lastCluster : Nat)
  deriving DecidableEq

namespace Cursor

/-- The next free slot. -/
def nextFree (volume : Volume) : WalkM (Option SlotPosition) :=
  sweep volume fun position slot => if slot.isFree then some position else none

end Cursor

namespace Volume

variable (volume : Volume)

/-- Fill a data cluster with zero bytes. -/
def zeroCluster (cluster : Nat) : HostM Unit := do
  volume.checkCluster cluster
  (List.range volume.sectorsPerCluster).forM fun sector => do
    writeSector (← volume.clusterAddress cluster sector) Sector.zero

/-- Claim a cluster, fill it with zero bytes, and link it behind the last cluster of a
chain. -/
def extendChain (lastCluster : Nat) : HostM Nat := do
  volume.checkCluster lastCluster
  let added ← volume.allocate
  volume.zeroCluster added
  volume.setLink lastCluster (UInt16.ofNat added)
  return added

/-- The first sector of an empty directory: an entry for itself and one for its parent. -/
def firstSector (cluster : Nat) (parent : Directory) : Sector :=
  (Sector.zero.setRecord 0 (Entry.directory ShortName.self cluster).encode).setRecord 1
    (Entry.directory ShortName.parent parent.cluster).encode

/-- Put the two entries of an empty directory into the first sector of its cluster. -/
def writeFirstSector (cluster : Nat) (parent : Directory) : HostM Unit := do
  compute (.slotStart 0)
  compute (.slotStart 1)
  writeSector (← volume.clusterAddress cluster 0) (firstSector cluster parent)

/-- Make a data cluster an empty directory below a parent. -/
def initialiseDirectory (cluster : Nat) (parent : Directory) : HostM Unit := do
  match parent with
  | .root => pure ()
  | .chain above => volume.checkCluster above
  volume.zeroCluster cluster
  volume.writeFirstSector cluster parent

/-- The first free slot of the root region. -/
def freeRootSlot : HostM SlotPosition := do
  let cursor ← Cursor.start volume .root
  match ← cursor.along (Cursor.nextFree volume) with
  | some position => return position
  | none => throw .directoryFull

/-- The first free slot of a chain, or the cluster behind which the chain has to grow. -/
def freeChainSlot (first : Nat) : HostM SlotSearch := do
  let cursor ← Cursor.start volume (.chain first)
  cursor.along do
    match ← Cursor.nextFree volume with
    | some position => return .found position
    | none => return .needsExtension ((← get).cursor.cluster?.getD first)

/-- A free slot of a directory, for which a chain may have grown. -/
def claimSlot : Directory → HostM SlotPosition
  | .root => volume.freeRootSlot
  | .chain first => do
    match ← volume.freeChainSlot first with
    | .found position => return position
    | .needsExtension lastCluster =>
      let added ← volume.extendChain lastCluster
      return ⟨← volume.clusterAddress added 0, 0⟩

/-- Replace the slot at a position by an entry. -/
def writeEntry (position : SlotPosition) (entry : Entry) : HostM Unit := do
  let sector ← readSector position.lba
  compute (.slotStart position.index)
  writeSector position.lba (sector.setRecord position.index entry.encode)

/-- The directory in which a path that names nothing yet has its last component, and
the short name of that component. -/
def vacancy (path : List Char) : HostM (Directory × RawName) := do
  match ← observe (volume.resolve path) with
  | .ok _ => throw .alreadyExists
  | .error .notFound => pure ()
  | .error failure => throw failure
  match Path.splitLeaf path with
  | none => throw .alreadyExists
  | some (front, leaf) =>
    let parent ← (← volume.resolve front).directory
    return (parent, ← ShortName.encode leaf)

/-- Create an empty directory of a given name in a directory, and tell its cluster. -/
def insertDirectory (parent : Directory) (name : RawName) : HostM Nat := do
  let position ← volume.claimSlot parent
  let cluster ← volume.allocate
  volume.initialiseDirectory cluster parent
  writeEntry position (Entry.directory name cluster)
  return cluster

/-- Create an empty directory at a path, and tell its cluster. -/
def createDirectory (path : List Char) : HostM Nat := do
  let (parent, name) ← volume.vacancy path
  volume.insertDirectory parent name

end Volume

end FatVolume
