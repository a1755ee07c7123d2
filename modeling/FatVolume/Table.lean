import FatVolume.Volume

/-!
# The allocation table

The table has a 16-bit entry for each cluster number. The entry of an allocated
cluster names the next cluster of its chain, or marks the chain's end; zero means
free. The table is stored in several copies, one after the other.

Reading believes the first copy unless it says free: then a second copy, where there
is one, is asked, and a claim it makes is reported and believed. Writing changes all
copies in turn. A failure in between leaves the earlier copies changed, so a claim
that reached the first copy is never taken back by a copy that missed it.
-/

namespace FatVolume

/-- What a table entry says about its cluster. -/
inductive Link where
  | free
  /-- The chain goes on with this data cluster. -/
  | next (cluster : Nat)
  | endOfChain
  /-- A value that names no data cluster and ends no chain. -/
  | invalid (value : UInt16)
  deriving DecidableEq

namespace Link

/-- The value that is written to end a chain. -/
def endMark : UInt16 := 0xFFFF

/-- All values from 0xFFF8 on end a chain. -/
def endsChain (value : UInt16) : Bool := 0xFFF8 ≤ value

/-- The meaning of a table value on a volume with the given highest cluster. -/
def classify (value : UInt16) (maxCluster : Nat) : Link :=
  if value = 0 then .free
  else if endsChain value then .endOfChain
  else if 2 ≤ value.toNat ∧ value.toNat ≤ maxCluster then .next value.toNat
  else .invalid value

end Link

namespace Layout

/-- The position of a cluster's entry in its sector. -/
def linkIndex (cluster : Nat) : Fin 256 := ⟨cluster % 256, Nat.mod_lt _ (by decide)⟩

end Layout

namespace Volume

variable (volume : Volume)

/-- Work out the address of the sector of a cluster's entry in a copy. -/
def linkAddress (copy cluster : Nat) : HostM Nat := volume.workOut (.linkSector copy cluster)

/-- The table value of a cluster. -/
def link (cluster : Nat) : HostM UInt16 := do
  let sector ← readSector (← volume.linkAddress 0 cluster)
  let value := sector.word (Layout.linkIndex cluster)
  if value ≠ 0 ∨ volume.tableCopies < 2 then
    return value
  else
    let second ← readSector (← volume.linkAddress 1 cluster)
    let claimed := second.word (Layout.linkIndex cluster)
    if claimed ≠ 0 then report (.copyDisagrees cluster claimed)
    return claimed

/-- Change the table value of a cluster in one copy. -/
def setLinkCopy (cluster : Nat) (value : UInt16) (copy : Nat) : HostM Unit := do
  let lba ← volume.linkAddress copy cluster
  let sector ← readSector lba
  writeSector lba (sector.setWord (Layout.linkIndex cluster) value)

/-- Change the table value of a cluster in every copy, the first copy first. -/
def setLink (cluster : Nat) (value : UInt16) : HostM Unit :=
  (List.range volume.tableCopies).forM (volume.setLinkCopy cluster value)

/-- The cluster after a cluster in a chain that has to be intact; none at its end. -/
def follow (cluster : Nat) : HostM (Option Nat) := do
  match Link.classify (← volume.link cluster) volume.maxCluster with
  | .next successor => return some successor
  | .endOfChain => return none
  | .free => throw .brokenChain
  | .invalid _ => throw .brokenChain

/-- Claim the first free cluster of a list of candidates and end its chain. A candidate
counts as free only if all copies that reading consults agree. -/
def claimFirst (held : Option (Nat × Sector)) : List Nat → HostM Nat
  | [] => throw .noSpace
  | cluster :: rest => do
    let lba ← volume.linkAddress 0 cluster
    let sector ← readUnlessKept held lba
    if sector.word (Layout.linkIndex cluster) ≠ 0 then
      claimFirst (some (lba, sector)) rest
    else if (← volume.link cluster) ≠ 0 then
      claimFirst (some (lba, sector)) rest
    else
      volume.setLink cluster Link.endMark
      return cluster

/-- Claim the lowest free cluster. -/
def allocate : HostM Nat := volume.claimFirst none (List.range' 2 volume.clusterCount)

end Volume

end FatVolume
