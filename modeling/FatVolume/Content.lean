import FatVolume.Table

/-!
# File contents

The bytes of a file are those of the clusters of its chain, in order. A read starts
at an offset into the chain: whole clusters before it are skipped by following
links, and then bytes are copied sector by sector until as many as wanted are there.
The first sector and the last may be wanted in part. A link is followed only when a
byte behind it is needed.

A chain on a volume has at most as many clusters as the volume, so a read that has
to follow more links than that has met a chain that returns to itself. The count is
tested before the link is followed. A chain that ends before the last wanted byte is
too short; the recorded size of the file is not consulted here.
-/

namespace FatVolume

/-- A byte of a cluster of a chain, and how many links led to the cluster. Behind the
last byte of a cluster, the place is the end of that cluster. -/
structure ChainPlace where
  cluster : Nat
  /-- The bytes of the cluster in front of the place. -/
  position : Nat
  hops : Nat
  deriving DecidableEq, Repr

namespace Volume

variable (volume : Volume)

/-- The first byte of the following cluster of a chain. -/
def hop (place : ChainPlace) : HostM ChainPlace := do
  let followed ← volume.workOut (.nextHop place.hops)
  if followed < volume.clusterCount then
    match ← volume.follow place.cluster with
    | some successor => return ⟨successor, 0, followed⟩
    | none => throw .chainTooShort
  else
    throw .brokenChain

/-- The place so many clusters further on. -/
def skip : Nat → ChainPlace → HostM ChainPlace
  | 0, place => return place
  | clusters + 1, place => do skip clusters (← volume.hop place)

/-- The place itself, or the following cluster where the place is the end of its own. -/
def onward (place : ChainPlace) : HostM ChainPlace :=
  if place.position < volume.clusterBytes then pure place else volume.hop place

/-- Copy bytes of a chain from a place on behind those that were copied before, until
there are so many in all. -/
def copyBytes (length : Nat) (place : ChainPlace) (copied : Array UInt8) :
    HostM (Array UInt8) := do
  if _wanted : copied.size < length then
    let here ← volume.onward place
    let lba ← volume.clusterAddress here.cluster (here.position / 512)
    compute (.copiedRun here.position copied.size length)
    let sector ← readSector lba
    let following := here.position + Sector.runLength here.position copied.size length
    copyBytes length { here with position := following }
      (copied ++ sector.run here.position copied.size length)
  else
    return copied
termination_by length - copied.size
decreasing_by
  have further := Sector.runLength_pos here.position _wanted
  rw [Array.size_append, Sector.run_size]
  omega

/-- So many bytes of a chain, from an offset on. No byte at all is read without a test
of the chain. -/
def readContent (first offset length : Nat) : HostM (Array UInt8) := do
  if length = 0 then return #[]
  volume.checkCluster first
  let clusters ← volume.workOut (.clustersBefore offset)
  let place ← volume.skip clusters ⟨first, 0, 0⟩
  volume.copyBytes length { place with position := offset % volume.clusterBytes } #[]

end Volume

end FatVolume
