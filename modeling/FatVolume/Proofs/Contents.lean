import FatVolume.Content
import FatVolume.Proofs.Slots

/-!
# File contents on a medium

The bytes of a chain are a function of the medium as well: clusters are skipped, and then
the wanted bytes of each sector are put behind those of the one before. The operations that read contents end in exactly
this function, unless the disk cuts them short.
-/

namespace FatVolume

namespace Medium

variable (medium : Medium) (volume : Volume)

/-- The first byte of the following cluster of a chain. -/
def hop (place : ChainPlace) : Except Failure ChainPlace :=
  if place.hops + 1 < volume.clusterCount then do
    match ← medium.follow volume place.cluster with
    | some successor => return ⟨successor, 0, place.hops + 1⟩
    | none => throw .chainTooShort
  else
    throw .brokenChain

/-- The place so many clusters further on. -/
def skip : Nat → ChainPlace → Except Failure ChainPlace
  | 0, place => return place
  | clusters + 1, place => do skip clusters (← medium.hop volume place)

/-- The place itself, or the following cluster where the place is the end of its own. -/
def onward (place : ChainPlace) : Except Failure ChainPlace :=
  if place.position < volume.clusterBytes then return place else medium.hop volume place

/-- Bytes followed by those of a chain from a place on, until there are so many in all. -/
def copyBytes (length : Nat) (place : ChainPlace) (copied : Array UInt8) :
    Except Failure (Array UInt8) :=
  if _wanted : copied.size < length then do
    let here ← medium.onward volume place
    let sector := medium (volume.clusterStart here.cluster + here.position / 512)
    let following := here.position + Sector.runLength here.position copied.size length
    copyBytes length { here with position := following }
      (copied ++ sector.run here.position copied.size length)
  else
    return copied
termination_by length - copied.size
decreasing_by
  have further := Sector.runLength_pos here.position _wanted
  rw [Array.size_append, Sector.run_size]
  omega

/-- So many bytes of a chain, from an offset on. -/
def content (first offset length : Nat) : Except Failure (Array UInt8) :=
  if length = 0 then return #[]
  else do
    volume.checkCluster first
    let place ← medium.skip volume (offset / volume.clusterBytes) ⟨first, 0, 0⟩
    medium.copyBytes volume length { place with position := offset % volume.clusterBytes } #[]

end Medium

namespace Volume

variable {medium : Medium} {volume : Volume}

/-- Moving on to the next cluster of a chain is to end as the link on the medium says,
with the hop counted. -/
theorem hop_reads (place : ChainPlace) :
    Reads (volume.hop place) medium (medium.hop volume place) := by
  simp only [Volume.hop, Medium.hop]
  apply (nextHop_reads place.hops).bind
  by_cases fewer : place.hops + 1 < volume.clusterCount
  · rw [if_pos fewer, if_pos fewer]
    apply (follow_reads place.cluster).andThen
    intro link _
    cases link with
    | some successor => exact .pure _
    | none => exact .throw _
  · rw [if_neg fewer, if_neg fewer]
    exact .throw _

/-- Skipping clusters is to end at the cluster that as many links lead to, or where one of
these links cannot be followed. -/
theorem skip_reads (clusters : Nat) (place : ChainPlace) :
    Reads (volume.skip clusters place) medium (medium.skip volume clusters place) := by
  induction clusters generalizing place with
  | zero => exact .pure place
  | succ clusters inductionHypothesis =>
    exact (hop_reads place).andThen fun next _ => inductionHypothesis next

/-- Before bytes are taken, a place behind its cluster moves on to the next one, and every
other place stays. -/
theorem onward_reads (place : ChainPlace) :
    Reads (volume.onward place) medium (medium.onward volume place) := by
  rw [onward, Medium.onward]
  split
  · exact .pure place
  · exact hop_reads place

/-- Bytes are copied sector by sector as the medium has them, from the place on until as
many were copied as are wanted. -/
theorem copyBytes_reads (length : Nat) (place : ChainPlace) (copied : Array UInt8) :
    Reads (volume.copyBytes length place copied) medium
      (medium.copyBytes volume length place copied) := by
  fun_induction Volume.copyBytes volume length place copied with
  | case1 place copied wanted inductionHypothesis =>
    rw [Medium.copyBytes, dif_pos wanted]
    refine (onward_reads place).andThen fun here _ => (clusterAddress_reads _ _).bind ?_
    refine (Performs.compute _).bind ((Reads.readSector _).bind ?_)
    exact inductionHypothesis here _
  | case2 place copied enough =>
    rw [Medium.copyBytes, dif_neg enough]
    exact .pure copied

/-- Reading a part of a chain is to end in its bytes on the medium, or in the failure that
the links on the medium mean. -/
theorem readContent_reads (first offset length : Nat) :
    Reads (volume.readContent first offset length) medium
      (medium.content volume first offset length) := by
  simp only [readContent, Medium.content]
  split
  · exact .pure _
  · refine (Performs.lift _).andThen fun _ _ => (workOut_reads _).bind ?_
    exact (skip_reads _ _).andThen fun place _ => copyBytes_reads _ _ _

end Volume

end FatVolume
