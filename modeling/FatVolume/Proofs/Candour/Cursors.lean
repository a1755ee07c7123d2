import FatVolume.Content
import FatVolume.Directory.Creation
import FatVolume.Proofs.Candour.Rules
import FatVolume.Proofs.Slots

/-!
# Links, contents and cursors are candid

The operations on links and on contents only pass failures on. A cursor survives a failure, but
the operation that moved it fails.
-/

namespace FatVolume

variable {α β : Type}

namespace Volume

variable (volume : Volume)

/-- Mounting reads the boot sector once, and passes on a refusal of this one transfer. -/
theorem mount_candid (base : Nat) : Candid (mount base) :=
  (Candid.readSector base).bind fun _ => .lift _

/-- Working a number out only notes it, so there is nothing that the disk could tell. -/
theorem workOut_candid (computation : Computation) : Candid (volume.workOut computation) :=
  (Candid.compute _).bind fun _ => .pure _

/-- The address of a sector of a cluster is worked out without the disk. -/
theorem clusterAddress_candid (cluster sector : Nat) :
    Candid (volume.clusterAddress cluster sector) := workOut_candid volume _

/-- The address of a slot of the root region is worked out without the disk. -/
theorem rootAddress_candid (taken : Nat) : Candid (volume.rootAddress taken) :=
  workOut_candid volume _

/-- The address of a table entry is worked out without the disk. -/
theorem linkAddress_candid (copy cluster : Nat) : Candid (volume.linkAddress copy cluster) :=
  workOut_candid volume _

/-! ## Links -/

/-- Reading a link is candid: the second copy is asked where the first says free, and
never where the first was refused. -/
theorem link_candid (cluster : Nat) : Candid (volume.link cluster) := by
  refine (linkAddress_candid volume 0 cluster).bind fun lba => ?_
  refine (Candid.readSector lba).bind fun sector => ?_
  dsimp only
  split
  · exact .pure _
  · refine (linkAddress_candid volume 1 cluster).bind fun other => ?_
    refine (Candid.readSector other).bind fun second => ?_
    split
    · exact (Candid.report _).bind fun _ => .pure _
    · exact .pure _

/-- Following a link adds a test of what was read, and no transfer, to reading the link. -/
theorem follow_candid (cluster : Nat) : Candid (volume.follow cluster) := by
  refine (link_candid volume cluster).bind fun value => ?_
  split
  · exact .pure _
  · exact .pure _
  · exact .throw _
  · exact .throw _

/-- Changing an entry in one copy is candid. If the read of its sector is refused, nothing
is written. -/
theorem setLinkCopy_candid (cluster : Nat) (value : UInt16) (copy : Nat) :
    Candid (volume.setLinkCopy cluster value copy) := by
  refine (linkAddress_candid volume copy cluster).bind fun lba => ?_
  exact (Candid.readSector lba).bind fun _ => .writeSector lba _

/-- Changing an entry copy by copy ends at the first refusal, so the later copies are not
tried. -/
theorem setLink_candid (cluster : Nat) (value : UInt16) : Candid (volume.setLink cluster value) :=
  .forM (setLinkCopy_candid volume cluster value) _

/-- Claiming the first free cluster passes on a refusal of any entry that is read on the
way. A refused entry is not taken for claimed. -/
theorem claimFirst_candid (held : Option (Nat × Sector)) (candidates : List Nat) :
    Candid (volume.claimFirst held candidates) := by
  induction candidates generalizing held with
  | nil => exact .throw _
  | cons cluster rest inductionHypothesis =>
    rw [claimFirst]
    refine (linkAddress_candid volume 0 cluster).bind fun lba => ?_
    refine (Candid.readUnlessKept held lba).bind fun sector => ?_
    split
    · exact inductionHypothesis _
    · refine (link_candid volume cluster).bind fun value => ?_
      split
      · exact inductionHypothesis _
      · exact (setLink_candid volume cluster _).bind fun _ => .pure _

/-- Allocation is candid, as it claims the first free one of all data clusters. -/
theorem allocate_candid : Candid volume.allocate := claimFirst_candid volume none _

/-! ## Contents -/

/-- Moving on along a chain passes on a refusal of the link, and does not end the chain
there. -/
theorem hop_candid (place : ChainPlace) : Candid (volume.hop place) := by
  refine (workOut_candid volume _).bind fun _ => ?_
  split
  · refine (follow_candid volume place.cluster).bind fun successor => ?_
    cases successor with
    | some next => exact .pure _
    | none => exact .throw _
  · exact .throw _

/-- Skipping clusters passes on the first refusal among the links. The induction is on the
clusters that are still to be skipped. -/
theorem skip_candid (clusters : Nat) (place : ChainPlace) : Candid (volume.skip clusters place) := by
  induction clusters generalizing place with
  | zero => exact .pure _
  | succ clusters inductionHypothesis =>
    exact (hop_candid volume place).bind fun next => inductionHypothesis next

/-- Moving on to where the next bytes lie is candid, whether or not a link has to be
followed. -/
theorem onward_candid (place : ChainPlace) : Candid (volume.onward place) := by
  rw [onward]
  split
  · exact .pure _
  · exact hop_candid volume place

/-- Bytes are copied sector by sector, each after its own step along the chain. The first
refusal of a link or of a sector ends the copy. -/
theorem copyBytes_candid (length : Nat) (place : ChainPlace) (copied : Array UInt8) :
    Candid (volume.copyBytes length place copied) := by
  fun_induction copyBytes volume length place copied with
  | case1 place copied wanted inductionHypothesis =>
    refine (onward_candid volume place).bind fun here => (clusterAddress_candid volume _ _).bind fun lba => ?_
    refine (Candid.compute _).bind fun _ => (Candid.readSector lba).bind fun sector => ?_
    exact inductionHypothesis here sector
  | case2 place copied enough => exact .pure _

/-- Reading a part of a chain is candid: its number of clusters, the skipped links and the
copied sectors are taken in turn. -/
theorem readContent_candid (first offset length : Nat) :
    Candid (volume.readContent first offset length) := by
  simp only [readContent]
  split
  · exact .pure _
  · refine (Candid.lift _).bind fun _ => (workOut_candid volume _).bind fun _ => ?_
    exact (skip_candid volume _ _).bind fun place => copyBytes_candid volume _ _ _

end Volume

/-! ## Slots -/

namespace Cursor

variable (volume : Volume)

/-- Finishing a cursor is a change of the cursor alone. -/
theorem finish_candid : CandidWalk (do
    modify Walk.finish
    return none : WalkM (Option α)) := by
  have ends : CandidWalk (modify Walk.finish) := .modify (fun _ => rfl) fun _ _ _ => rfl
  exact ends.bind fun _ => .pure _

/-- Asking for the sector at a cursor passes on a refusal; a kept sector is had without
asking. -/
theorem sectorAt_candid (lba : Nat) : CandidWalk (sectorAt lba) := by
  refine .get_bind (fun _ _ _ => rfl) fun walk => ?_
  refine (CandidWalk.lift (.readUnlessKept _ lba)).bind fun sector => ?_
  have keeps : CandidWalk (modify (·.keep lba sector)) := .modify (fun _ => rfl) fun _ _ _ => rfl
  exact keeps.bind fun _ => .pure _

/-- Taking a slot is candid. A refusal of its sector leaves the cursor where it was. -/
theorem take_candid (position : SlotPosition) (behind : Place) :
    CandidWalk (take position behind) := by
  refine (sectorAt_candid position.lba).bind fun sector => ?_
  refine (CandidWalk.lift (.compute _)).bind fun _ => ?_
  have moves : CandidWalk (modify (·.moveTo behind)) := .modify (fun _ => rfl) fun _ _ _ => rfl
  exact moves.bind fun _ => .pure _

/-- Taking the first slot of a sector of a cluster is candid, as its address is worked out
without the disk. -/
theorem takeFirst_candid (cluster sector hops : Nat) :
    CandidWalk (takeFirst volume cluster sector hops) :=
  (CandidWalk.lift (volume.clusterAddress_candid _ _)).bind fun _ => take_candid _ _

/-- Leaving a sector passes on a refusal of the link behind the cluster, and does not take
it for an end. -/
theorem enterSector_candid (cluster sector hops : Nat) :
    CandidWalk (enterSector volume cluster sector hops) := by
  have leaves (place : Place) : CandidWalk (modify (·.leaveFor place)) :=
    .modify (fun _ => rfl) fun _ _ _ => rfl
  refine (CandidWalk.lift (volume.workOut_candid _)).bind fun _ => (leaves _).bind fun _ => ?_
  split
  · exact takeFirst_candid volume _ _ _
  · refine (CandidWalk.lift (volume.follow_candid cluster)).bind fun successor => ?_
    cases successor with
    | none =>
      have retreats (last : Nat) : CandidWalk (modify fun walk : Walk =>
          (walk.leaveFor (.chain cluster last 0 hops)).finish) :=
        .modify (fun _ => rfl) fun _ _ _ => rfl
      refine (CandidWalk.lift (volume.workOut_candid _)).bind fun last => ?_
      exact (retreats last).bind fun _ => .pure _
    | some next =>
      refine (CandidWalk.lift (volume.workOut_candid _)).bind fun _ => ?_
      split
      · exact (leaves _).bind fun _ => takeFirst_candid volume _ _ _
      · exact .throw _

/-- The next slot is had candidly, in the root region and in a chain. -/
theorem nextSlot_candid : CandidWalk (nextSlot volume) := by
  refine .get_bind (fun _ _ _ => rfl) fun walk => ?_
  split
  · exact .pure _
  · split
    · split
      · exact (CandidWalk.lift (volume.rootAddress_candid _)).bind fun _ => take_candid _ _
      · exact finish_candid
    · split
      · exact (CandidWalk.lift (volume.clusterAddress_candid _ _)).bind fun _ => take_candid _ _
      · exact enterSector_candid volume _ _ _

/-- A sweep asks for slots one after the other, and for fewer each time; the first refusal
ends it. The induction is on the slots that are left. -/
theorem sweep_candid (visit : SlotPosition → Slot → Option β) : CandidWalk (sweep volume visit) := by
  intro cursor
  rw [sweep_eq, alongside_bind]
  refine (nextSlot_candid volume cursor).bindKnowing fun ending host ended => ?_
  obtain ⟨yielded, moved⟩ := ending
  match yielded with
  | none => exact CandidWalk.pure none moved
  | some (position, slot) =>
    obtain ⟨rest, ran, left⟩ := ran_of_alongside ended
    have fewer := nextSlot_slotsLeft ran
    rw [left] at fewer
    dsimp only
    cases visit position slot with
    | some answer => exact CandidWalk.pure (some answer) moved
    | none => exact sweep_candid visit moved
termination_by cursor => cursor.slotsLeft volume

/-- Searching on for an entry is candid, as a sweep is. -/
theorem nextEntry_candid (wanted : Entry → Bool) : CandidWalk (nextEntry volume wanted) := by
  refine (sweep_candid volume _).bind fun answer => ?_
  match answer with
  | some (some entry) => exact .pure _
  | some none => exact finish_candid
  | none => exact .pure _

/-- Searching on for a free slot is candid, as a sweep is. -/
theorem nextFree_candid : CandidWalk (nextFree volume) := sweep_candid volume _

end Cursor

end FatVolume
