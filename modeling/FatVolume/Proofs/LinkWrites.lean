import FatVolume.Proofs.Slots
import Mathlib.Data.List.Nodup
import Mathlib.Order.Bounds.Defs

/-!
# Changing links

A link is changed in one copy of the table after the other. After any number of copies
the entries of all other clusters are what they were, in every copy; and the value that
reading believes is the old one before the first copy is changed, and the new one from
then on, unless the new one says free.

A cluster is claimed by ending a chain at the lowest cluster that reading takes for free.
-/

namespace FatVolume

/-- The word of a sector holds the link of a cluster, in some copy of the table. -/
def Volume.HoldsLink (volume : Volume) (cluster lba : Nat) (index : Fin 256) : Prop :=
  ∃ copy < volume.tableCopies, lba = volume.linkSector copy cluster ∧
    index = Layout.linkIndex cluster

namespace Medium

variable (medium : Medium) (volume : Volume)

/-- The writes that change the table value of a cluster in so many copies. -/
def linkWrites (cluster : Nat) (value : UInt16) (copies : Nat) : List Write :=
  (List.range copies).map fun copy =>
    ⟨volume.linkSector copy cluster,
      (medium (volume.linkSector copy cluster)).setWord (Layout.linkIndex cluster) value⟩

/-- The lowest cluster that reading takes for free. -/
def firstFree : Option Nat :=
  (List.range' 2 volume.clusterCount).find? fun cluster => medium.link volume cluster == 0

/-- What claiming a cluster comes to, where the search finds this one. -/
def claim : Option Nat → Except Failure Nat
  | some cluster => .ok cluster
  | none => .error .noSpace

/-- The writes that claim the cluster that a search finds. -/
def claimWrites : Option Nat → List Write
  | some cluster => medium.linkWrites volume cluster Link.endMark volume.tableCopies
  | none => []

variable {medium volume} {cluster : Nat} {value : UInt16}

/-- The clusters among which a free one is sought are the data clusters, all of them and
no others. -/
theorem mem_candidates :
    cluster ∈ List.range' 2 volume.clusterCount ↔ volume.DataCluster cluster := by
  have populated := volume.usable.two_le_maxCluster
  rw [List.mem_range'_1, Layout.DataCluster, Layout.clusterCount]
  omega

/-- A first part of the writes changes the first copies, so a disk that refuses one leaves
the later copies as they were. -/
theorem linkWrites_prefix {copies : Nat} {done : List Write}
    (begun : done <+: medium.linkWrites volume cluster value copies) :
    ∃ changed ≤ copies, done = medium.linkWrites volume cluster value changed := by
  rw [List.prefix_iff_eq_take] at begun
  refine ⟨min done.length copies, Nat.min_le_right _ _, ?_⟩
  rw [begun, linkWrites, ← List.map_take, List.take_range, linkWrites]
  simp

/-- Only sectors with an entry of the cluster are written, and each of them with this
entry replaced and nothing else. -/
theorem mem_linkWrites {copies : Nat} {write : Write}
    (member : write ∈ medium.linkWrites volume cluster value copies) :
    ∃ copy < copies, write.lba = volume.linkSector copy cluster ∧
      write.data = (medium (volume.linkSector copy cluster)).setWord (Layout.linkIndex cluster) value := by
  obtain ⟨copy, inside, rfl⟩ := List.mem_map.mp member
  exact ⟨copy, List.mem_range.mp inside, rfl, rfl⟩

/-- Different copies hold the entry in different sectors, so the writes do not interfere. -/
theorem linkWrites_distinct (data : volume.DataCluster cluster) (copies : Nat) :
    ((medium.linkWrites volume cluster value copies).map Write.lba).Nodup := by
  rw [linkWrites, List.map_map]
  refine List.Nodup.map ?_ List.nodup_range
  intro copy other same
  exact (Layout.linkSector_inj data data same).1

/-- The sector within a copy and the index within the sector tell the cluster of an entry. -/
theorem linkIndex_inj {number : Nat} (sector : cluster / 256 = number / 256)
    (index : Layout.linkIndex cluster = Layout.linkIndex number) : cluster = number := by
  have remainder : cluster % 256 = number % 256 := congrArg Fin.val index
  omega

/-- The entry of the cluster is changed in the copies that were written, whether or not
all of them were. -/
theorem linkIn_changed {copy copies : Nat} (data : volume.DataCluster cluster)
    (written : copy < copies) :
    (medium.apply (medium.linkWrites volume cluster value copies)).linkIn volume copy cluster =
      value := by
  have member : Write.mk (volume.linkSector copy cluster)
      ((medium (volume.linkSector copy cluster)).setWord (Layout.linkIndex cluster) value) ∈
        medium.linkWrites volume cluster value copies :=
    List.mem_map.mpr ⟨copy, List.mem_range.mpr written, rfl⟩
  have lasts := medium.apply_written (linkWrites_distinct data copies) member
  dsimp only at lasts
  rw [linkIn, lasts, Sector.word_setWord_self]

/-- Every word is left alone that does not hold the entry in one of the changed copies, in
whatever sector of the disk it stands. -/
theorem word_linkWrites_elsewhere {copies lba : Nat} {index : Fin 256}
    (data : volume.DataCluster cluster)
    (elsewhere : ∀ copy < copies, lba = volume.linkSector copy cluster →
      index ≠ Layout.linkIndex cluster) :
    (medium.apply (medium.linkWrites volume cluster value copies) lba).word index =
      (medium lba).word index := by
  by_cases touched : ∃ write ∈ medium.linkWrites volume cluster value copies, lba = write.lba
  · obtain ⟨write, member, rfl⟩ := touched
    obtain ⟨copy, inside, address, content⟩ := mem_linkWrites member
    rw [medium.apply_written (linkWrites_distinct data copies) member, content, address]
    exact Sector.word_setWord_other _ _ _ _ (elsewhere copy inside address)
  · rw [medium.apply_untouched fun write member same => touched ⟨write, member, same⟩]

/-- Changing a link leaves every word alone that does not hold it in any copy. This is the
frame of a change of the table. -/
theorem word_linkWrites {copies lba : Nat} {index : Fin 256} (data : volume.DataCluster cluster)
    (stored : copies ≤ volume.tableCopies) (elsewhere : ¬ volume.HoldsLink cluster lba index) :
    (medium.apply (medium.linkWrites volume cluster value copies) lba).word index =
      (medium lba).word index :=
  word_linkWrites_elsewhere data fun copy inside address same =>
    elsewhere ⟨copy, Nat.lt_of_lt_of_le inside stored, address, same⟩

/-- Every other entry keeps its value: that of another cluster, and that in a copy that
was not written. -/
theorem linkIn_kept {copy copies number : Nat} (data : volume.DataCluster cluster)
    (numbered : volume.DataCluster number) (other : number ≠ cluster ∨ copies ≤ copy) :
    (medium.apply (medium.linkWrites volume cluster value copies)).linkIn volume copy number =
      medium.linkIn volume copy number := by
  refine word_linkWrites_elsewhere data fun changed inside address index => ?_
  obtain ⟨rfl, sector⟩ := Layout.linkSector_inj numbered data address
  have equal := linkIndex_inj sector index
  omega

/-- Reading sees no change in the links of other clusters, in whatever copies the change
was made. -/
theorem link_other {number : Nat} {copies : Nat} (data : volume.DataCluster cluster)
    (numbered : volume.DataCluster number) (other : number ≠ cluster) :
    (medium.apply (medium.linkWrites volume cluster value copies)).link volume number =
      medium.link volume number := by
  simp only [link]
  rw [linkIn_kept data numbered (.inl other), linkIn_kept data numbered (.inl other)]

/-- Once the first copy is written, reading believes it, unless it was written to be zero;
the second copy does not count then. -/
theorem link_written {copies : Nat} (data : volume.DataCluster cluster) (taken : value ≠ 0)
    (begun : 0 < copies) :
    (medium.apply (medium.linkWrites volume cluster value copies)).link volume cluster = value := by
  simp only [link]
  rw [linkIn_changed data begun, if_pos (.inl taken)]

/-- A sector that holds no entry of the cluster keeps its content. Data, directories and
the boot sector are among these. -/
theorem linkWrites_untouched {copies lba : Nat}
    (elsewhere : ∀ copy < copies, lba ≠ volume.linkSector copy cluster) :
    medium.apply (medium.linkWrites volume cluster value copies) lba = medium lba := by
  apply medium.apply_untouched
  intro write member same
  obtain ⟨copy, inside, address, _⟩ := mem_linkWrites member
  exact elsewhere copy inside (same.trans address)

end Medium

namespace Volume

variable {medium : Medium} {volume : Volume} {cluster : Nat}

/-- Changing the entry of one copy reads its sector and writes it back with the entry
replaced. -/
theorem setLinkCopy_performs (value : UInt16) (copy : Nat) :
    Performs (volume.setLinkCopy cluster value copy) medium (.ok ())
      [⟨volume.linkSector copy cluster,
        (medium (volume.linkSector copy cluster)).setWord (Layout.linkIndex cluster) value⟩] :=
  (linkAddress_reads copy cluster).bind ((Reads.readSector _).bind (.writeSector _ _))

/-- Every copy is changed, the first copy first. No copy is written twice, so each is
changed as it was found. -/
theorem setLink_performs (data : volume.DataCluster cluster) (value : UInt16) :
    Performs (volume.setLink cluster value) medium (.ok ())
      (medium.linkWrites volume cluster value volume.tableCopies) := by
  have changes (copies : List Nat) (distinct : copies.Nodup) (current : Medium)
      (agreed : ∀ copy ∈ copies,
        current (volume.linkSector copy cluster) = medium (volume.linkSector copy cluster)) :
      Performs (copies.forM (volume.setLinkCopy cluster value)) current (.ok ())
        (copies.map fun copy => ⟨volume.linkSector copy cluster,
          (medium (volume.linkSector copy cluster)).setWord (Layout.linkIndex cluster) value⟩) := by
    -- Each copy is read as it was at first, for the copies before it lie in other sectors.
    induction copies generalizing current with
    | nil => exact .pure ()
    | cons copy rest inductionHypothesis =>
      rw [List.nodup_cons] at distinct
      have first : Performs (volume.setLinkCopy cluster value copy) current _ _ :=
        setLinkCopy_performs value copy
      rw [agreed copy List.mem_cons_self] at first
      refine first.bind (inductionHypothesis distinct.2 _ fun other member => ?_)
      rw [← agreed other (List.mem_cons_of_mem _ member)]
      refine current.write_other fun same => distinct.1 ?_
      obtain ⟨rfl, _⟩ := Layout.linkSector_inj data data same
      exact member
  exact changes _ List.nodup_range medium fun _ _ => rfl

/-- A candidate is passed over exactly when reading takes it for claimed. The first that
is not passed over is claimed, if there is one. -/
theorem claimFirst_performs {candidates : List Nat} {held : Option (Nat × Sector)}
    (data : ∀ cluster ∈ candidates, volume.DataCluster cluster)
    (fresh : ∀ address sector, held = some (address, sector) → sector = medium address) :
    Performs (volume.claimFirst held candidates) medium
      (Medium.claim (candidates.find? fun cluster => medium.link volume cluster == 0))
      (medium.claimWrites volume
        (candidates.find? fun cluster => medium.link volume cluster == 0)) := by
  -- Candidate by candidate: the sector that is held is one of the medium, so each is judged as its
  -- link is read.
  induction candidates generalizing held with
  | nil => exact .throw _
  | cons cluster rest inductionHypothesis =>
    have kept (address : Nat) (sector : Sector)
        (same : some (volume.linkSector 0 cluster, medium (volume.linkSector 0 cluster)) =
          some (address, sector)) : sector = medium address := by
      cases same
      rfl
    have further :=
      inductionHypothesis (fun other member => data other (List.mem_cons_of_mem _ member)) kept
    rw [claimFirst]
    refine (linkAddress_reads 0 cluster).bind ((readUnlessKept_reads fresh).bind ?_)
    by_cases marked : (medium (volume.linkSector 0 cluster)).word (Layout.linkIndex cluster) ≠ 0
    · have linked : medium.link volume cluster ≠ 0 := by
        unfold Medium.link Medium.linkIn
        rwa [if_pos (.inl marked)]
      rw [if_pos marked, List.find?_cons_of_neg (by simpa using linked)]
      exact further
    · rw [if_neg marked]
      apply (link_reads cluster).bind
      by_cases linked : medium.link volume cluster ≠ 0
      · rw [if_pos linked, List.find?_cons_of_neg (by simpa using linked)]
        exact further
      · rw [if_neg linked, List.find?_cons_of_pos (by simpa using linked)]
        exact (setLink_performs (data cluster List.mem_cons_self) Link.endMark).bindReads
          (.pure cluster)

/-- The lowest cluster that reading takes for free is claimed, in every copy; if there is
none, nothing is written. -/
theorem allocate_performs (medium : Medium) (volume : Volume) :
    Performs volume.allocate medium (Medium.claim (medium.firstFree volume))
      (medium.claimWrites volume (medium.firstFree volume)) :=
  claimFirst_performs (fun _ member => Medium.mem_candidates.mp member) (by simp)

end Volume

namespace Medium

variable {medium : Medium} {volume : Volume} {cluster : Nat}

/-- A cluster is found if and only if it is the lowest data cluster that reading takes for
free. -/
theorem firstFree_eq_some_iff :
    medium.firstFree volume = some cluster ↔
      IsLeast {number | volume.DataCluster number ∧ medium.link volume number = 0} cluster := by
  rw [firstFree, List.find?_range'_eq_some, mem_candidates]
  constructor
  · rintro ⟨free, data, claimed⟩
    refine ⟨⟨data, by simpa using free⟩, fun number ⟨numbered, unlinked⟩ => ?_⟩
    by_contra lower
    have taken := claimed number numbered.1 (Nat.lt_of_not_le lower)
    simp [unlinked] at taken
  · rintro ⟨⟨data, free⟩, least⟩
    refine ⟨by simpa using free, data, fun number low below => ?_⟩
    have taken : medium.link volume number ≠ 0 := fun unlinked =>
      absurd (least ⟨⟨low, Nat.le_trans (Nat.le_of_lt below) data.2⟩, unlinked⟩)
        (Nat.not_le_of_lt below)
    simpa using taken

/-- None is found if and only if reading takes no data cluster for free. -/
theorem firstFree_eq_none_iff :
    medium.firstFree volume = none ↔
      ∀ number, volume.DataCluster number → medium.link volume number ≠ 0 := by
  simp only [firstFree, List.find?_eq_none, mem_candidates, beq_iff_eq, ne_eq]

/-- A cluster that is found free is a data cluster that reading takes for free. -/
theorem firstFree_some (found : medium.firstFree volume = some cluster) :
    volume.DataCluster cluster ∧ medium.link volume cluster = 0 :=
  (firstFree_eq_some_iff.mp found).1

end Medium

end FatVolume
