import FatVolume.Proofs.Creation
import FatVolume.Proofs.Growth

/-!
# Preparing a cluster outside of the tree

A cluster is claimed and filled while no chain leads to it. The writes that do so change
the table entries and the sectors of this one cluster, so the tree is carried over after
each of them. When all of them are carried out, every copy of the table ends the chain of
the cluster, and it holds nothing but zero bytes, or an empty directory.
-/

namespace FatVolume

namespace Medium

/-- The media differ in nothing but the link and the sectors of one cluster. -/
structure Spares (medium changed : Medium) (volume : Volume) (spare : Nat) : Prop where
  root : medium.SameRoot changed volume
  link : ∀ cluster, volume.DataCluster cluster → cluster ≠ spare →
    changed.link volume cluster = medium.link volume cluster
  sectors : ∀ cluster, volume.DataCluster cluster → cluster ≠ spare →
    medium.SameSectors changed volume cluster

/-- Every copy of the table ends the chain of the cluster. -/
def Claimed (medium : Medium) (volume : Volume) (cluster : Nat) : Prop :=
  ∀ copy < volume.tableCopies, medium.linkIn volume copy cluster = Link.endMark

variable {medium changed : Medium} {volume : Volume} {spare : Nat}

namespace Spares

/-- A medium differs from itself in nothing, and so in nothing but the link and the
sectors of any one cluster. -/
theorem refl (medium : Medium) (volume : Volume) (spare : Nat) :
    medium.Spares medium volume spare := ⟨fun _ _ => rfl, fun _ _ _ => rfl, fun _ _ _ _ _ => rfl⟩

/-- Differences in the link and the sectors of one cluster add up to differences in the
link and the sectors of that same cluster. -/
theorem trans {further : Medium} (first : medium.Spares changed volume spare)
    (second : changed.Spares further volume spare) : medium.Spares further volume spare where
  root lba inside := (second.root lba inside).trans (first.root lba inside)
  link cluster data other := (second.link cluster data other).trans (first.link cluster data other)
  sectors cluster data other lba inside :=
    (second.sectors cluster data other lba inside).trans (first.sectors cluster data other lba inside)

/-- The link of a cluster that the tree uses is the same in both media, since the cluster
in which they may differ is not used. -/
theorem link_used (spares : medium.Spares changed volume spare)
    (unused : ¬ medium.Used volume spare) {cluster : Nat} (used : medium.Used volume cluster) :
    changed.link volume cluster = medium.link volume cluster :=
  spares.link cluster used.data fun same => unused (same ▸ used)

/-- The sectors of a cluster that the tree uses are the same in both media, since the
cluster in which they may differ is not used. -/
theorem sectors_used (spares : medium.Spares changed volume spare)
    (unused : ¬ medium.Used volume spare) {cluster : Nat} (used : medium.Used volume cluster) :
    medium.SameSectors changed volume cluster :=
  spares.sectors cluster used.data fun same => unused (same ▸ used)

variable (spares : medium.Spares changed volume spare) (consistent : medium.Consistent volume)
  (unused : ¬ medium.Used volume spare)
include spares consistent unused

/-- Every directory that is reached has the slots that it had, as long as no chain of the
tree leads to the cluster in which the media may differ. -/
theorem slots {directory : Directory} (reachable : medium.Reachable volume directory) :
    changed.slots volume directory = medium.slots volume directory :=
  consistent.slots_untouched spares.root (fun _ => spares.link_used unused)
    (fun _ => spares.sectors_used unused) reachable

/-- The tree is carried over unchanged, and no chain of it grows, as long as none of them
leads to the cluster in which the media may differ. -/
theorem carries : medium.Carries changed volume fun _ => [] :=
  .of_untouched consistent spares.root (fun _ => spares.link_used unused)
    fun _ => spares.sectors_used unused

end Spares

/-! ## Writes to the table -/

/-- Changing a link in any number of copies leaves every sector from the root region on
alone, as all copies lie in front of it. -/
theorem linkWrites_above {cluster copies lba : Nat} {value : UInt16}
    (data : volume.DataCluster cluster) (stored : copies ≤ volume.tableCopies)
    (above : volume.rootStart ≤ lba) :
    medium.apply (medium.linkWrites volume cluster value copies) lba = medium lba := by
  apply linkWrites_untouched
  intro copy inside same
  have below := Layout.linkSector_lt_rootStart data (Nat.lt_of_lt_of_le inside stored)
  omega

/-- The writes that set the link of a cluster, into all copies or the first few, change
nothing besides that link: other links and all data stand. -/
theorem Spares.of_linkWrites {copies : Nat} {value : UInt16} (data : volume.DataCluster spare)
    (stored : copies ≤ volume.tableCopies) :
    medium.Spares (medium.apply (medium.linkWrites volume spare value copies)) volume spare where
  root _ inside := linkWrites_above data stored inside.bounds.1
  link _ numbered other := link_other data numbered other
  sectors _ _ _ _ inside :=
    linkWrites_above data stored (Nat.le_trans volume.rootStart_le_dataStart inside.dataStart_le)

/-- A cluster is claimed once the end mark has been written as its link into every copy of
the table. -/
theorem claimed_of_linkWrites {cluster : Nat} (data : volume.DataCluster cluster) :
    (medium.apply (medium.linkWrites volume cluster Link.endMark volume.tableCopies)).Claimed
      volume cluster := fun _ stored => linkIn_changed data stored

/-- The link of a claimed cluster is read as the end mark, whichever copy it is taken
from, and so the cluster ends a chain. -/
theorem Claimed.link {cluster : Nat} (claimed : medium.Claimed volume cluster) :
    medium.link volume cluster = Link.endMark := by
  have first := claimed 0 volume.usable.tableCopies_pos
  have taken : Link.endMark ≠ 0 := by decide
  rw [Medium.link, first, if_pos (.inl taken)]

/-! ## Writes to a cluster -/

/-- Writes that all fall inside one cluster leave every sector outside of that cluster as
it was. -/
theorem apply_outside {cluster lba : Nat} {writes : List Write}
    (within : ∀ write ∈ writes, volume.InCluster cluster write.lba)
    (outside : ¬ volume.InCluster cluster lba) : medium.apply writes lba = medium lba :=
  medium.apply_untouched fun write member same => outside (same ▸ within write member)

/-- Writes that all fall inside one cluster leave the table copies as they were, since
clusters begin behind the root region. -/
theorem SameTable.of_inside {cluster : Nat} {writes : List Write}
    (within : ∀ write ∈ writes, volume.InCluster cluster write.lba) :
    medium.SameTable (medium.apply writes) volume := by
  intro lba below
  apply apply_outside within
  intro inside
  have start := inside.dataStart_le
  have roots := volume.rootStart_le_dataStart
  omega

/-- Writes that all fall inside one cluster change nothing but the sectors of that
cluster, for no two clusters share a sector. -/
theorem Spares.of_inside {writes : List Write} (data : volume.DataCluster spare)
    (within : ∀ write ∈ writes, volume.InCluster spare write.lba) :
    medium.Spares (medium.apply writes) volume spare where
  root lba inside := by
    apply apply_outside within
    intro held
    have start := held.dataStart_le
    have ends := inside.bounds.2
    omega
  link _ numbered _ := (SameTable.of_inside within).link numbered
  sectors _ numbered other _ inside :=
    apply_outside within fun held => other (inside.unique held numbered data)

/-- Each of the writes that fill a cluster with zero bytes falls inside that cluster. -/
theorem mem_zeroWrites {cluster : Nat} {write : Write}
    (member : write ∈ volume.zeroWrites cluster) : volume.InCluster cluster write.lba := by
  obtain ⟨sector, inside, rfl⟩ := List.mem_map.mp member
  exact ⟨sector, List.mem_range.mp inside, rfl⟩

/-- Each of the writes that lay out an empty directory in a cluster falls inside that
cluster, the first sector with its two entries included. -/
theorem mem_initialWrites {cluster : Nat} {parent : Directory} {write : Write}
    (member : write ∈ volume.initialWrites cluster parent) :
    volume.InCluster cluster write.lba := by
  rcases List.mem_append.mp member with zero | first
  · exact mem_zeroWrites zero
  · rw [List.mem_singleton.mp first]
    exact ⟨0, volume.usable.sectorsPerCluster_pos, rfl⟩

/-- After the writes that fill a cluster with zero bytes the cluster is blank, whatever
its sectors held before. -/
theorem blank_of_zeroWrites (medium : Medium) (volume : Volume) (cluster : Nat) :
    (medium.apply (volume.zeroWrites cluster)).Blank volume cluster := by
  rintro lba ⟨sector, inside, rfl⟩
  have distinct : ((volume.zeroWrites cluster).map Write.lba).Nodup := by
    rw [Volume.zeroWrites, List.map_map]
    refine List.Nodup.map ?_ List.nodup_range
    intro sector other same
    exact Nat.add_left_cancel same
  have member : ⟨volume.clusterStart cluster + sector, Sector.zero⟩ ∈ volume.zeroWrites cluster :=
    List.mem_map.mpr ⟨sector, List.mem_range.mpr inside, rfl⟩
  exact medium.apply_written distinct member

/-- The cluster is filled as an empty directory below a parent. -/
structure Filled (medium : Medium) (volume : Volume) (cluster : Nat) (parent : Directory) :
    Prop where
  first : medium (volume.clusterStart cluster + 0) = Volume.firstSector cluster parent
  blank : ∀ lba, volume.InCluster cluster lba → lba ≠ volume.clusterStart cluster + 0 →
    medium lba = Sector.zero

/-- After the writes that lay out an empty directory in a cluster, its first sector holds
the two entries and all its other sectors hold zero bytes. -/
theorem filled_of_initialWrites (medium : Medium) (volume : Volume) (cluster : Nat)
    (parent : Directory) :
    (medium.apply (volume.initialWrites cluster parent)).Filled volume cluster parent where
  first := by
    rw [Volume.initialWrites, apply_append]
    exact write_self _ _ _
  blank lba inside other := by
    rw [Volume.initialWrites, apply_append]
    exact (write_other _ other).trans (blank_of_zeroWrites medium volume cluster lba inside)

/-! ## Both in turn -/

/-- The first part of one run of writes followed by another is a first part of the one, or
all of the one and a first part of the other. -/
theorem prefix_append_cases {done first second : List Write} (begun : done <+: first ++ second) :
    done <+: first ∨ ∃ more, done = first ++ more ∧ more <+: second := by
  obtain ⟨rest, whole⟩ := begun
  rcases List.append_eq_append_iff.mp whole with ⟨remains, same, _⟩ | ⟨more, same, divided⟩
  · exact .inl ⟨remains, same.symm⟩
  · exact .inr ⟨more, same, rest, divided.symm⟩

/-- The last write of a first part of two runs belongs to the first run, or else to the
second, of which the part then holds that write and all earlier ones. -/
theorem concat_prefix_cases {done first second : List Write} {write : Write}
    (begun : done ++ [write] <+: first ++ second) :
    done ++ [write] <+: first ∨ ∃ more, done = first ++ more ∧ more ++ [write] <+: second := by
  rcases prefix_append_cases begun with before | ⟨more, same, further⟩
  · exact .inl before
  · rcases List.eq_nil_or_concat more with rfl | ⟨earlier, last, rfl⟩
    · rw [List.append_nil] at same
      exact .inl (same ▸ List.prefix_rfl)
    · rw [List.concat_eq_append] at same further
      rw [← List.append_assoc] at same
      obtain ⟨rfl, rfl⟩ := List.append_singleton_inj.mp same
      exact .inr ⟨earlier, rfl, further⟩

variable {filling : List Write}

/-- Wherever the claim of a cluster and the filling of its sectors stop, nothing but the
link and the sectors of that cluster has changed. -/
theorem Spares.of_claiming {done : List Write} (data : volume.DataCluster spare)
    (within : ∀ write ∈ filling, volume.InCluster spare write.lba)
    (begun : done <+: medium.linkWrites volume spare Link.endMark volume.tableCopies ++ filling) :
    medium.Spares (medium.apply done) volume spare := by
  rcases prefix_append_cases begun with claiming | ⟨more, rfl, further⟩
  · obtain ⟨copies, stored, rfl⟩ := linkWrites_prefix claiming
    exact .of_linkWrites data stored
  · rw [apply_append]
    exact (Spares.of_linkWrites data le_rfl).trans
      (.of_inside data fun write member => within write (further.mem member))

/-- Once a cluster has been claimed in every copy and then filled, it is still claimed,
since filling it leaves the table alone. -/
theorem Claimed.of_claiming (data : volume.DataCluster spare)
    (within : ∀ write ∈ filling, volume.InCluster spare write.lba) :
    (medium.apply (medium.linkWrites volume spare Link.endMark volume.tableCopies ++
      filling)).Claimed volume spare := by
  intro copy stored
  rw [apply_append, linkIn, SameTable.of_inside within _ (Layout.linkSector_lt_rootStart data stored)]
  exact claimed_of_linkWrites data copy stored

/-! ## A fresh cluster -/

/-- Wherever the writes that prepare a fresh blank cluster stop, nothing but the link and
the sectors of that cluster has changed. -/
theorem Spares.of_freshWrites {done : List Write} (data : volume.DataCluster spare)
    (begun : done <+: medium.freshWrites volume spare) :
    medium.Spares (medium.apply done) volume spare :=
  .of_claiming data (fun _ => mem_zeroWrites) begun

/-- After the writes that prepare a fresh blank cluster, the end mark is its link in every
copy of the table. -/
theorem Claimed.of_freshWrites (data : volume.DataCluster spare) :
    (medium.apply (medium.freshWrites volume spare)).Claimed volume spare :=
  .of_claiming data fun _ => mem_zeroWrites

/-- After the writes that prepare a fresh blank cluster, each of its sectors holds zero
bytes. -/
theorem Blank.of_freshWrites (medium : Medium) (volume : Volume) (spare : Nat) :
    (medium.apply (medium.freshWrites volume spare)).Blank volume spare := by
  rw [freshWrites, apply_append]
  exact blank_of_zeroWrites _ volume spare

end Medium

end FatVolume
