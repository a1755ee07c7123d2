import FatVolume.Proofs.Confinement.Requests
import FatVolume.Proofs.Service
import FatVolume.Proofs.TableBytes

/-!
# Claiming the lowest free cluster

Whether a cluster is free is told by its entries in the first two copies of the table, which
may disagree; a copy behind them is never asked. The search keeps the sector of the first copy
from one cluster to the next one and asks for a link only where that sector says free, and
still it finds what asking for every link would find: the lowest free cluster.

Claiming it changes its entry in every copy of the table and no other byte of the disk. Where
no cluster is free, nothing is written.
-/

namespace FatVolume

/-- By its entries the cluster is free: in the first copy of the table, and in the second one
where there is one. -/
def Disk.FreeCluster (disk : Disk) (volume : Volume) (cluster : Nat) : Prop :=
  volume.DataCluster cluster ∧ disk.tableEntry volume.toLayout 0 cluster = 0 ∧
    (2 ≤ volume.tableCopies → disk.tableEntry volume.toLayout 1 cluster = 0)

/-- A cluster is free by the entries in the copies of the table if and only if it is a
data cluster whose link is read as free. -/
theorem Host.freeCluster_iff {host : Host} {volume : Volume} {cluster : Nat} :
    host.disk.FreeCluster volume cluster ↔
      volume.DataCluster cluster ∧ host.medium.link volume cluster = 0 := by
  simp only [Disk.FreeCluster, Host.tableEntry_eq_linkIn, Medium.link]
  refine and_congr_right fun _ => ?_
  split
  · next decided =>
    refine ⟨And.left, fun free => ⟨free, fun several => ?_⟩⟩
    rcases decided with taken | single
    · exact absurd free taken
    · omega
  · next undecided =>
    rw [not_or, not_not, Nat.not_lt] at undecided
    exact ⟨fun free => free.2 undecided.2, fun second => ⟨undecided.1, fun _ => second⟩⟩

namespace Volume

variable {volume : Volume} {host : Host}

/-- On a disk that refuses nothing, the lowest cluster that is free by its entries is claimed,
and there is no space exactly if none is free. A claimed cluster ends a chain: every copy of
the table has the end mark for it, and reading tells an end of chain; no other byte of the disk
has changed. Where there is no space, no write was attempted. -/
theorem allocate_claims_lowest (sized : host.disk.sectorSize = 512)
    (undisturbed : host.Undisturbed (afterwards volume.allocate host)) :
    let result := outcome volume.allocate host
    let after := afterwards volume.allocate host
    (∀ cluster, result = .ok cluster ↔ IsLeast {number | host.disk.FreeCluster volume number} cluster) ∧
    (result = .error .noSpace ↔ ∀ cluster, ¬ host.disk.FreeCluster volume cluster) ∧
    (∀ cluster, result = .ok cluster →
      (∀ copy < volume.tableCopies,
        after.disk.tableEntry volume.toLayout copy cluster = Link.endMark) ∧
      (∃ told, Link.endsChain told = true ∧ Reads (volume.link cluster) after.medium (.ok told)) ∧
      ∀ offset, (∀ copy < volume.tableCopies, ¬ volume.InLink copy cluster offset) →
        after.disk.byte offset = host.disk.byte offset) ∧
    (result = .error .noSpace → host.Spared Event.IsWrite after) := by
  intro result after
  have performs := allocate_performs host.medium volume host rfl
  obtain ⟨ended, events, traced, carried⟩ := performs.journaled sized undisturbed
  obtain ⟨_, changed⟩ := performs.carriedOut sized undisturbed
  change result = _ at ended
  change after.medium = _ at changed
  -- The outcome is told by the lowest free cluster of the medium, and so is what was written.
  have claimed (cluster : Nat) :
      result = .ok cluster ↔ host.medium.firstFree volume = some cluster := by
    rw [ended]
    cases host.medium.firstFree volume <;> simp [Medium.claim]
  have exhausted : result = .error .noSpace ↔ host.medium.firstFree volume = none := by
    rw [ended]
    cases host.medium.firstFree volume <;> simp [Medium.claim]
  simp only [Host.freeCluster_iff]
  refine ⟨fun cluster => (claimed cluster).trans Medium.firstFree_eq_some_iff,
    exhausted.trans (by simp only [Medium.firstFree_eq_none_iff, not_and, ne_eq]),
    fun cluster succeeded => ?_, fun failed => ?_⟩
  · have found := (claimed cluster).mp succeeded
    have data := (Medium.firstFree_some found).1
    rw [found] at changed
    change after.medium = host.medium.apply
      (host.medium.linkWrites volume cluster Link.endMark volume.tableCopies) at changed
    refine ⟨fun copy stored => ?_, ⟨Link.endMark, by decide, ?_⟩, fun offset outside => ?_⟩
    · rw [Host.tableEntry_eq_linkIn, changed, Medium.linkIn_changed data stored]
    · have told : after.medium.link volume cluster = Link.endMark := by
        rw [changed, Medium.link_written data (by decide) volume.usable.tableCopies_pos]
      exact told ▸ link_reads cluster
    · change after.medium.byte offset = host.medium.byte offset
      rw [changed, Medium.byte_linkWrites data outside]
  · rw [exhausted.mp failed] at carried
    exact undisturbed.unwritten traced carried

/-- A host with a disk of twenty sectors on which cluster 2 is claimed in the second copy of
the table alone, and cluster 3 in the first one alone. -/
def disagreeingHost : Host where
  disk :=
    { capacity := 20
      contents := ((∅ : Std.TreeMap Nat Sector).insert 1
        (Sector.zero.setWord (Layout.linkIndex 3) Link.endMark)).insert 2
        (Sector.zero.setWord (Layout.linkIndex 2) Link.endMark) }
  largestBlock := 4096

/-- On a disk whose copies disagree about two clusters, neither of these is claimed again,
but the next one behind them. -/
theorem allocate_claims_lowest_disagreeing :
    let after := afterwards small.allocate disagreeingHost
    disagreeingHost.disk.sectorSize = 512 ∧ disagreeingHost.Undisturbed after ∧
      outcome small.allocate disagreeingHost = .ok 4 ∧
      IsLeast {number | disagreeingHost.disk.FreeCluster small number} 4 := by
  intro after
  have serves : disagreeingHost.Serves small := .of_capacity rfl (by decide) fun _ _ => rfl
  have confined : Confined small.toLayout AnyTransfer small.allocate _ :=
    allocate_confined (fun _ => trivial)
  have calm : disagreeingHost.Undisturbed after := (confined disagreeingHost).1.served serves
  have found : outcome small.allocate disagreeingHost = .ok 4 := by decide +kernel
  exact ⟨rfl, calm, found, ((allocate_claims_lowest rfl calm).1 4).mp found⟩

end Volume

end FatVolume
