import FatVolume.Proofs.Confinement.Requests
import FatVolume.Proofs.Enumeration
import FatVolume.Proofs.Preparation
import FatVolume.Proofs.TableBytes

/-!
# Chains that grow

A chain grows by the lowest free cluster, which is claimed, filled with zero bytes and linked
behind the last cluster of the chain. Walked from its first cluster, the longer chain has the
slots that it had, in the places where they stood, and behind them the end markers of a whole
cluster: nothing of what the cluster held before shows up in the directory. Every other link,
and every sector of another cluster or of the root region, is what it was.

Where no cluster is free, nothing is written; a number that is no data cluster is refused
before anything is asked of the disk.
-/

namespace FatVolume

namespace Medium

/-- The media differ in that a chain is longer by one cluster, which was free. It stands behind
the last cluster of the chain and ends it, in every copy of the table, and holds nothing but
zero bytes. Every other word is the same. -/
structure Prolonged (medium changed : Medium) (volume : Volume) (first : Nat) (front : List Nat)
    (last added : Nat) : Prop where
  chain : medium.ChainFrom volume first (front ++ [last])
  free : medium.link volume added = 0
  grown : changed.ChainFrom volume first (front ++ [last, added])
  linked : ∀ copy < volume.tableCopies, (changed.linkIn volume copy last).toNat = added
  claimed : changed.Claimed volume added
  blank : changed.Blank volume added
  kept : ∀ lba index, ¬ volume.InCluster added lba → ¬ volume.HoldsLink last lba index →
    ¬ volume.HoldsLink added lba index → (changed lba).word index = (medium lba).word index

/-- Undisturbed, a cursor yields these slots from the start of a directory on the medium, and
then the end. -/
def WalkYields (medium : Medium) (volume : Volume) (directory : Directory)
    (slots : List (SlotPosition × Slot)) : Prop :=
  ∃ cursor, Cursor.start volume directory = .ok cursor ∧
    ∀ (host : Host) (count : Nat), host.medium = medium → host.disk.sectorSize = 512 →
      host.Undisturbed
          (afterwards (Cursor.requests (Cursor.nextSlot volume) count) ⟨cursor, host⟩).host →
        outcome (Cursor.requests (Cursor.nextSlot volume) count) ⟨cursor, host⟩ =
          .ok (Course.told ⟨slots, none⟩ count)

variable {medium changed : Medium} {volume : Volume} {first last added : Nat} {front : List Nat}

/-- A walk along an intact chain yields the slots of its clusters, in the order of the
chain. -/
theorem ChainFrom.walkYields {clusters : List Nat}
    (chain : medium.ChainFrom volume first clusters) :
    medium.WalkYields volume (.chain first) (clusters.flatMap (medium.clusterSlots volume)) := by
  have started : Cursor.start volume (.chain first) = .ok { place := .chain first 0 0 0 } := by
    rw [Cursor.start, (Layout.checkCluster_ok_iff first).mpr chain.first_data]
    rfl
  refine ⟨_, started, fun host count holds sized undisturbed => ?_⟩
  have whole := chain.slots chain.distinct
  rw [← holds] at whole ⊢
  exact Cursor.start_told sized started whole count undisturbed

/-! ## Growing by a free cluster -/

/-- A chain ends with a cluster that has been claimed while it was free, once this is linked
behind its last one. -/
theorem ChainFrom.linked_behind {first last added : Nat} {front : List Nat}
    (chain : medium.ChainFrom volume first (front ++ [last])) (data : volume.DataCluster added)
    (free : medium.link volume added = 0) (spares : medium.Spares changed volume added)
    (claimed : changed.Claimed volume added) :
    (changed.apply (changed.linkWrites volume last (UInt16.ofNat added)
      volume.tableCopies)).ChainFrom volume first (front ++ [last, added]) := by
  have stands : last ∈ front ++ [last] := by simp
  have apart : ∀ cluster ∈ front ++ [last], cluster ≠ added := fun cluster member same =>
    chain.link_ne_zero member (same ▸ free)
  have grown := chain.grows chain.distinct List.getLast?_concat
    (fun cluster member other =>
      (link_other (chain.data last stands) (chain.data cluster member) other).trans
        (spares.link cluster (chain.data cluster member) (apart cluster member)))
    (by rw [link_written (chain.data last stands) data.ofNat_ne_zero
      volume.usable.tableCopies_pos, data.toNat_ofNat])
    (.last data (by
      rw [link_other (chain.data last stands) data (apart last stands).symm, claimed.link]
      decide))
  rwa [List.append_assoc] at grown

/-- An intact chain that grows by the lowest free cluster is prolonged by it, and nothing
else is changed on the medium. -/
theorem ChainFrom.prolonged (chain : medium.ChainFrom volume first (front ++ [last]))
    (free : medium.firstFree volume = some added) :
    medium.Prolonged (medium.apply (medium.growthWrites volume last added)) volume first front last
      added := by
  obtain ⟨data, unlinked⟩ := firstFree_some free
  have stands : last ∈ front ++ [last] := by simp
  have lastData : volume.DataCluster last := chain.data last stands
  have notLast : added ≠ last := fun same => chain.link_ne_zero stands (same ▸ unlinked)
  have spares : medium.Spares (medium.apply (medium.freshWrites volume added)) volume added :=
    .of_freshWrites data List.prefix_rfl
  have fresh : (medium.apply (medium.freshWrites volume added)).Claimed volume added :=
    .of_freshWrites data
  rw [growthWrites, apply_append]
  refine ⟨chain, unlinked, chain.linked_behind data unlinked spares fresh,
    fun copy stored => ?_, fun copy stored => ?_, fun lba inside => ?_,
    fun lba index outside other elsewhere => ?_⟩
  · rw [linkIn_changed lastData stored, data.toNat_ofNat]
  · exact (linkIn_kept lastData data (.inl notLast)).trans (fresh copy stored)
  · rw [linkWrites_above lastData le_rfl
      (Nat.le_trans volume.rootStart_le_dataStart inside.dataStart_le)]
    exact Blank.of_freshWrites medium volume added lba inside
  · rw [word_linkWrites lastData le_rfl other, freshWrites, apply_append,
      apply_outside (fun _ => mem_zeroWrites) outside, word_linkWrites data le_rfl elsewhere]

namespace Prolonged

variable (prolonged : medium.Prolonged changed volume first front last added)
include prolonged

/-- From the root region on, only the sectors of the fresh cluster are changed when a
chain is prolonged. -/
theorem sector {lba : Nat} (behind : volume.rootStart ≤ lba)
    (outside : ¬ volume.InCluster added lba) : changed lba = medium lba := by
  have apart {number : Nat} (data : volume.DataCluster number) (index : Fin 256) :
      ¬ volume.HoldsLink number lba index := by
    rintro ⟨copy, stored, rfl, _⟩
    have below := Layout.linkSector_lt_rootStart data stored
    omega
  exact Sector.ext_word fun index => prolonged.kept lba index outside
    (apart (prolonged.grown.data last (by simp)) index)
    (apart (prolonged.grown.data added (by simp)) index)

/-- The root region is the same when a chain is prolonged. -/
theorem root : medium.SameRoot changed volume := fun lba inside =>
  prolonged.sector inside.bounds.1 fun held => by
    have start := held.dataStart_le
    have ends := inside.bounds.2
    omega

/-- Every cluster but the fresh one has the same sectors when a chain is prolonged. -/
theorem sectors {number : Nat} (data : volume.DataCluster number) (other : number ≠ added) :
    medium.SameSectors changed volume number := fun _ inside =>
  prolonged.sector (Nat.le_trans volume.rootStart_le_dataStart inside.dataStart_le) fun held =>
    other (inside.unique held data (prolonged.grown.data added (by simp)))

/-- Every cluster but the fresh one and the last one of the former chain has the same link
when a chain is prolonged. -/
theorem link_other {number : Nat} (data : volume.DataCluster number) (notLast : number ≠ last)
    (notAdded : number ≠ added) : changed.link volume number = medium.link volume number := by
  have apart {other copy : Nat} (held : volume.DataCluster other) (different : number ≠ other) :
      ¬ volume.HoldsLink other (volume.linkSector copy number) (Layout.linkIndex number) := by
    rintro ⟨_, _, same, index⟩
    exact different (linkIndex_inj (Layout.linkSector_inj data held same).2 index)
  refine link_congr fun copy stored => prolonged.kept _ _ (fun inside => ?_)
    (apart (prolonged.grown.data last (by simp)) notLast)
    (apart (prolonged.grown.data added (by simp)) notAdded)
  have start := inside.dataStart_le
  have roots := volume.rootStart_le_dataStart
  have below := Layout.linkSector_lt_rootStart data stored
  omega

/-- The prolonged chain has the slots that it had, and behind them those of the fresh
cluster. -/
theorem slots : (front ++ [last, added]).flatMap (changed.clusterSlots volume) =
    (front ++ [last]).flatMap (medium.clusterSlots volume) ++ changed.clusterSlots volume added := by
  have kept : (front ++ [last]).flatMap (changed.clusterSlots volume) =
      (front ++ [last]).flatMap (medium.clusterSlots volume) := by
    refine List.flatMap_congr fun cluster member => ?_
    have other : cluster ≠ added := fun same =>
      prolonged.chain.link_ne_zero member (same ▸ prolonged.free)
    exact (prolonged.sectors (prolonged.chain.data cluster member) other).slots
  rw [← kept]
  simp only [List.flatMap_append, List.flatMap_cons, List.flatMap_nil, List.append_nil,
    List.append_assoc]

end Prolonged

end Medium

namespace Volume

variable {volume : Volume} {host : Host}

/-- Extending a chain behind what is no data cluster is refused before anything happens to
the host, as a reserved or a broken one. -/
theorem extendChain_refused {last : Nat} (other : ¬ volume.DataCluster last) (host : Host) :
    volume.extendChain last host =
      .error (if last < 2 then .reservedCluster else .brokenChain) host := by
  simp only [extendChain, Layout.checkCluster_refused other]
  rfl

/-- A chain that is extended on a disk that refuses nothing grows by a cluster that was free, or
there is no space, and then no write was attempted. The added cluster ends the longer chain, and
every copy of the table tells so and links it behind the cluster that was last. A walk from the
first cluster yields the slots that it had yielded, and behind them as many end markers as fill
a cluster. The links of all other clusters are read as before, and the sectors of all other
clusters and of the root region are the same.

What is no data cluster is refused on every disk, and nothing is asked of it. -/
theorem extendChain_appends_blank (volume : Volume) (host : Host) (last : Nat) :
    let result := outcome (volume.extendChain last) host
    let after := afterwards (volume.extendChain last) host
    (¬ volume.DataCluster last →
      result = .error (if last < 2 then .reservedCluster else .brokenChain) ∧ after = host) ∧
    ∀ first front, host.medium.ChainFrom volume first (front ++ [last]) →
      host.disk.sectorSize = 512 → host.Undisturbed after →
      (result = .error .noSpace ∧ host.Spared Event.IsWrite after) ∨
      ∃ added, result = .ok added ∧ Reads (volume.link added) host.medium (.ok 0) ∧
        after.medium.ChainFrom volume first (front ++ [last, added]) ∧
        (∀ copy < volume.tableCopies,
          (after.disk.tableEntry volume.toLayout copy last).toNat = added ∧
          after.disk.tableEntry volume.toLayout copy added = Link.endMark) ∧
        (∃ old fresh, host.medium.WalkYields volume (.chain first) old ∧
          after.medium.WalkYields volume (.chain first) (old ++ fresh) ∧
          fresh.length = volume.sectorsPerCluster * 16 ∧ ∀ slot ∈ fresh, slot.2 = .endMarker) ∧
        (∀ number, volume.DataCluster number → number ≠ last → number ≠ added →
          ∃ told, Reads (volume.link number) host.medium (.ok told) ∧
            Reads (volume.link number) after.medium (.ok told)) ∧
        (∀ number, volume.DataCluster number → number ≠ added →
          host.medium.SameSectors after.medium volume number) ∧
        host.medium.SameRoot after.medium volume := by
  intro result after
  refine ⟨fun other => ran_error_iff.mp (extendChain_refused other host),
    fun first front chain sized undisturbed => ?_⟩
  have data : volume.DataCluster last := chain.data last (by simp)
  -- Whether there is a free cluster decides between the two ends, and both are told from the
  -- medium.
  cases free : host.medium.firstFree volume with
  | none =>
    obtain ⟨ended, events, traced, carried⟩ :=
      (extendChain_exhausted data free host rfl).journaled sized undisturbed
    exact .inl ⟨ended, undisturbed.unwritten traced carried⟩
  | some added =>
    obtain ⟨ended, changed⟩ :=
      (extendChain_performs data free host rfl).carriedOut sized undisturbed
    change after.medium = _ at changed
    have prolonged := chain.prolonged free
    rw [← changed] at prolonged
    have walked := prolonged.grown.walkYields
    rw [prolonged.slots] at walked
    refine .inr ⟨added, ended, prolonged.free ▸ link_reads added, prolonged.grown,
      fun copy stored => ?_, ⟨_, _, chain.walkYields, walked,
        Medium.clusterSlots_length _, prolonged.blank.slots⟩,
      fun number numbered notLast notAdded => ?_, fun number => prolonged.sectors, prolonged.root⟩
    · rw [Host.tableEntry_eq_linkIn, Host.tableEntry_eq_linkIn]
      exact ⟨prolonged.linked copy stored, prolonged.claimed copy stored⟩
    · have told := prolonged.link_other numbered notLast notAdded
      exact ⟨_, link_reads number, told ▸ link_reads number⟩

/-- On the disk with two linked clusters, extending behind cluster 1 is refused, and the
chain of clusters 2 and 5 is extended by cluster 3. -/
theorem extendChain_appends_blank_linked :
    let host := Cursor.linkedHost
    let after := afterwards (small.extendChain 5) host
    ¬ small.DataCluster 1 ∧ outcome (small.extendChain 1) host = .error .reservedCluster ∧
      host.medium.ChainFrom small 2 ([2] ++ [5]) ∧ host.disk.sectorSize = 512 ∧
      host.Undisturbed after ∧ outcome (small.extendChain 5) host = .ok 3 ∧
      after.medium.ChainFrom small 2 [2, 5, 3] := by
  intro host after
  have data (cluster : Nat) (low : 2 ≤ cluster) (high : cluster ≤ 5) : small.DataCluster cluster :=
    ⟨low, Nat.le_trans high (by decide)⟩
  have outside : ¬ small.DataCluster 1 := fun inside => absurd inside.1 (by decide)
  have chain : host.medium.ChainFrom small 2 ([2] ++ [5]) :=
    .next (data 2 (by decide) (by decide)) (by decide +kernel)
      (.last (data 5 (by decide) (by decide)) (by decide +kernel))
  have serves : host.Serves small := .of_capacity rfl (by decide) fun _ _ => rfl
  have confined : Confined small.toLayout AnyTransfer (small.extendChain 5) _ :=
    extendChain_confined (fun _ => trivial) 5
  have calm : host.Undisturbed after := (confined host).1.served serves
  have grown : outcome (small.extendChain 5) host = .ok 3 := by decide +kernel
  have refused := ((extendChain_appends_blank small host 1).1 outside).1
  rcases (extendChain_appends_blank small host 5).2 2 [2] chain rfl calm with
    ⟨failed, _⟩ | ⟨added, ended, _, longer, _⟩
  · rw [grown] at failed
    cases failed
  · rw [grown] at ended
    cases ended
    exact ⟨outside, refused, chain, rfl, calm, grown, longer⟩

end Volume

end FatVolume
