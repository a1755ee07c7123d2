import FatVolume.Proofs.Names
import FatVolume.Proofs.Tree
import Mathlib.Data.List.Nodup

/-!
# Trees that are carried over

A change of a medium carries its tree over when every chain stands as it did, except that
chains may have grown by clusters of end markers which belonged to no chain, and when every
directory has the slots that it had, except for end markers behind slots of which none was
one. The tree is then the same: the same directories are reached, with the same entries,
and the medium stays consistent.

Two changes do so: one that leaves the clusters of the tree alone, and one that links a
blank cluster behind a directory in which no slot is free.
-/

namespace FatVolume

namespace Medium

/-- Some slots, with more end markers behind where there was none before. -/
inductive Lengthened (slots : List (SlotPosition × Slot)) : List (SlotPosition × Slot) → Prop
  | same : Lengthened slots slots
  | more {further : List (SlotPosition × Slot)} (full : ∀ slot ∈ slots, slot.2 ≠ .endMarker)
      (blank : ∀ slot ∈ further, slot.2 = .endMarker) : Lengthened slots (slots ++ further)

/-- Where no slot is an end marker, the entries of more slots follow: the live entries of
both lists together are those of the first, with those of the second behind them. -/
theorem liveEntries_append {slots further : List (SlotPosition × Slot)} {ending : Option Failure}
    (full : ∀ slot ∈ slots, slot.2 ≠ .endMarker) :
    liveEntries ending (slots ++ further) =
      (liveEntries ending further).behind (liveEntries none slots).items := by
  fun_induction liveEntries none slots with
  | case1 => rfl
  | case2 position rest => exact absurd rfl (full _ List.mem_cons_self)
  | case3 position entry rest inductionHypothesis =>
    rw [List.cons_append, liveEntries,
      inductionHypothesis fun slot member => full slot (List.mem_cons_of_mem _ member)]
    rfl
  | case4 position rest inductionHypothesis | case5 position rest inductionHypothesis
  | case6 position rest inductionHypothesis =>
    rw [List.cons_append, liveEntries]
    exact inductionHypothesis fun slot member => full slot (List.mem_cons_of_mem _ member)

/-- End markers hold no entries: a list of slots that are all end markers has an empty
course of live entries, which ends without a failure. -/
theorem liveEntries_blank {slots : List (SlotPosition × Slot)}
    (blank : ∀ slot ∈ slots, slot.2 = .endMarker) : liveEntries none slots = ⟨[], none⟩ := by
  cases slots with
  | nil => rfl
  | cons slot rest =>
    obtain ⟨position, content⟩ := slot
    obtain rfl : content = .endMarker := blank _ List.mem_cons_self
    rfl

namespace Lengthened

variable {slots others : List (SlotPosition × Slot)}

/-- Lengthening leaves the entries as they were, since what was put behind the slots is
end markers, and these were put there only where no end marker stood before. -/
theorem entries (lengthened : Lengthened slots others) :
    liveEntries none others = liveEntries none slots := by
  cases lengthened with
  | same => rfl
  | @more further full blank =>
    rw [liveEntries_append full, liveEntries_blank blank, Course.behind, List.append_nil]
    exact congrArg (Course.mk _) (liveEntries_ending slots).symm

/-- A list of slots that holds an end marker is not lengthened, so that one which came to
its end before still does so, at the same marker. -/
theorem ended (lengthened : Lengthened slots others) (ended : Ended slots) : Ended others := by
  cases lengthened with
  | same => exact ended
  | more full blank =>
    refine List.pairwise_append.mpr ⟨ended, ?_, ?_⟩
    · exact List.pairwise_of_forall_mem_list fun _ _ later member _ => blank later member
    · exact fun earlier member _ _ marks => absurd marks (full earlier member)

/-- The slots that were there stand at the front of the longer list, in their order and at
their positions; lengthening only puts more behind them. -/
theorem begins (lengthened : Lengthened slots others) : slots <+: others := by
  cases lengthened with
  | same => exact List.prefix_rfl
  | more full blank => exact List.prefix_append _ _

end Lengthened

/-- The tree of the first medium stands on the second as well. The entry at each position
has a chain that has grown by some clusters. -/
structure Carries (medium changed : Medium) (volume : Volume)
    (growth : SlotPosition → List Nat) : Prop where
  chain : ∀ item clusters, medium.Owner volume item → medium.Stores volume item clusters →
    clusters.Nodup → changed.Stores volume item (clusters ++ growth item.1)
  fresh : ∀ position, ∀ cluster ∈ growth position, ¬ medium.Used volume cluster
  distinct : ∀ position, (growth position).Nodup
  apart : ∀ position other, position ≠ other → (growth position).Disjoint (growth other)
  slots : ∀ directory, medium.Reachable volume directory →
    (changed.slots volume directory).ending = none ∧
      Lengthened (medium.slots volume directory).items (changed.slots volume directory).items
  content : ∀ item, medium.Owner volume item → item.2.isDirectory = false → ∀ offset length,
    changed.content volume item.2.cluster.toNat offset length =
      medium.content volume item.2.cluster.toNat offset length

variable {medium changed : Medium} {volume : Volume} {growth : SlotPosition → List Nat}

namespace Carries

variable (carries : medium.Carries changed volume growth) (consistent : medium.Consistent volume)
include carries consistent

/-- A directory that is reached in the first medium has the same entries in the second,
although its slots may have been followed by end markers. -/
theorem entries {directory : Directory} (reachable : medium.Reachable volume directory) :
    changed.entries volume directory = medium.entries volume directory := by
  obtain ⟨ending, lengthened⟩ := carries.slots directory reachable
  simp only [Medium.entries, Course.entries]
  rw [ending, consistent.slots_ending reachable, lengthened.entries]

/-- The same directories are reached in both media. Each step from a directory to one
below it goes through an entry, and the entries of reached directories are the same. -/
theorem reachable_iff {directory : Directory} :
    changed.Reachable volume directory ↔ medium.Reachable volume directory := by
  constructor
  · intro reachable
    -- Step by step down the tree, by the entries that are the same in both media.
    induction reachable with
    | root => exact .root
    | child above member isDirectory named inductionHypothesis =>
      rw [carries.entries consistent inductionHypothesis] at member
      exact .child inductionHypothesis member isDirectory named
  · intro reachable
    induction reachable with
    | root => exact .root
    | child above member isDirectory named inductionHypothesis =>
      rw [← carries.entries consistent above] at member
      exact .child inductionHypothesis member isDirectory named

/-- The same entries have a chain of their own in both media, as these are told by the
entries of the directories that are reached. -/
theorem owner_iff {item : SlotPosition × Entry} :
    changed.Owner volume item ↔ medium.Owner volume item := by
  constructor
  · rintro ⟨directory, reachable, member, owns⟩
    rw [carries.reachable_iff consistent] at reachable
    rw [carries.entries consistent reachable] at member
    exact ⟨directory, reachable, member, owns⟩
  · rintro ⟨directory, reachable, member, owns⟩
    rw [← carries.entries consistent reachable] at member
    exact ⟨directory, (carries.reachable_iff consistent).mpr reachable, member, owns⟩

/-- In the second medium an entry has the chain that it had in the first, with the
clusters that it has grown by behind it; no other chain is told of it. -/
theorem stores_iff {item : SlotPosition × Entry} (owner : medium.Owner volume item)
    {clusters : List Nat} (grown : changed.Stores volume item clusters) :
    ∃ earlier, medium.Stores volume item earlier ∧ earlier.Nodup ∧
      clusters = earlier ++ growth item.1 := by
  obtain ⟨earlier, chain, distinct⟩ := consistent.intact item owner
  exact ⟨earlier, chain, distinct, grown.unique (carries.chain item earlier owner chain distinct)⟩

/-- The clusters that the tree uses in the second medium are those that it used in the
first, together with those that a chain of some entry has grown by. -/
theorem used_iff {cluster : Nat} :
    changed.Used volume cluster ↔ medium.Used volume cluster ∨
      ∃ item, medium.Owner volume item ∧ cluster ∈ growth item.1 := by
  constructor
  · rintro ⟨item, clusters, owner, chain, member⟩
    rw [carries.owner_iff consistent] at owner
    obtain ⟨earlier, before, _, rfl⟩ := carries.stores_iff consistent owner chain
    rcases List.mem_append.mp member with old | new
    · exact .inl ⟨item, earlier, owner, before, old⟩
    · exact .inr ⟨item, owner, new⟩
  · rintro (⟨item, clusters, owner, chain, member⟩ | ⟨item, owner, member⟩)
    · obtain ⟨earlier, before, distinct⟩ := consistent.intact item owner
      obtain rfl := chain.unique before
      exact ⟨item, _, (carries.owner_iff consistent).mpr owner,
        carries.chain item clusters owner chain distinct, List.mem_append_left _ member⟩
    · obtain ⟨earlier, before, distinct⟩ := consistent.intact item owner
      exact ⟨item, _, (carries.owner_iff consistent).mpr owner,
        carries.chain item earlier owner before distinct, List.mem_append_right _ member⟩

/-- A consistent medium is carried over into a consistent one: the chains end as they
should, meet no cluster twice, and no two of them share one. -/
theorem consistent_after : changed.Consistent volume where
  intact item owner := by
    rw [carries.owner_iff consistent] at owner
    obtain ⟨earlier, before, distinct⟩ := consistent.intact item owner
    refine ⟨_, carries.chain item earlier owner before distinct, ?_⟩
    apply List.Nodup.append distinct (carries.distinct item.1)
    intro cluster old new
    exact carries.fresh item.1 cluster new ⟨item, earlier, owner, before, old⟩
  disjoint item other owner another different clusters others chain further := by
    rw [carries.owner_iff consistent] at owner another
    obtain ⟨earlier, before, _, rfl⟩ := carries.stores_iff consistent owner chain
    obtain ⟨former, past, _, rfl⟩ := carries.stores_iff consistent another further
    intro cluster member present
    rcases List.mem_append.mp member with old | new
    · rcases List.mem_append.mp present with kept | added
      · exact consistent.disjoint item other owner another different _ _ before past old kept
      · exact carries.fresh other.1 cluster added ⟨item, earlier, owner, before, old⟩
    · rcases List.mem_append.mp present with kept | added
      · exact carries.fresh item.1 cluster new ⟨other, former, another, past, kept⟩
      · exact carries.apart item.1 other.1 different new added
  ended directory reachable := by
    rw [carries.reachable_iff consistent] at reachable
    exact (carries.slots directory reachable).2.ended (consistent.ended directory reachable)

/-- An orderly medium is carried over into an orderly one, as names and the first two
slots of every directory stand where they stood. -/
theorem orderly_after (orderly : medium.Orderly volume) : changed.Orderly volume where
  toConsistent := carries.consistent_after consistent
  named directory reachable := by
    rw [carries.reachable_iff consistent] at reachable
    rw [carries.entries consistent reachable]
    exact orderly.named directory reachable
  framed parent item reachable member isDirectory named := by
    rw [carries.reachable_iff consistent] at reachable
    rw [carries.entries consistent reachable] at member
    have owner := Owner.of_directory reachable member isDirectory named
    obtain ⟨clusters, chain, _⟩ := consistent.intact item owner
    have opened : medium.Reachable volume (.ofCluster item.2.cluster.toNat) :=
      .child reachable member isDirectory named
    rw [ofCluster_of_data chain.first_data] at opened
    exact (orderly.framed parent item reachable member isDirectory named).extended
      (carries.slots _ opened).2.begins

end Carries

/-! ## Changes that carry a tree over -/

/-- The media have the same root region. -/
def SameRoot (medium changed : Medium) (volume : Volume) : Prop :=
  ∀ lba, volume.InRoot lba → changed lba = medium lba

/-- The media have the same sectors in a cluster. -/
def SameSectors (medium changed : Medium) (volume : Volume) (cluster : Nat) : Prop :=
  ∀ lba, volume.InCluster cluster lba → changed lba = medium lba

/-- The media have the same table copies. -/
def SameTable (medium changed : Medium) (volume : Volume) : Prop :=
  ∀ lba < volume.rootStart, changed lba = medium lba

/-- A link is read from the entries of its own cluster in the table copies, so media that
agree on these entries in every copy have the same link there. -/
theorem link_congr {cluster : Nat} (copies : ∀ copy < volume.tableCopies,
      changed.linkIn volume copy cluster = medium.linkIn volume copy cluster) :
    changed.link volume cluster = medium.link volume cluster := by
  simp only [Medium.link]
  rw [copies 0 volume.usable.tableCopies_pos]
  by_cases decided : medium.linkIn volume 0 cluster ≠ 0 ∨ volume.tableCopies < 2
  · rw [if_pos decided, if_pos decided]
  · rw [if_neg decided, if_neg decided]
    exact copies 1 (by omega)

/-- Media with the same sectors in front of the root region have the same link for every
data cluster, since all table entries lie in these sectors. -/
theorem SameTable.link (same : medium.SameTable changed volume) {cluster : Nat}
    (data : volume.DataCluster cluster) :
    changed.link volume cluster = medium.link volume cluster := by
  refine link_congr fun copy stored => ?_
  simp only [linkIn]
  rw [same _ (Layout.linkSector_lt_rootStart data stored)]

/-- Media with the same sectors in the root region have the same slots in the root
directory, as these are read from that region alone. -/
theorem SameRoot.slots (same : medium.SameRoot changed volume) :
    changed.slots volume .root = medium.slots volume .root := by
  rw [slots_root, slots_root]
  refine congrArg (Course.mk · none) (List.map_congr_left fun taken member => ?_)
  simp only [slotAt]
  rw [same _ ⟨taken, List.mem_range.mp member, rfl⟩]

/-- Media with the same sectors in a cluster read the same slots from it, each of which is
decoded from one of these sectors. -/
theorem SameSectors.slots {cluster : Nat} (same : medium.SameSectors changed volume cluster) :
    changed.clusterSlots volume cluster = medium.clusterSlots volume cluster :=
  clusterSlots_congr fun sector inside => same _ ⟨sector, inside, rfl⟩

/-- A chain is told by the links of its clusters alone: where these are the same in
another medium, the chain from the first cluster is the same there. -/
theorem ChainFrom.of_links {first : Nat} {clusters : List Nat}
    (chain : medium.ChainFrom volume first clusters)
    (link : ∀ cluster ∈ clusters, changed.link volume cluster = medium.link volume cluster) :
    changed.ChainFrom volume first clusters := by
  induction chain with
  | last data ends => exact .last data (by rwa [link _ List.mem_cons_self])
  | next data linked chain inductionHypothesis =>
    refine .next data ?_ (inductionHypothesis fun cluster member =>
      link cluster (List.mem_cons_of_mem _ member))
    rwa [link _ List.mem_cons_self]

/-- Media with the same links and the same sectors for the clusters of a chain agree on
what is read of these clusters, which is all that a directory or a file shows. -/
theorem ChainFrom.agrees {first : Nat} {clusters : List Nat}
    (chain : medium.ChainFrom volume first clusters)
    (link : ∀ cluster ∈ clusters, changed.link volume cluster = medium.link volume cluster)
    (sectors : ∀ cluster ∈ clusters, medium.SameSectors changed volume cluster) :
    medium.AgreesOn changed volume (· ∈ clusters) where
  link := link
  sector cluster member sector inside := sectors cluster member _ ⟨sector, inside, rfl⟩
  closed _ _ member followed := chain.closed member followed

/-- Where the root region and all used clusters are left alone, directories have the slots that
they had. -/
theorem Consistent.slots_untouched (consistent : medium.Consistent volume)
    (root : medium.SameRoot changed volume)
    (link : ∀ cluster, medium.Used volume cluster →
      changed.link volume cluster = medium.link volume cluster)
    (sectors : ∀ cluster, medium.Used volume cluster → medium.SameSectors changed volume cluster)
    {directory : Directory} (reachable : medium.Reachable volume directory) :
    changed.slots volume directory = medium.slots volume directory := by
  cases directory with
  | root => exact root.slots
  | chain first =>
    obtain ⟨item, clusters, owner, _, rfl, chain, _⟩ := consistent.chain_of_reachable reachable
    have used {cluster : Nat} (member : cluster ∈ clusters) : medium.Used volume cluster :=
      ⟨item, clusters, owner, chain, member⟩
    exact (chain.agrees (fun cluster member => link cluster (used member))
      fun cluster member => sectors cluster (used member)).slots chain.first_mem

/-- Where the root region and all used clusters stand as they did, with their links and
their sectors, the tree is carried over and no chain grows. -/
theorem Carries.of_untouched (consistent : medium.Consistent volume)
    (root : medium.SameRoot changed volume)
    (link : ∀ cluster, medium.Used volume cluster →
      changed.link volume cluster = medium.link volume cluster)
    (sectors : ∀ cluster, medium.Used volume cluster → medium.SameSectors changed volume cluster) :
    medium.Carries changed volume fun _ => [] := by
  have agrees {item : SlotPosition × Entry} {clusters : List Nat}
      (owner : medium.Owner volume item) (chain : medium.Stores volume item clusters) :
      medium.AgreesOn changed volume (· ∈ clusters) :=
    chain.agrees (fun cluster member => link cluster ⟨item, clusters, owner, chain, member⟩)
      fun cluster member => sectors cluster ⟨item, clusters, owner, chain, member⟩
  constructor
  · intro item clusters owner chain _
    rw [List.append_nil]
    exact (agrees owner chain).chain chain chain.first_mem
  · exact fun _ _ => by simp
  · exact fun _ => List.nodup_nil
  · exact fun _ _ _ _ => by simp
  · intro directory reachable
    rw [consistent.slots_untouched root link sectors reachable]
    exact ⟨consistent.slots_ending reachable, .same⟩
  · intro item owner _ offset length
    obtain ⟨clusters, chain, _⟩ := consistent.intact item owner
    exact (agrees owner chain).content offset length chain.first_mem

/-- A chain without repetitions grows by a cluster when its last link comes to lead to
that cluster, which ends a chain itself, and all its other links stand as they did. -/
theorem ChainFrom.grows {first last added : Nat} {clusters : List Nat}
    (chain : medium.ChainFrom volume first clusters) (distinct : clusters.Nodup)
    (stands : clusters.getLast? = some last)
    (kept : ∀ cluster ∈ clusters, cluster ≠ last →
      changed.link volume cluster = medium.link volume cluster)
    (linked : (changed.link volume last).toNat = added)
    (ends : changed.ChainFrom volume added [added]) :
    changed.ChainFrom volume first (clusters ++ [added]) := by
  -- Only the last link has changed, so the chain is rebuilt from its end.
  induction chain with
  | last data _ =>
    cases stands
    exact .next data linked ends
  | @next cluster successor rest data joined chain inductionHypothesis =>
    rw [List.nodup_cons] at distinct
    have behind : rest.getLast? = some last := by
      cases chain <;> exact stands
    have earlier : cluster ≠ last := by
      rintro rfl
      exact distinct.1 (List.mem_of_getLast? behind)
    refine .next data ?_ (inductionHypothesis distinct.2 behind
      fun number member => kept number (List.mem_cons_of_mem _ member))
    rw [kept cluster List.mem_cons_self earlier]
    exact joined

/-- The cluster holds nothing but zero bytes. -/
def Blank (medium : Medium) (volume : Volume) (cluster : Nat) : Prop :=
  ∀ lba, volume.InCluster cluster lba → medium lba = Sector.zero

/-- The slots of a cluster that is filled with zero bytes are all end markers, since a
record that begins with a zero byte is decoded as one. -/
theorem Blank.slots {cluster : Nat} (blank : medium.Blank volume cluster) :
    ∀ slot ∈ medium.clusterSlots volume cluster, slot.2 = .endMarker := by
  intro slot member
  obtain ⟨stands, inside⟩ := mem_clusterSlots member
  rw [congrArg Prod.snd stands, slotAt, blank _ inside, Slot.decode_zero]

/-- A blank cluster that no chain leads to is linked behind a directory that has no end
marker, and nothing else of the tree is changed. -/
structure Extension (medium changed : Medium) (volume : Volume) (owned : SlotPosition × Entry)
    (clusters : List Nat) (last added : Nat) : Prop where
  consistent : medium.Consistent volume
  owner : medium.Owner volume owned
  isDirectory : owned.2.isDirectory = true
  chain : medium.Stores volume owned clusters
  distinct : clusters.Nodup
  stands : clusters.getLast? = some last
  root : medium.SameRoot changed volume
  link : ∀ cluster, medium.Used volume cluster → cluster ≠ last →
    changed.link volume cluster = medium.link volume cluster
  sectors : ∀ cluster, medium.Used volume cluster → medium.SameSectors changed volume cluster
  full : ∀ slot ∈ (medium.slots volume (.chain owned.2.cluster.toNat)).items,
    slot.2 ≠ .endMarker
  unused : ¬ medium.Used volume added
  linked : (changed.link volume last).toNat = added
  ends : changed.ChainFrom volume added [added]
  blank : changed.Blank volume added

namespace Extension

variable {owned item : SlotPosition × Entry} {clusters others : List Nat} {last added : Nat}
  (extension : medium.Extension changed volume owned clusters last added)
include extension

/-- The media agree on the chain of every entry but the one whose chain is extended: the
last cluster is not part of it, nor is the added one, so that links and sectors stand. -/
theorem agrees (owner : medium.Owner volume item) (other : item ≠ owned)
    (stored : medium.Stores volume item others) :
    medium.AgreesOn changed volume (· ∈ others) := by
  refine stored.agrees (fun cluster inside => extension.link cluster ⟨_, _, owner, stored, inside⟩ ?_)
    fun cluster inside => extension.sectors cluster ⟨_, _, owner, stored, inside⟩
  rintro rfl
  exact other (extension.consistent.owner_unique owner extension.owner stored extension.chain inside
    (List.mem_of_getLast? extension.stands))

/-- The chain of the directory is the one that it had, followed by the added cluster, to
which its last cluster now leads. -/
theorem grown : changed.Stores volume owned (clusters ++ [added]) :=
  extension.chain.grows extension.distinct extension.stands
    (fun cluster inside => extension.link cluster ⟨_, _, extension.owner, extension.chain, inside⟩)
    extension.linked extension.ends

/-- The grown chain meets no cluster twice, since the added cluster was used by no chain
and so not by this one either. -/
theorem grown_distinct : (clusters ++ [added]).Nodup := by
  apply List.Nodup.append extension.distinct (List.nodup_singleton added)
  intro cluster inside new
  rw [List.mem_singleton.mp new] at inside
  exact extension.unused ⟨_, _, extension.owner, extension.chain, inside⟩

/-- The chain of every entry is the one that it had, and that of the extended directory
has the added cluster behind it. -/
theorem stores (owner : medium.Owner volume item) (stored : medium.Stores volume item others) :
    changed.Stores volume item (others ++ if item.1 = owned.1 then [added] else []) := by
  by_cases same : item = owned
  · subst same
    obtain rfl := stored.unique extension.chain
    rw [if_pos rfl]
    exact extension.grown
  · have elsewhere : item.1 ≠ owned.1 := by
      obtain ⟨directory, reachable, present, _⟩ := owner
      obtain ⟨parent, reached, found, _⟩ := extension.owner
      exact fun position =>
        same (extension.consistent.entry_at reachable reached present found position)
    rw [if_neg elsewhere, List.append_nil]
    exact (extension.agrees owner same stored).chain stored stored.first_mem

/-- The slots of the extended directory are read without a failure, and are those that it
had followed by the end markers of the added cluster. -/
theorem slots_owned :
    (changed.slots volume (.chain owned.2.cluster.toNat)).ending = none ∧
      Lengthened (medium.slots volume (.chain owned.2.cluster.toNat)).items
        (changed.slots volume (.chain owned.2.cluster.toNat)).items := by
  have kept : clusters.flatMap (changed.clusterSlots volume) =
      clusters.flatMap (medium.clusterSlots volume) :=
    List.flatMap_congr fun cluster inside =>
      (extension.sectors cluster ⟨_, _, extension.owner, extension.chain, inside⟩).slots
  have full := extension.full
  rw [extension.chain.slots extension.distinct] at full ⊢
  rw [ChainFrom.slots extension.grown extension.grown_distinct, List.flatMap_append,
    List.flatMap_singleton, kept]
  exact ⟨rfl, .more full extension.blank.slots⟩

/-- Every directory that was reached is still read without a failure, and its slots are
those that it had, with more end markers behind them at most. -/
theorem slots {directory : Directory} (reachable : medium.Reachable volume directory) :
    (changed.slots volume directory).ending = none ∧
      Lengthened (medium.slots volume directory).items (changed.slots volume directory).items := by
  cases directory with
  | root =>
    rw [extension.root.slots]
    exact ⟨rfl, .same⟩
  | chain first =>
    obtain ⟨item, others, owner, _, rfl, stored, _⟩ :=
      extension.consistent.chain_of_reachable reachable
    by_cases same : item = owned
    · rw [same]
      exact extension.slots_owned
    · rw [(extension.agrees owner same stored).slots stored.first_mem]
      exact ⟨extension.consistent.slots_ending reachable, .same⟩

/-- The tree is carried over into the extended medium, in which the chain of one entry has
grown by the added cluster and all others are as they were. -/
theorem carries :
    medium.Carries changed volume fun position => if position = owned.1 then [added] else [] := by
  constructor
  · exact fun _ _ owner stored _ => extension.stores owner stored
  · intro position cluster new
    split at new
    · rw [List.mem_singleton.mp new]
      exact extension.unused
    · cases new
  · intro position
    split
    · exact List.nodup_singleton added
    · exact List.nodup_nil
  · intro position other different cluster new present
    split at new
    · next here =>
      rw [if_neg fun there => different (here.trans there.symm)] at present
      cases present
    · cases new
  · exact fun _ reachable => extension.slots reachable
  · intro item owner file offset length
    obtain ⟨others, stored, _⟩ := extension.consistent.intact item owner
    refine (extension.agrees owner ?_ stored).content offset length stored.first_mem
    rintro rfl
    rw [extension.isDirectory] at file
    cases file

end Extension

end Medium

end FatVolume
