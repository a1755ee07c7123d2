import FatVolume.Proofs.Alterations

/-!
# Trees that gain a directory

One write can put a directory into the tree: that of its entry into the first free slot of
its parent. For this its cluster has to be complete beforehand, outside of the tree, with
the entries for the directory itself and for its parent, and with a link that ends its
chain. The entries of the parent are then those it had, with the new one among them, and
everything else stands as it did.
-/

namespace FatVolume

/-- The entry that is written for a new directory is marked as that of a directory,
whatever its name and its cluster. -/
theorem Entry.isDirectory_directory (name : RawName) (cluster : Nat) :
    (Entry.directory name cluster).isDirectory = true := by
  change Attributes.isDirectory Attributes.directory = true
  decide

/-- The entry of a new directory has a chain of its own, unless its name is one of the two
that stand for the directory itself and its parent. -/
theorem Entry.ownsChain_directory (name : RawName) (cluster : Nat) :
    (Entry.directory name cluster).ownsChain = !(Entry.directory name cluster).isDot :=
  if_pos (isDirectory_directory name cluster)

namespace Medium

/-- The entry of a directory can be put into a slot, where it completes the tree. -/
structure Insertion (medium : Medium) (volume : Volume) (parent : Directory)
    (position : SlotPosition) (name : RawName) (cluster : Nat) : Prop where
  consistent : medium.Consistent volume
  reachable : medium.Reachable volume parent
  vacant : (medium.slots volume parent).freeSlot = .ok (some position)
  canonical : ShortName.Canonical name
  data : volume.DataCluster cluster
  unused : ¬ medium.Used volume cluster
  ends : Link.endsChain (medium.link volume cluster) = true
  filled : medium.Filled volume cluster parent

/-- The medium with the entry of a directory put into a slot. -/
def inserted (medium : Medium) (position : SlotPosition) (name : RawName) (cluster : Nat) :
    Medium :=
  medium.write (medium.entryWrite position (Entry.directory name cluster))

variable {medium : Medium} {volume : Volume}

/-- Putting an entry into a slot changes the sector of that slot alone; every other sector
stands as it did. -/
theorem inserted_untouched {position : SlotPosition} {name : RawName} {cluster lba : Nat}
    (other : lba ≠ position.lba) : medium.inserted position name cluster lba = medium lba :=
  medium.write_other other

/-! ## Slots of an empty directory -/

/-- The first record of an empty directory is decoded as a live entry of a directory,
named as the directory itself and leading to its own cluster. -/
theorem decode_firstSector_self (cluster : Nat) (parent : Directory) :
    Slot.decode ((Volume.firstSector cluster parent).record 0) =
      .live (Entry.directory ShortName.self cluster) := by
  have other : (0 : Fin 16) ≠ 1 := by decide
  rw [Volume.firstSector, Sector.record_setRecord_other _ _ _ _ other,
    Sector.record_setRecord_self, Slot.decode_directory (by decide) (by decide)]

/-- The second record of an empty directory is decoded as a live entry of a directory,
named as the parent and leading to the cluster of the parent. -/
theorem decode_firstSector_parent (cluster : Nat) (parent : Directory) :
    Slot.decode ((Volume.firstSector cluster parent).record 1) =
      .live (Entry.directory ShortName.parent parent.cluster) := by
  rw [Volume.firstSector, Sector.record_setRecord_self,
    Slot.decode_directory (by decide) (by decide)]

/-- Every record of the first sector behind the two entries is decoded as an end marker,
as it holds zero bytes. -/
theorem decode_firstSector_other (cluster : Nat) (parent : Directory) {index : Fin 16}
    (notFirst : index ≠ 0) (notSecond : index ≠ 1) :
    Slot.decode ((Volume.firstSector cluster parent).record index) = .endMarker := by
  rw [Volume.firstSector, Sector.record_setRecord_other _ _ _ _ notSecond,
    Sector.record_setRecord_other _ _ _ _ notFirst, Slot.decode_zero]

namespace Filled

variable {cluster : Nat} {parent : Directory} (filled : medium.Filled volume cluster parent)
include filled

/-- Each slot in the first sector of a filled cluster is what its record in the sector of
an empty directory is decoded as. -/
theorem slotAt_first (index : Fin 16) :
    medium.slotAt ⟨volume.clusterStart cluster + 0, index⟩ =
      (⟨volume.clusterStart cluster + 0, index⟩,
        Slot.decode ((Volume.firstSector cluster parent).record index)) := by
  rw [slotAt, filled.first]

/-- The slots of the first sector of an empty directory are the entry for itself, the
entry for its parent, and the other fourteen behind them. -/
theorem sectorSlots_first :
    medium.sectorSlots (volume.clusterStart cluster + 0) =
      (⟨volume.clusterStart cluster + 0, 0⟩, .live (Entry.directory ShortName.self cluster)) ::
      (⟨volume.clusterStart cluster + 0, 1⟩,
        .live (Entry.directory ShortName.parent parent.cluster)) ::
      (medium.sectorSlots (volume.clusterStart cluster + 0)).drop 2 := by
  have first : 0 < 16 := by decide
  have second : 1 < 16 := by decide
  have split := medium.drop_sectorSlots first (volume.clusterStart cluster + 0)
  rw [List.drop_zero, medium.drop_sectorSlots second, filled.slotAt_first, filled.slotAt_first]
    at split
  rw [← decode_firstSector_self cluster parent, ← decode_firstSector_parent cluster parent]
  exact split

/-- Behind the two entries of an empty directory stand end markers only, in its first
sector and in all the others of the cluster. -/
theorem blank_behind {slot : SlotPosition × Slot}
    (member : slot ∈ (medium.sectorSlots (volume.clusterStart cluster + 0)).drop 2 ++
      medium.slotsFrom volume cluster 1) : slot.2 = .endMarker := by
  rcases List.mem_append.mp member with same | other
  · rw [sectorSlots, ← List.map_drop] at same
    obtain ⟨index, later, rfl⟩ := List.mem_map.mp same
    have apart : ∀ index ∈ (List.finRange 16).drop 2, index ≠ 0 ∧ index ≠ 1 := by decide
    obtain ⟨notFirst, notSecond⟩ := apart index later
    rw [filled.slotAt_first]
    dsimp only
    rw [decode_firstSector_other cluster parent notFirst notSecond]
  · obtain ⟨sector, within, inside⟩ := List.mem_flatMap.mp other
    obtain ⟨index, _, rfl⟩ := List.mem_map.mp inside
    obtain ⟨low, high⟩ := List.mem_range'_1.mp within
    have zero := filled.blank _ ⟨sector, by omega, rfl⟩ (by omega)
    rw [slotAt]
    dsimp only
    rw [zero, Slot.decode_zero]

/-- The slots of an empty directory are the entry for itself, the entry for its parent,
and end markers in all the others. -/
theorem slots :
    ∃ rest, medium.clusterSlots volume cluster =
        (⟨volume.clusterStart cluster + 0, 0⟩, .live (Entry.directory ShortName.self cluster)) ::
        (⟨volume.clusterStart cluster + 0, 1⟩,
          .live (Entry.directory ShortName.parent parent.cluster)) :: rest ∧
      ∀ slot ∈ rest, slot.2 = .endMarker := by
  refine ⟨(medium.sectorSlots (volume.clusterStart cluster + 0)).drop 2 ++
    medium.slotsFrom volume cluster 1, ?_, fun slot member => filled.blank_behind member⟩
  rw [clusterSlots, slotsFrom_inside volume.usable.sectorsPerCluster_pos]
  exact congrArg (· ++ medium.slotsFrom volume cluster 1) filled.sectorSlots_first

end Filled

/-! ## Parents and their free slots -/

/-- The number by which a reachable directory is referred to fits into the sixteen bits of
a record, so it is read back as it was written. -/
theorem Consistent.toNat_parent (consistent : medium.Consistent volume) {directory : Directory}
    (reachable : medium.Reachable volume directory) :
    (UInt16.ofNat directory.cluster).toNat = directory.cluster := by
  cases directory with
  | root => rfl
  | chain first =>
    obtain ⟨_, _, _, _, _, chain, _⟩ := consistent.chain_of_reachable reachable
    exact chain.first_data.toNat_ofNat

/-- A free slot that a search has found divides the slots of the directory: it is free
itself, and none of those in front of it is. -/
theorem divided_of_freeSlot {course : Course (SlotPosition × Slot)} {position : SlotPosition}
    (vacant : course.freeSlot = .ok (some position)) :
    ∃ front slot rear, course.items = front ++ (position, slot) :: rear ∧
      slot.isFree = true ∧ ∀ earlier ∈ front, earlier.2.isFree = false := by
  simp only [Course.freeSlot] at vacant
  split at vacant
  · next item found =>
    cases vacant
    obtain ⟨free, front, rear, divided, taken⟩ := List.find?_eq_some_iff_append.mp found
    exact ⟨front, item.2, rear, divided, free, fun earlier member => by simpa using taken earlier member⟩
  · split at vacant <;> cases vacant

namespace Insertion

variable {parent : Directory} {position : SlotPosition} {name : RawName} {cluster : Nat}
  (insertion : medium.Insertion volume parent position name cluster)
include insertion

/-- The slot that is written lies in a sector which belongs to the parent, in the root
region or in a cluster of its chain. -/
theorem holds : medium.Holds volume parent position.lba := by
  obtain ⟨front, slot, rear, divided, _⟩ := divided_of_freeSlot insertion.vacant
  have member : (position, slot) ∈ (medium.slots volume parent).items := by
    rw [divided]
    exact List.mem_append_right _ List.mem_cons_self
  exact (insertion.consistent.slot_stands insertion.reachable member).2

/-- Putting the entry into the slot leaves every link as it was, and replaces what that
one slot held by a live slot with the entry. -/
theorem alters : medium.Alters (medium.inserted position name cluster) volume
    (Slot.replaceAt position (.live (Entry.directory name cluster))) := by
  have above : volume.rootStart ≤ position.lba := by
    have held := insertion.holds
    cases parent with
    | root => exact (held : volume.InRoot _).bounds.1
    | chain first =>
      obtain ⟨_, _, cluster, _, inside⟩ := held
      exact Nat.le_trans volume.rootStart_le_dataStart inside.dataStart_le
  have altered := alters_entryWrite above medium (Entry.directory name cluster)
  rwa [Slot.decode_directory insertion.canonical.marked insertion.canonical.erased] at altered

/-- Every data cluster has the link that it had, as the slot that is written lies behind
the table copies. -/
theorem link {number : Nat} (data : volume.DataCluster number) :
    (medium.inserted position name cluster).link volume number = medium.link volume number :=
  insertion.alters.link number data

/-- Every cluster that the tree uses has the link that it had, since such clusters are
data clusters. -/
theorem link_used {number : Nat} (used : medium.Used volume number) :
    (medium.inserted position name cluster).link volume number = medium.link volume number := by
  obtain ⟨item, clusters, _, chain, member⟩ := used
  exact insertion.link (chain.data _ member)

/-- A cluster that is not part of the chain of the parent keeps its sectors, as the slot
that is written lies in one of the parent. -/
theorem sectors {number : Nat} (data : volume.DataCluster number)
    (elsewhere : ∀ first clusters, parent = .chain first →
      medium.ChainFrom volume first clusters → number ∉ clusters) :
    medium.SameSectors (medium.inserted position name cluster) volume number := by
  intro lba inside
  apply inserted_untouched
  rintro rfl
  have held := insertion.holds
  cases parent with
  | root =>
    have below := (held : volume.InRoot _).bounds.2
    have above := inside.dataStart_le
    omega
  | chain first =>
    obtain ⟨clusters, chain, other, member, within⟩ := held
    obtain rfl := inside.unique within data (chain.data _ member)
    exact elsewhere first clusters rfl chain member

/-- Every chain that the tree had before stands as it did, for the links of all its
clusters are the same. -/
theorem stores {item : SlotPosition × Entry} {clusters : List Nat}
    (owner : medium.Owner volume item) (chain : medium.Stores volume item clusters) :
    (medium.inserted position name cluster).Stores volume item clusters :=
  chain.of_links fun _ member => insertion.link_used ⟨item, clusters, owner, chain, member⟩

/-- A reachable directory other than the parent has the slots that it had, since no sector
of it is shared with the parent. -/
theorem slots_other {directory : Directory} (reachable : medium.Reachable volume directory)
    (other : directory ≠ parent) :
    (medium.inserted position name cluster).slots volume directory =
      medium.slots volume directory := by
  rw [insertion.alters.slots]
  refine Course.replaceSlot_absent (fun item member same => ?_) _
  have held := (insertion.consistent.slot_stands reachable member).2
  rw [same] at held
  exact other (insertion.consistent.directory_unique reachable insertion.reachable held
    insertion.holds)

/-- The slots of the parent are those that it had, except that the first free one among
them now holds the new entry. -/
theorem slots_parent :
    ∃ front slot rear, (medium.slots volume parent).items = front ++ (position, slot) :: rear ∧
      slot.isFree = true ∧ (∀ earlier ∈ front, earlier.2.isFree = false) ∧
      (medium.inserted position name cluster).slots volume parent =
        ⟨front ++ (position, .live (Entry.directory name cluster)) :: rear, none⟩ := by
  obtain ⟨front, slot, rear, divided, free, taken⟩ := divided_of_freeSlot insertion.vacant
  refine ⟨front, slot, rear, divided, free, taken, ?_⟩
  have distinct := insertion.consistent.positions_distinct insertion.reachable
  have whole : medium.slots volume parent = ⟨front ++ (position, slot) :: rear, none⟩ := by
    rw [← divided, ← insertion.consistent.slots_ending insertion.reachable]
  rw [divided] at distinct
  rw [insertion.alters.slots, whole]
  exact Course.replaceSlot_divided distinct _

/-! ### Entries -/

/-- A reachable directory other than the parent has the entries that it had, since it has
the same slots. -/
theorem entries_other {directory : Directory} (reachable : medium.Reachable volume directory)
    (other : directory ≠ parent) :
    (medium.inserted position name cluster).entries volume directory =
      medium.entries volume directory := by
  rw [Medium.entries, insertion.slots_other reachable other, Medium.entries]

/-- The parent has the entries that it had, in their order, with that of the new directory
put in at one place among them. -/
theorem entries_parent :
    ∃ front rear, medium.entries volume parent = ⟨front ++ rear, none⟩ ∧
      (medium.inserted position name cluster).entries volume parent =
        ⟨front ++ (position, Entry.directory name cluster) :: rear, none⟩ := by
  obtain ⟨front, slot, rear, divided, free, taken, changed⟩ := insertion.slots_parent
  have full : ∀ earlier ∈ front, earlier.2 ≠ .endMarker := by
    intro earlier member marks
    have occupied := taken earlier member
    rw [marks] at occupied
    cases occupied
  have vacant : liveEntries none ((position, slot) :: rear) = liveEntries none rear := by
    cases slot with
    | erased => rfl
    | endMarker =>
      have ended := insertion.consistent.ended parent insertion.reachable
      rw [divided, Ended, List.pairwise_append] at ended
      have blank : ∀ later ∈ rear, later.2 = .endMarker := fun later member =>
        List.rel_of_pairwise_cons ended.2.1 member rfl
      rw [liveEntries_blank blank]
      rfl
    | longName => cases free
    | volumeLabel => cases free
    | live entry => cases free
  have ending := liveEntries_ending rear
  refine ⟨(liveEntries none front).items, (liveEntries none rear).items, ?_, ?_⟩
  · rw [Medium.entries, Course.entries, insertion.consistent.slots_ending insertion.reachable,
      divided, liveEntries_append full, vacant]
    exact congrArg (Course.mk _) ending
  · rw [Medium.entries, changed, Course.entries]
    dsimp only
    rw [liveEntries_append full]
    exact congrArg (Course.mk _) ending

/-- The chain of the new directory consists of its cluster alone, which ends a chain and
whose link was not touched. -/
theorem chain :
    (medium.inserted position name cluster).ChainFrom volume cluster [cluster] :=
  .last insertion.data (by rw [insertion.link insertion.data]; exact insertion.ends)

/-- The sectors of the new directory stand as they did, since its cluster was free and so
no part of the chain of the parent. -/
theorem sectors_cluster :
    medium.SameSectors (medium.inserted position name cluster) volume cluster := by
  apply insertion.sectors insertion.data
  intro first clusters same stored member
  have reachable := insertion.reachable
  rw [same] at reachable
  obtain ⟨item, others, owner, _, rfl, chain, _⟩ :=
    insertion.consistent.chain_of_reachable reachable
  exact insertion.unused ⟨item, clusters, owner, stored, member⟩

/-- The new directory has two slots that refer to itself and to its parent, and end markers
behind them. -/
theorem slots_cluster :
    ∃ rest, (medium.inserted position name cluster).slots volume (.chain cluster) =
        ⟨(⟨volume.clusterStart cluster + 0, 0⟩, .live (Entry.directory ShortName.self cluster)) ::
        (⟨volume.clusterStart cluster + 0, 1⟩,
          .live (Entry.directory ShortName.parent parent.cluster)) :: rest, none⟩ ∧
      ∀ slot ∈ rest, slot.2 = .endMarker := by
  obtain ⟨rest, slots, blank⟩ := insertion.filled.slots
  refine ⟨rest, ?_, blank⟩
  rw [insertion.chain.slots (List.nodup_singleton _), List.flatMap_singleton,
    insertion.sectors_cluster.slots, slots]

/-- The new directory has exactly two entries, in its first two slots: one that leads to
itself, and one that leads to the parent. -/
theorem entries_cluster :
    (medium.inserted position name cluster).entries volume (.chain cluster) =
      ⟨[(⟨volume.clusterStart cluster + 0, 0⟩, Entry.directory ShortName.self cluster),
        (⟨volume.clusterStart cluster + 0, 1⟩,
          Entry.directory ShortName.parent parent.cluster)], none⟩ := by
  obtain ⟨rest, slots, blank⟩ := insertion.slots_cluster
  rw [Medium.entries, slots, Course.entries, liveEntries, liveEntries, liveEntries_blank blank]
  rfl

/-! ### The tree -/

/-- The number that the new entry records opens the new directory: it is read back
unchanged, and is not the zero that stands for the root. -/
theorem ofCluster : Directory.ofCluster (Entry.directory name cluster).cluster.toNat =
    .chain cluster := by
  rw [Entry.directory, insertion.data.toNat_ofNat, ofCluster_of_data insertion.data]

/-- On the medium with the entry, the cluster still holds an empty directory whose second
entry refers to the parent. -/
theorem initialised :
    (medium.inserted position name cluster).Initialised volume cluster parent := by
  obtain ⟨rest, slots, blank⟩ := insertion.slots_cluster
  exact ⟨_, _, rest, slots, ⟨_, rfl, rfl, insertion.data.toNat_ofNat⟩,
    ⟨_, rfl, rfl, insertion.consistent.toNat_parent insertion.reachable⟩, blank⟩

/-- The name of the new entry is neither of the two that stand for the directory itself
and for its parent, as it encodes a path component. -/
theorem isDot_directory : (Entry.directory name cluster).isDot = false := by
  have dotted := insertion.canonical.dotted
  rw [Entry.isDot, Bool.or_eq_false_iff, beq_eq_false_iff_ne, beq_eq_false_iff_ne]
  constructor
  · rintro same
    exact dotted (congrArg (fun name : RawName => name[0]) same)
  · rintro same
    exact dotted (congrArg (fun name : RawName => name[0]) same)

/-- The entries of a directory that was reached before are those that it had, together
with the new one if the directory is the parent. -/
theorem mem_entries {directory : Directory} (reachable : medium.Reachable volume directory)
    {item : SlotPosition × Entry} :
    item ∈ ((medium.inserted position name cluster).entries volume directory).items ↔
      item ∈ (medium.entries volume directory).items ∨
        directory = parent ∧ item = (position, Entry.directory name cluster) := by
  by_cases same : directory = parent
  · subst same
    obtain ⟨front, rear, before, after⟩ := insertion.entries_parent
    rw [before, after]
    simp only [List.mem_append, List.mem_cons, true_and]
    exact or_left_comm.trans or_comm
  · rw [insertion.entries_other reachable same]
    simp [same]

/-- No entry of the new directory leads below it: each one carries a name that stands for
the directory itself or for its parent. -/
theorem childless {item : SlotPosition × Entry}
    (member : item ∈
      ((medium.inserted position name cluster).entries volume (.chain cluster)).items) :
    item.2.isDot = true := by
  rw [insertion.entries_cluster] at member
  simp only [List.mem_cons, List.not_mem_nil, or_false] at member
  rcases member with rfl | rfl
  · rfl
  · rfl

/-- The directories that are reached on the medium with the entry are those that were
reached before, and the new one. -/
theorem reachable_iff {directory : Directory} :
    (medium.inserted position name cluster).Reachable volume directory ↔
      medium.Reachable volume directory ∨ directory = .chain cluster := by
  constructor
  · intro reachable
    -- A step down leads through an old entry or through the new one, and the new directory has
    -- none below it.
    induction reachable with
    | root => exact .inl .root
    | @child above item reachable member isDirectory named inductionHypothesis =>
      rcases inductionHypothesis with old | rfl
      · rcases (insertion.mem_entries old).mp member with present | ⟨_, rfl⟩
        · exact .inl (.child old present isDirectory named)
        · exact .inr insertion.ofCluster
      · rw [insertion.childless member] at named
        cases named
  · have kept {directory : Directory} (reachable : medium.Reachable volume directory) :
        (medium.inserted position name cluster).Reachable volume directory := by
      induction reachable with
      | root => exact .root
      | child above member isDirectory named inductionHypothesis =>
        exact .child inductionHypothesis ((insertion.mem_entries above).mpr (.inl member))
          isDirectory named
    rintro (old | rfl)
    · exact kept old
    · rw [← insertion.ofCluster]
      have item : (position, Entry.directory name cluster) ∈
          ((medium.inserted position name cluster).entries volume parent).items :=
        (insertion.mem_entries insertion.reachable).mpr (.inr ⟨rfl, rfl⟩)
      exact .child (kept insertion.reachable) item (Entry.isDirectory_directory name cluster)
        insertion.isDot_directory

/-- The entries with a chain of their own are those that had one before, and the new
entry. -/
theorem owner_iff {item : SlotPosition × Entry} :
    (medium.inserted position name cluster).Owner volume item ↔
      medium.Owner volume item ∨ item = (position, Entry.directory name cluster) := by
  constructor
  · rintro ⟨directory, reachable, member, owns⟩
    rcases insertion.reachable_iff.mp reachable with old | rfl
    · rcases (insertion.mem_entries old).mp member with present | ⟨_, same⟩
      · exact .inl ⟨directory, old, present, owns⟩
      · exact .inr same
    · rw [insertion.entries_cluster] at member
      simp only [List.mem_cons, List.not_mem_nil, or_false] at member
      rcases member with rfl | rfl
      · rw [Entry.ownsChain_directory] at owns
        cases owns
      · rw [Entry.ownsChain_directory] at owns
        cases owns
  · rintro (⟨directory, reachable, member, owns⟩ | rfl)
    · exact ⟨directory, insertion.reachable_iff.mpr (.inl reachable),
        (insertion.mem_entries reachable).mpr (.inl member), owns⟩
    · exact .of_directory (insertion.reachable_iff.mpr (.inl insertion.reachable))
        ((insertion.mem_entries insertion.reachable).mpr (.inr ⟨rfl, rfl⟩))
        (Entry.isDirectory_directory name cluster) insertion.isDot_directory

/-- The new entry has a chain of its own, which consists of the new cluster alone. -/
theorem stores_new : (medium.inserted position name cluster).Stores volume
    (position, Entry.directory name cluster) [cluster] := by
  rw [Stores, Entry.directory, insertion.data.toNat_ofNat]
  exact insertion.chain

/-- The chain of an entry on the medium with the new entry is the one that it had, or else
it is that of the new entry and consists of the new cluster. -/
theorem stores_cases {item : SlotPosition × Entry} {clusters : List Nat}
    (owner : (medium.inserted position name cluster).Owner volume item)
    (chain : (medium.inserted position name cluster).Stores volume item clusters) :
    (medium.Owner volume item ∧ medium.Stores volume item clusters) ∨
      (item = (position, Entry.directory name cluster) ∧ clusters = [cluster]) := by
  rcases insertion.owner_iff.mp owner with old | rfl
  · obtain ⟨others, stored, _⟩ := insertion.consistent.intact item old
    obtain rfl := chain.unique (insertion.stores old stored)
    exact .inl ⟨old, stored⟩
  · exact .inr ⟨rfl, chain.unique insertion.stores_new⟩

/-- The clusters that the tree uses on the medium with the entry are those that it used
before, and the new one. -/
theorem used_iff {number : Nat} :
    (medium.inserted position name cluster).Used volume number ↔
      medium.Used volume number ∨ number = cluster := by
  constructor
  · rintro ⟨item, clusters, owner, chain, member⟩
    rcases insertion.stores_cases owner chain with ⟨old, stored⟩ | ⟨_, rfl⟩
    · exact .inl ⟨item, clusters, old, stored, member⟩
    · exact .inr (List.mem_singleton.mp member)
  · rintro (⟨item, clusters, owner, chain, member⟩ | rfl)
    · exact ⟨item, clusters, insertion.owner_iff.mpr (.inl owner), insertion.stores owner chain,
        member⟩
    · exact ⟨_, _, insertion.owner_iff.mpr (.inr rfl), insertion.stores_new,
        List.mem_singleton_self _⟩

/-- Putting the entry into the tree leaves it consistent: the new chain is intact, meets
no cluster twice, and shares none with the chains that were there. -/
theorem consistent_after : (medium.inserted position name cluster).Consistent volume where
  intact item owner := by
    rcases insertion.owner_iff.mp owner with old | rfl
    · obtain ⟨clusters, stored, distinct⟩ := insertion.consistent.intact item old
      exact ⟨clusters, insertion.stores old stored, distinct⟩
    · exact ⟨_, insertion.stores_new, List.nodup_singleton _⟩
  disjoint item other owner another different clusters others chain further := by
    rcases insertion.stores_cases owner chain with ⟨old, stored⟩ | ⟨rfl, rfl⟩
    · rcases insertion.stores_cases another further with ⟨past, kept⟩ | ⟨rfl, rfl⟩
      · exact insertion.consistent.disjoint item other old past different _ _ stored kept
      · intro number member new
        rw [List.mem_singleton.mp new] at member
        exact insertion.unused ⟨item, clusters, old, stored, member⟩
    · rcases insertion.stores_cases another further with ⟨past, kept⟩ | ⟨rfl, rfl⟩
      · intro number new member
        rw [List.mem_singleton.mp new] at member
        exact insertion.unused ⟨other, others, past, kept, member⟩
      · exact absurd rfl different
  ended directory reachable := by
    rcases insertion.reachable_iff.mp reachable with old | rfl
    -- In the parent, no end marker stands in front of the slot that was written, for that would
    -- have been a free slot before it.
    · by_cases same : directory = parent
      · subst same
        obtain ⟨front, slot, rear, divided, _, taken, changed⟩ := insertion.slots_parent
        have ended := insertion.consistent.ended directory old
        rw [divided, Ended, List.pairwise_append, List.pairwise_cons] at ended
        obtain ⟨before, ⟨_, behind⟩, across⟩ := ended
        rw [changed, Ended, List.pairwise_append, List.pairwise_cons]
        refine ⟨before, ⟨fun _ _ => by simp, behind⟩, fun earlier member later present marks => ?_⟩
        have occupied := taken earlier member
        rw [marks] at occupied
        cases occupied
      · rw [insertion.slots_other old same]
        exact insertion.consistent.ended directory old
    · obtain ⟨rest, slots, blank⟩ := insertion.slots_cluster
      rw [slots, Ended, List.pairwise_cons, List.pairwise_cons]
      exact ⟨fun _ _ => by simp, fun _ _ => by simp,
        List.pairwise_of_forall_mem_list fun _ _ later member _ => blank later member⟩

/-- Every file has the content that it had, at any offset and of any length, as its links
and its sectors stand. -/
theorem content {item : SlotPosition × Entry} (owner : medium.Owner volume item)
    (file : item.2.isDirectory = false) (offset length : Nat) :
    (medium.inserted position name cluster).content volume item.2.cluster.toNat offset length =
      medium.content volume item.2.cluster.toNat offset length := by
  obtain ⟨clusters, stored, _⟩ := insertion.consistent.intact item owner
  refine (stored.agrees (fun number member => insertion.link (stored.data _ member))
    fun number member => insertion.sectors (stored.data _ member) ?_).content offset length
      stored.first_mem
  rintro first others same chain present
  have reachable := insertion.reachable
  rw [same] at reachable
  obtain ⟨found, _, another, isDirectory, rfl, _⟩ :=
    insertion.consistent.chain_of_reachable reachable
  rw [insertion.consistent.owner_unique owner another stored chain member present] at file
  rw [file] at isDirectory
  cases isDirectory

end Insertion

/-! ### Order -/

/-- A directory that begins with its two entries still does after a free slot is taken,
since neither of the two slots is free. -/
theorem Framed.of_insertion {front rear : List (SlotPosition × Slot)}
    {slot changed : SlotPosition × Slot} {cluster : Nat} {parent : Directory}
    (framed : Framed (front ++ slot :: rear) cluster parent) (free : slot.2.isFree = true) :
    Framed (front ++ changed :: rear) cluster parent := by
  obtain ⟨self, above, rest, same, own, upper⟩ := framed
  match front with
  | [] =>
    obtain ⟨entry, live, _⟩ := own
    cases same
    rw [live] at free
    cases free
  | [first] =>
    obtain ⟨entry, live, _⟩ := upper
    cases same
    rw [live] at free
    cases free
  | first :: second :: others =>
    cases same
    exact ⟨self, above, _, rfl, own, upper⟩

namespace Insertion

variable {parent : Directory} {position : SlotPosition} {name : RawName} {cluster : Nat}

/-- No two entries of a directory come to carry alike names when an entry is put into the
parent, if no entry of the parent carried such a name. -/
theorem named_after (insertion : medium.Insertion volume parent position name cluster)
    (orderly : medium.Orderly volume)
    (absent : ∀ item ∈ (medium.entries volume parent).items,
      ShortName.sameFolded item.2.name name = false)
    {directory : Directory} (reachable : medium.Reachable volume directory) :
    ((medium.inserted position name cluster).entries volume directory).items.Pairwise
      fun earlier later => ShortName.sameFolded earlier.2.name later.2.name = false := by
  have named := orderly.named directory reachable
  by_cases same : directory = parent
  · subst same
    obtain ⟨front, rear, before, after⟩ := insertion.entries_parent
    rw [before] at named absent
    rw [after]
    rw [List.pairwise_append] at named
    obtain ⟨earlier, later, across⟩ := named
    rw [List.pairwise_append, List.pairwise_cons]
    refine ⟨earlier, ⟨fun item member => ?_, later⟩, fun item member other present => ?_⟩
    · rw [ShortName.sameFolded_comm]
      exact absent item (List.mem_append_right _ member)
    · rcases List.mem_cons.mp present with rfl | behind
      · exact absent item (List.mem_append_left _ member)
      · exact across item member other behind
  · rw [insertion.entries_other reachable same]
    exact named

/-- A directory that some entry leads to still begins with an entry for itself and one for
the directory above it, after a new entry has been put into the parent. -/
theorem framed_after (insertion : medium.Insertion volume parent position name cluster)
    (orderly : medium.Orderly volume) {above : Directory} {item : SlotPosition × Entry}
    (reachable : medium.Reachable volume above)
    (present : item ∈ (medium.entries volume above).items)
    (isDirectory : item.2.isDirectory = true) (named : item.2.isDot = false) :
    Framed ((medium.inserted position name cluster).slots volume
      (.chain item.2.cluster.toNat)).items item.2.cluster.toNat above := by
  have framed := orderly.framed above item reachable present isDirectory named
  have owner := Owner.of_directory reachable present isDirectory named
  obtain ⟨clusters, chain, _⟩ := insertion.consistent.intact item owner
  have opened : medium.Reachable volume (.ofCluster item.2.cluster.toNat) :=
    .child reachable present isDirectory named
  rw [ofCluster_of_data chain.first_data] at opened
  by_cases same : .chain item.2.cluster.toNat = parent
  · obtain ⟨front, slot, rear, divided, free, _, changed⟩ := insertion.slots_parent
    rw [same, changed]
    rw [same, divided] at framed
    exact framed.of_insertion free
  · rw [insertion.slots_other opened same]
    exact framed

/-- An orderly medium stays orderly when the entry is put into it, if no entry of the
parent carried a name that is alike. -/
theorem orderly_after (insertion : medium.Insertion volume parent position name cluster)
    (orderly : medium.Orderly volume)
    (absent : ∀ item ∈ (medium.entries volume parent).items,
      ShortName.sameFolded item.2.name name = false) :
    (medium.inserted position name cluster).Orderly volume where
  toConsistent := insertion.consistent_after
  named directory reachable := by
    rcases insertion.reachable_iff.mp reachable with old | rfl
    · exact insertion.named_after orderly absent old
    · have apart : ShortName.sameFolded ShortName.self ShortName.parent = false := by
        decide +kernel
      simp [insertion.entries_cluster, Entry.directory, apart]
  framed above item reachable member isDirectory named := by
    rcases insertion.reachable_iff.mp reachable with old | rfl
    · rcases (insertion.mem_entries old).mp member with present | ⟨rfl, rfl⟩
      · exact insertion.framed_after orderly old present isDirectory named
      · have number : (Entry.directory name cluster).cluster.toNat = cluster :=
          insertion.data.toNat_ofNat
        rw [number]
        exact insertion.initialised.framed
    · rw [insertion.childless member] at named
      cases named

end Insertion

end Medium

end FatVolume
