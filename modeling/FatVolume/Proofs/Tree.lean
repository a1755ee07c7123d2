import FatVolume.Proofs.Agreement
import Mathlib.Data.List.FinRange
import Mathlib.Data.List.Nodup

/-!
# The tree of a volume

The directories that are reached from the root, the entries in them that have a chain of
their own, and the clusters of those chains make up the tree of a medium. An entry counts
as reached wherever it stands among the live entries of a reached directory, also where
another one with the same name stands before it and no path leads to it.

A medium is consistent when all these chains are intact, no two of them share a cluster,
and nothing but end markers stands behind an end marker. Every slot of the tree then
belongs to one directory, and every directory but the root to one entry.
-/

namespace FatVolume

/-- The entry has a chain of its own: it is that of a directory and does not refer back, or
that of a file with content. -/
def Entry.ownsChain (entry : Entry) : Bool :=
  if entry.isDirectory then !entry.isDot else entry.size != 0

/-- The slot holds an entry that refers by a name to a cluster. -/
def Slot.RefersTo (slot : Slot) (name : RawName) (cluster : Nat) : Prop :=
  ∃ entry, slot = .live entry ∧ entry.name = name ∧ entry.cluster.toNat = cluster

namespace Medium

variable (medium : Medium) (volume : Volume)

/-- The directories that are met on the way down from the root. -/
inductive Reachable : Directory → Prop
  | root : Reachable .root
  | child {parent : Directory} {item : SlotPosition × Entry} (above : Reachable parent)
      (member : item ∈ (medium.entries volume parent).items)
      (directory : item.2.isDirectory = true) (named : item.2.isDot = false) :
      Reachable (.ofCluster item.2.cluster.toNat)

/-- The entry stands in a reachable directory and has a chain of its own. -/
def Owner (item : SlotPosition × Entry) : Prop :=
  ∃ directory, medium.Reachable volume directory ∧
    item ∈ (medium.entries volume directory).items ∧ item.2.ownsChain = true

/-- The chain of an entry leads through these clusters. -/
abbrev Stores (item : SlotPosition × Entry) (clusters : List Nat) : Prop :=
  medium.ChainFrom volume item.2.cluster.toNat clusters

/-- The cluster belongs to the chain of an entry in the tree. -/
def Used (cluster : Nat) : Prop :=
  ∃ item clusters, medium.Owner volume item ∧ medium.Stores volume item clusters ∧
    cluster ∈ clusters

/-- The sector is one of those that the slots of a directory stand in. -/
def Holds : Directory → Nat → Prop
  | .root, lba => volume.InRoot lba
  | .chain first, lba => ∃ clusters, medium.ChainFrom volume first clusters ∧
      ∃ cluster ∈ clusters, volume.InCluster cluster lba

/-- Behind an end marker there are only end markers. -/
def Ended (slots : List (SlotPosition × Slot)) : Prop :=
  slots.Pairwise fun earlier later => earlier.2 = .endMarker → later.2 = .endMarker

/-- The chains of the tree are intact and apart from each other, and every directory ends
at its first end marker. -/
structure Consistent : Prop where
  intact : ∀ item, medium.Owner volume item →
    ∃ clusters, medium.Stores volume item clusters ∧ clusters.Nodup
  disjoint : ∀ item other, medium.Owner volume item → medium.Owner volume other →
    item.1 ≠ other.1 → ∀ clusters others, medium.Stores volume item clusters →
      medium.Stores volume other others → clusters.Disjoint others
  ended : ∀ directory, medium.Reachable volume directory →
    Ended (medium.slots volume directory).items

/-- The slots begin with entries for the directory itself and for its parent. -/
def Framed (slots : List (SlotPosition × Slot)) (cluster : Nat) (parent : Directory) : Prop :=
  ∃ self above rest, slots = self :: above :: rest ∧
    self.2.RefersTo ShortName.self cluster ∧ above.2.RefersTo ShortName.parent parent.cluster

/-- The directory in a cluster refers to itself and to its parent, and is empty otherwise. -/
def Initialised (cluster : Nat) (parent : Directory) : Prop :=
  ∃ self above rest, medium.slots volume (.chain cluster) = ⟨self :: above :: rest, none⟩ ∧
    self.2.RefersTo ShortName.self cluster ∧ above.2.RefersTo ShortName.parent parent.cluster ∧
      ∀ slot ∈ rest, slot.2 = .endMarker

/-- A consistent medium on which no directory has two entries of one name, and every
directory but the root refers to itself and to its parent. -/
structure Orderly : Prop extends medium.Consistent volume where
  named : ∀ directory, medium.Reachable volume directory →
    (medium.entries volume directory).items.Pairwise fun earlier later =>
      ShortName.sameFolded earlier.2.name later.2.name = false
  framed : ∀ parent item, medium.Reachable volume parent →
    item ∈ (medium.entries volume parent).items → item.2.isDirectory = true →
      item.2.isDot = false →
        Framed (medium.slots volume (.chain item.2.cluster.toNat)).items item.2.cluster.toNat parent

variable {medium volume}

/-- What stands behind the first two slots is of no account, so a directory that gains
slots at its end still refers to itself and to its parent. -/
theorem Framed.extended {slots others : List (SlotPosition × Slot)} {cluster : Nat}
    {parent : Directory} (framed : Framed slots cluster parent) (begins : slots <+: others) :
    Framed others cluster parent := by
  obtain ⟨self, above, rest, rfl, own, upper⟩ := framed
  obtain ⟨further, rfl⟩ := begins
  exact ⟨self, above, rest ++ further, rfl, own, upper⟩

/-- An empty directory refers to itself and to its parent in its first two slots. -/
theorem Initialised.framed {cluster : Nat} {parent : Directory}
    (initialised : medium.Initialised volume cluster parent) :
    Framed (medium.slots volume (.chain cluster)).items cluster parent := by
  obtain ⟨self, above, rest, slots, own, upper, _⟩ := initialised
  rw [slots]
  exact ⟨self, above, rest, rfl, own, upper⟩

/-! ## Slots and entries -/

/-- The slots of an intact chain are those of its clusters in order, and they do not break
off: the bound on hops is not reached. -/
theorem ChainFrom.slots {first : Nat} {clusters : List Nat}
    (chain : medium.ChainFrom volume first clusters) (distinct : clusters.Nodup) :
    medium.slots volume (.chain first) = ⟨clusters.flatMap (medium.clusterSlots volume), none⟩ := by
  have nonempty := List.length_pos_of_mem chain.first_mem
  have bounded := chain.length_le distinct
  have whole : [first] ++ clusters.tail = clusters := by cases chain <;> rfl
  simp only [Medium.slots]
  rw [(Layout.checkCluster_ok_iff first).mpr chain.first_data]
  dsimp only
  rw [chain.beyond (by omega), Course.flatMap, Course.behind_items, whole]
  rfl

/-- The slots of the root directory are those of the root region, and no link can break
them off. -/
theorem slots_root : medium.slots volume .root = ⟨medium.rootSlots volume, none⟩ := rfl

/-- A slot of the root region stands where the medium has it, in a sector of the region. -/
theorem mem_rootSlots {item : SlotPosition × Slot} (member : item ∈ medium.rootSlots volume) :
    item = medium.slotAt item.1 ∧ volume.InRoot item.1.lba := by
  obtain ⟨taken, inside, rfl⟩ := List.mem_map.mp member
  exact ⟨rfl, taken, List.mem_range.mp inside, rfl⟩

/-- A slot of a cluster stands where the medium has it, in a sector of the cluster. -/
theorem mem_clusterSlots {cluster : Nat} {item : SlotPosition × Slot}
    (member : item ∈ medium.clusterSlots volume cluster) :
    item = medium.slotAt item.1 ∧ volume.InCluster cluster item.1.lba := by
  obtain ⟨sector, within, inside⟩ := List.mem_flatMap.mp member
  obtain ⟨index, _, rfl⟩ := List.mem_map.mp inside
  have bounded := (List.mem_range'_1.mp within).2
  exact ⟨rfl, sector, by omega, rfl⟩

/-- The medium has a slot of the cluster at each position in one of its sectors, so no
slot of a cluster is left out. -/
theorem slotAt_mem_clusterSlots {cluster : Nat} {position : SlotPosition}
    (inside : volume.InCluster cluster position.lba) :
    medium.slotAt position ∈ medium.clusterSlots volume cluster := by
  obtain ⟨sector, within, address⟩ := inside
  have counted : sector ∈ List.range' 0 (volume.sectorsPerCluster - 0) := by
    rw [List.mem_range'_1]
    omega
  refine List.mem_flatMap.mpr ⟨sector, counted, List.mem_map.mpr ⟨position.index, ?_⟩⟩
  rw [← address]
  exact ⟨List.mem_finRange _, rfl⟩

/-- No two slots of the root region stand in the same place, for sector and index together
tell the number of a slot. -/
theorem rootSlots_distinct : ((medium.rootSlots volume).map Prod.fst).Nodup := by
  rw [rootSlots, List.map_map]
  refine List.Nodup.map ?_ List.nodup_range
  intro taken other same
  have sector := congrArg SlotPosition.lba same
  have index := congrArg (fun position => position.index.val) same
  dsimp only [Function.comp, slotAt] at sector index
  omega

/-- The sixteen slots of a sector stand in different places. -/
theorem sectorSlots_distinct (lba : Nat) : ((medium.sectorSlots lba).map Prod.fst).Nodup := by
  rw [sectorSlots, List.map_map]
  refine List.Nodup.map ?_ (List.nodup_finRange 16)
  intro index other same
  exact congrArg SlotPosition.index same

/-- The slots of a sector stand in that sector. -/
theorem sectorSlots_lba {lba : Nat} {position : SlotPosition}
    (member : position ∈ (medium.sectorSlots lba).map Prod.fst) : position.lba = lba := by
  obtain ⟨slot, inside, rfl⟩ := List.mem_map.mp member
  obtain ⟨index, _, rfl⟩ := List.mem_map.mp inside
  rfl

/-- The slots of different clusters stand in different places, and so do those of one
cluster, as no sector belongs to two data clusters. -/
theorem clusterSlots_distinct {clusters : List Nat}
    (data : ∀ cluster ∈ clusters, volume.DataCluster cluster) (distinct : clusters.Nodup) :
    ((clusters.flatMap (medium.clusterSlots volume)).map Prod.fst).Nodup := by
  rw [List.map_flatMap, List.nodup_flatMap]
  constructor
  · intro cluster _
    rw [clusterSlots, slotsFrom, List.map_flatMap, List.nodup_flatMap]
    constructor
    · exact fun sector _ => sectorSlots_distinct _
    · have numbered : (List.range' 0 (volume.sectorsPerCluster - 0)).Nodup := List.nodup_range'
      refine numbered.imp fun {sector other} different position here there => ?_
      have lba := (sectorSlots_lba here).symm.trans (sectorSlots_lba there)
      omega
  · refine distinct.imp_of_mem fun {cluster other} member present different position here there => ?_
    obtain ⟨slot, inside, rfl⟩ := List.mem_map.mp here
    obtain ⟨found, within, same⟩ := List.mem_map.mp there
    have standing := (mem_clusterSlots within).2
    rw [same] at standing
    exact different
      ((mem_clusterSlots inside).2.unique standing (data cluster member) (data other present))

/-- A live entry is one of the slots from which it was taken, with its position. -/
theorem mem_liveEntries {ending : Option Failure} {slots : List (SlotPosition × Slot)}
    {item : SlotPosition × Entry} (member : item ∈ (liveEntries ending slots).items) :
    (item.1, Slot.live item.2) ∈ slots := by
  fun_induction liveEntries ending slots with
  | case1 => cases member
  | case2 => cases member
  | case3 position entry rest inductionHypothesis =>
    rcases List.mem_cons.mp member with rfl | behind
    · exact List.mem_cons_self
    · exact List.mem_cons_of_mem _ (inductionHypothesis behind)
  | case4 position rest inductionHypothesis | case5 position rest inductionHypothesis
  | case6 position rest inductionHypothesis =>
    exact List.mem_cons_of_mem _ (inductionHypothesis member)

/-- An entry of a directory stands in one of the slots of the directory. -/
theorem mem_slots_of_mem_entries {directory : Directory} {item : SlotPosition × Entry}
    (member : item ∈ (medium.entries volume directory).items) :
    (item.1, Slot.live item.2) ∈ (medium.slots volume directory).items := mem_liveEntries member

/-- Slots that do not break off hold entries that do not break off, with or without an end
marker. -/
theorem liveEntries_ending (slots : List (SlotPosition × Slot)) :
    (liveEntries none slots).ending = none := by
  fun_induction liveEntries none slots with
  | case1 | case2 => rfl
  | case3 position entry rest inductionHypothesis | case4 position rest inductionHypothesis
  | case5 position rest inductionHypothesis | case6 position rest inductionHypothesis =>
    exact inductionHypothesis

/-- An entry of a directory has a chain of its own if it can be opened and does not refer
back, whatever size it records. -/
theorem Owner.of_directory {parent : Directory} {item : SlotPosition × Entry}
    (above : medium.Reachable volume parent)
    (member : item ∈ (medium.entries volume parent).items)
    (directory : item.2.isDirectory = true) (named : item.2.isDot = false) :
    medium.Owner volume item := by
  refine ⟨parent, above, member, ?_⟩
  rw [Entry.ownsChain, if_pos directory, named]
  rfl

/-- The number of a data cluster opens the chain that starts there, and never the root
region. -/
theorem ofCluster_of_data {cluster : Nat} (data : volume.DataCluster cluster) :
    Directory.ofCluster cluster = .chain cluster := by
  have low := data.1
  exact if_neg (by omega)

/-! ## Consistent media -/

namespace Consistent

variable (consistent : medium.Consistent volume)
include consistent

/-- A reachable directory is the root or belongs to an entry with a chain, which on a
consistent medium starts at a data cluster. -/
theorem owner_of_reachable {directory : Directory} (reachable : medium.Reachable volume directory) :
    directory = .root ∨ ∃ item, medium.Owner volume item ∧ item.2.isDirectory = true ∧
      directory = .chain item.2.cluster.toNat := by
  cases reachable with
  | root => exact .inl rfl
  | @child parent item above member isDirectory named =>
    have owner := Owner.of_directory above member isDirectory named
    obtain ⟨clusters, chain, _⟩ := consistent.intact item owner
    exact .inr ⟨item, owner, isDirectory, ofCluster_of_data chain.first_data⟩

/-- A reachable directory other than the root has an intact chain without repetition, and
an entry to which the chain belongs. -/
theorem chain_of_reachable {first : Nat} (reachable : medium.Reachable volume (.chain first)) :
    ∃ item clusters, medium.Owner volume item ∧ item.2.isDirectory = true ∧
      item.2.cluster.toNat = first ∧ medium.ChainFrom volume first clusters ∧ clusters.Nodup := by
  rcases consistent.owner_of_reachable reachable with same | ⟨item, owner, isDirectory, same⟩
  · cases same
  · cases same
    obtain ⟨clusters, chain, distinct⟩ := consistent.intact item owner
    exact ⟨item, clusters, owner, isDirectory, rfl, chain, distinct⟩

/-- The slots of a reachable directory do not break off: chains of the tree are intact on
a consistent medium. -/
theorem slots_ending {directory : Directory} (reachable : medium.Reachable volume directory) :
    (medium.slots volume directory).ending = none := by
  cases directory with
  | root => rfl
  | chain first =>
    obtain ⟨_, clusters, _, _, _, chain, distinct⟩ := consistent.chain_of_reachable reachable
    rw [chain.slots distinct]

/-- A slot of a reachable directory stands where the medium has it, in a sector that holds
the directory. -/
theorem slot_stands {directory : Directory} (reachable : medium.Reachable volume directory)
    {item : SlotPosition × Slot} (member : item ∈ (medium.slots volume directory).items) :
    item = medium.slotAt item.1 ∧ medium.Holds volume directory item.1.lba := by
  cases directory with
  | root => exact mem_rootSlots member
  | chain first =>
    obtain ⟨_, clusters, _, _, _, chain, distinct⟩ := consistent.chain_of_reachable reachable
    rw [chain.slots distinct] at member
    obtain ⟨cluster, held, inside⟩ := List.mem_flatMap.mp member
    obtain ⟨stands, within⟩ := mem_clusterSlots inside
    exact ⟨stands, clusters, chain, cluster, held, within⟩

/-- An entry of the tree is known by its position, whichever directories it is met in: the
medium has one slot at a position. -/
theorem entry_at {directory other : Directory} (reachable : medium.Reachable volume directory)
    (reached : medium.Reachable volume other) {item found : SlotPosition × Entry}
    (member : item ∈ (medium.entries volume directory).items)
    (present : found ∈ (medium.entries volume other).items) (same : item.1 = found.1) :
    item = found := by
  have here := (consistent.slot_stands reachable (mem_slots_of_mem_entries member)).1
  have there := (consistent.slot_stands reached (mem_slots_of_mem_entries present)).1
  dsimp only at here there
  rw [same, ← there] at here
  exact Prod.ext same (Slot.live.inj (congrArg Prod.snd here))

/-- No slot of a reachable directory is met twice, neither within a sector nor along the
chain. -/
theorem positions_distinct {directory : Directory} (reachable : medium.Reachable volume directory) :
    ((medium.slots volume directory).items.map Prod.fst).Nodup := by
  cases directory with
  | root => exact rootSlots_distinct
  | chain first =>
    obtain ⟨_, clusters, _, _, _, chain, distinct⟩ := consistent.chain_of_reachable reachable
    rw [chain.slots distinct]
    exact clusterSlots_distinct chain.data distinct

/-- Owners of chains that meet are one entry. Otherwise two chains of a consistent medium
would share a cluster. -/
theorem owner_unique {item other : SlotPosition × Entry} (owner : medium.Owner volume item)
    (another : medium.Owner volume other) {clusters others : List Nat} {cluster : Nat}
    (chain : medium.Stores volume item clusters) (further : medium.Stores volume other others)
    (inside : cluster ∈ clusters) (within : cluster ∈ others) : item = other := by
  by_cases same : item.1 = other.1
  · obtain ⟨directory, reachable, member, _⟩ := owner
    obtain ⟨elsewhere, reached, present, _⟩ := another
    exact consistent.entry_at reachable reached member present same
  · exact absurd within
      (consistent.disjoint item other owner another same clusters others chain further inside)

/-- A sector of the tree holds slots of one directory only. A write to one directory is
thus not seen in any other. -/
theorem directory_unique {directory other : Directory} {lba : Nat}
    (reachable : medium.Reachable volume directory) (reached : medium.Reachable volume other)
    (holds : medium.Holds volume directory lba) (held : medium.Holds volume other lba) :
    directory = other := by
  have apart {cluster : Nat} (root : volume.InRoot lba)
      (inside : volume.InCluster cluster lba) : False := by
    have below := root.bounds.2
    have above := inside.dataStart_le
    omega
  cases directory with
  | root =>
    cases other with
    | root => rfl
    | chain first =>
      obtain ⟨clusters, _, cluster, _, inside⟩ := held
      exact (apart holds inside).elim
  | chain first =>
    obtain ⟨clusters, chain, cluster, member, inside⟩ := holds
    cases other with
    | root => exact (apart held inside).elim
    | chain further =>
      obtain ⟨others, rest, number, present, within⟩ := held
      obtain rfl := inside.unique within (chain.data _ member) (rest.data _ present)
      obtain ⟨item, _, owner, _, rfl, _⟩ := consistent.chain_of_reachable reachable
      obtain ⟨found, _, another, _, rfl, _⟩ := consistent.chain_of_reachable reached
      rw [consistent.owner_unique owner another chain rest member present]

end Consistent

/-- A cluster that is part of the tree is a data cluster. -/
theorem Used.data {cluster : Nat} (used : medium.Used volume cluster) :
    volume.DataCluster cluster := by
  obtain ⟨_, _, _, chain, member⟩ := used
  exact chain.data _ member

/-- A cluster that reading takes for free is not part of the tree, so allocation cannot
hand out a cluster of the tree. -/
theorem Used.link_ne_zero {cluster : Nat} (used : medium.Used volume cluster) :
    medium.link volume cluster ≠ 0 := by
  obtain ⟨item, clusters, _, chain, member⟩ := used
  exact chain.link_ne_zero member

end Medium

end FatVolume
