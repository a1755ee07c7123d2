import FatVolume.Proofs.Insertion
import FatVolume.Proofs.Walks

/-!
# Media on the way

While a directory is created, the medium passes through states that are settled or
partway. A settled medium carries the tree that was there, one of its chains grown by a
cluster at most, and whatever has been claimed since is part of the tree. Partway, one
cluster outside of the tree is being prepared besides.

The claim of a slot and the claim of a cluster pass through such states only, whichever of
their writes was the last; what remains then is the single write of the entry.
-/

namespace FatVolume

namespace Medium

variable {medium base changed : Medium} {volume : Volume}

/-- The clusters that are claimed are those that were, and those of the tree; what the tree
has gained was free. -/
structure Accounted (medium changed : Medium) (volume : Volume) : Prop where
  claimed : ∀ cluster, volume.DataCluster cluster →
    (changed.link volume cluster ≠ 0 ↔
      medium.link volume cluster ≠ 0 ∨ changed.Used volume cluster)
  kept : ∀ cluster, medium.Used volume cluster → changed.Used volume cluster
  gained : ∀ cluster, changed.Used volume cluster →
    medium.Used volume cluster ∨ medium.link volume cluster = 0

/-- The tree of a medium stands, and every cluster claimed since belongs to it. -/
structure Settled (medium base : Medium) (volume : Volume) : Prop where
  carried : ∃ growth, medium.Carries base volume growth
  accounted : medium.Accounted base volume

/-- The medium differs from a settled one in a cluster outside of the tree at most. -/
def Partway (medium changed : Medium) (volume : Volume) : Prop :=
  ∃ base spare, medium.Settled base volume ∧ base.Spares changed volume spare ∧
    ¬ base.Used volume spare

namespace Accounted

/-- With no change at all, what is claimed is what was claimed before, together with the
tree, whose clusters are claimed already. -/
theorem refl (medium : Medium) (volume : Volume) : medium.Accounted medium volume :=
  ⟨fun _ _ => (or_iff_left_of_imp Used.link_ne_zero).symm, fun _ => id, fun _ => .inl⟩

/-- What the tree gains over two changes was free before the first one, and is claimed
after the second, if both of them keep account. -/
theorem trans (first : medium.Accounted base volume) (second : base.Accounted changed volume) :
    medium.Accounted changed volume where
  claimed cluster data := by
    rw [second.claimed cluster data, first.claimed cluster data, or_assoc]
    exact or_congr_right (or_iff_right_of_imp (second.kept cluster))
  kept cluster used := second.kept cluster (first.kept cluster used)
  gained cluster used := by
    rcases second.gained cluster used with old | free
    · exact first.gained cluster old
    · right
      by_contra claimed
      exact (first.claimed cluster used.data).mpr (.inl claimed) free

/-- A cluster that is claimed and yet no part of the tree after the change was so before
it, and the other way round. -/
theorem outside_iff (accounted : medium.Accounted changed volume) {cluster : Nat}
    (data : volume.DataCluster cluster) :
    changed.link volume cluster ≠ 0 ∧ ¬ changed.Used volume cluster ↔
      medium.link volume cluster ≠ 0 ∧ ¬ medium.Used volume cluster := by
  rw [accounted.claimed cluster data]
  constructor
  · rintro ⟨claimed | used, outside⟩
    · exact ⟨claimed, fun old => outside (accounted.kept cluster old)⟩
    · exact absurd used outside
  · rintro ⟨claimed, outside⟩
    constructor
    · exact .inl claimed
    · intro used
      rcases accounted.gained cluster used with old | free
      · exact outside old
      · exact claimed free

end Accounted

/-- A consistent medium is settled relative to itself: no chain has grown, and nothing has
been claimed. -/
theorem Settled.refl (consistent : medium.Consistent volume) : medium.Settled medium volume where
  carried := ⟨_, .of_untouched consistent (fun _ _ => rfl) (fun _ _ => rfl) fun _ _ _ _ => rfl⟩
  accounted := .refl medium volume

/-- A settled medium is partway as well: the cluster in which it may differ from a settled
one is any that the tree does not use. -/
theorem Settled.partway (settled : medium.Settled base volume) : medium.Partway base volume :=
  ⟨base, 0, settled, .refl base volume 0, fun used => absurd used.data.1 (by decide)⟩

/-- Changing the link and the sectors of a cluster that the tree does not use takes a
settled medium to one that is partway. -/
theorem Partway.of_spares {spare : Nat} (settled : medium.Settled base volume)
    (spares : base.Spares changed volume spare) (unused : ¬ base.Used volume spare) :
    medium.Partway changed volume := ⟨base, spare, settled, spares, unused⟩

/-! ## Claiming a slot -/

/-- The last cluster of a chain without repetitions is the one that following the links
from its first cluster comes to. -/
theorem ChainFrom.lastCluster {first : Nat} {clusters : List Nat}
    (chain : medium.ChainFrom volume first clusters) (distinct : clusters.Nodup) :
    clusters.getLast? = some (medium.lastCluster volume first) := by
  have nonempty := List.length_pos_of_mem chain.first_mem
  have bounded := chain.length_le distinct
  have whole : first :: clusters.tail = clusters := by cases chain <;> rfl
  simp only [Medium.lastCluster]
  rw [chain.beyond (by omega), ← whole, List.getLast?_cons, List.tail_cons, List.getLastD_eq_getLast?]

/-- No slot of a directory is free where a search of all its slots has found none. -/
theorem taken_of_freeSlot {course : Course (SlotPosition × Slot)} (full : course.freeSlot = .ok none) :
    ∀ slot ∈ course.items, slot.2.isFree = false := by
  simp only [Course.freeSlot] at full
  split at full
  · cases full
  · next none =>
    intro slot member
    simpa using List.find?_eq_none.mp none slot member

/-- The slots of a cluster begin with the first slot of its first sector, since a cluster
has one sector at least. -/
theorem clusterSlots_first (medium : Medium) (volume : Volume) (cluster : Nat) :
    ∃ rest, medium.clusterSlots volume cluster =
      medium.slotAt ⟨volume.clusterStart cluster + 0, 0⟩ :: rest := by
  have first : 0 < 16 := by decide
  have split := medium.drop_sectorSlots first (volume.clusterStart cluster + 0)
  rw [List.drop_zero] at split
  rw [clusterSlots, slotsFrom_inside volume.usable.sectorsPerCluster_pos, split]
  exact ⟨_, rfl⟩

/-- The medium on which a chain has been given a fresh cluster, after some of the copies of
the table tell so. -/
def grownBy (medium : Medium) (volume : Volume) (first added copies : Nat) : Medium :=
  (medium.apply (medium.freshWrites volume added)).apply
    ((medium.apply (medium.freshWrites volume added)).linkWrites volume
      (medium.lastCluster volume first) (UInt16.ofNat added) copies)

/-- A full directory of the tree, and the lowest free cluster. -/
structure Growing (medium : Medium) (volume : Volume) (first added : Nat) : Prop where
  consistent : medium.Consistent volume
  reachable : medium.Reachable volume (.chain first)
  full : (medium.slots volume (.chain first)).freeSlot = .ok none
  free : medium.firstFree volume = some added

namespace Growing

variable {first added : Nat} (growing : medium.Growing volume first added)
include growing

/-- The fresh cluster is a data cluster of the volume, as it was found by the search for a
free one. -/
theorem data : volume.DataCluster added := (firstFree_some growing.free).1

/-- The fresh cluster is used by no chain of the tree, since its link was free and those
of used clusters are not. -/
theorem unused : ¬ medium.Used volume added :=
  fun used => used.link_ne_zero (firstFree_some growing.free).2

/-- The last cluster of the directory is used by the tree, being part of the chain of a
directory that is reached. -/
theorem last_used : medium.Used volume (medium.lastCluster volume first) := by
  obtain ⟨item, clusters, owner, _, rfl, chain, distinct⟩ :=
    growing.consistent.chain_of_reachable growing.reachable
  exact ⟨item, clusters, owner, chain, List.mem_of_getLast? (chain.lastCluster distinct)⟩

/-- The last cluster of the directory is not the fresh one, for the tree uses the former
and not the latter. -/
theorem last_ne : medium.lastCluster volume first ≠ added := by
  intro same
  exact growing.unused (same ▸ growing.last_used)

/-- Wherever the claim and the filling of the fresh cluster stop, nothing but its link and
its sectors has changed. -/
theorem spares {done : List Write} (begun : done <+: medium.freshWrites volume added) :
    medium.Spares (medium.apply done) volume added :=
  .of_freshWrites growing.data begun

/-- When the fresh cluster has been prepared, the end mark is its link in every copy and
its sectors hold zero bytes. -/
theorem fresh : (medium.apply (medium.freshWrites volume added)).Claimed volume added ∧
    (medium.apply (medium.freshWrites volume added)).Blank volume added :=
  ⟨.of_freshWrites growing.data, .of_freshWrites medium volume added⟩

variable {copies : Nat} (begun : 0 < copies) (stored : copies ≤ volume.tableCopies)

/-- From the root region on, the grown medium is the one with the fresh cluster prepared,
since the link to it only changes the table. -/
theorem grownBy_above {lba : Nat} (stored : copies ≤ volume.tableCopies)
    (above : volume.rootStart ≤ lba) :
    medium.grownBy volume first added copies lba =
      medium.apply (medium.freshWrites volume added) lba :=
  linkWrites_above growing.last_used.data stored above

/-- The root region stands as it did while the chain grows, in however many copies the new
link has been stored. -/
theorem root (stored : copies ≤ volume.tableCopies) :
    medium.SameRoot (medium.grownBy volume first added copies) volume := fun lba inside =>
  (growing.grownBy_above stored inside.bounds.1).trans
    ((growing.spares List.prefix_rfl).root lba inside)

/-- Every cluster but the fresh one keeps its sectors while the chain grows, in however
many copies the new link has been stored. -/
theorem sectors (stored : copies ≤ volume.tableCopies) {cluster : Nat}
    (data : volume.DataCluster cluster) (other : cluster ≠ added) :
    medium.SameSectors (medium.grownBy volume first added copies) volume cluster :=
  fun lba inside =>
    (growing.grownBy_above stored
      (Nat.le_trans volume.rootStart_le_dataStart inside.dataStart_le)).trans
        ((growing.spares List.prefix_rfl).sectors cluster data other lba inside)

/-- Every cluster keeps its link while the chain grows, apart from the fresh one and the
last one of the directory. -/
theorem link {cluster : Nat} (data : volume.DataCluster cluster) (other : cluster ≠ added)
    (notLast : cluster ≠ medium.lastCluster volume first) :
    (medium.grownBy volume first added copies).link volume cluster =
      medium.link volume cluster :=
  (link_other growing.last_used.data data notLast).trans
    ((growing.spares List.prefix_rfl).link cluster data other)

include begun in
/-- Once the first copy tells of the fresh cluster, the last cluster of the directory
leads to it. -/
theorem link_last :
    ((medium.grownBy volume first added copies).link volume
      (medium.lastCluster volume first)).toNat = added := by
  rw [grownBy, link_written growing.last_used.data growing.data.ofNat_ne_zero begun,
    growing.data.toNat_ofNat]

/-- The fresh cluster ends a chain, and still does when the link to it is stored, as that
link is the one of another cluster. -/
theorem link_added :
    (medium.grownBy volume first added copies).link volume added = Link.endMark :=
  (link_other growing.last_used.data growing.data growing.last_ne.symm).trans growing.fresh.1.link

/-- The chain from the fresh cluster consists of that cluster alone, once it has been
prepared and linked to. -/
theorem chain_added :
    (medium.grownBy volume first added copies).ChainFrom volume added [added] := by
  refine .last growing.data ?_
  rw [growing.link_added]
  decide

/-- The sectors of the fresh cluster hold zero bytes, also when the link to it has been
stored in some copies of the table. -/
theorem blank (stored : copies ≤ volume.tableCopies) :
    (medium.grownBy volume first added copies).Blank volume added := fun lba inside =>
  (growing.grownBy_above stored
    (Nat.le_trans volume.rootStart_le_dataStart inside.dataStart_le)).trans
      (growing.fresh.2 lba inside)

include begun stored

/-- Once the first copy tells of the fresh cluster, the tree is carried over and the chain
of one entry, that of the directory, has grown by it. -/
theorem carries : ∃ owned, medium.Owner volume owned ∧
    medium.Carries (medium.grownBy volume first added copies) volume
      fun position => if position = owned.1 then [added] else [] := by
  obtain ⟨owned, clusters, owner, isDirectory, rfl, chain, distinct⟩ :=
    growing.consistent.chain_of_reachable growing.reachable
  have apart {cluster : Nat} (used : medium.Used volume cluster) : cluster ≠ added := by
    rintro rfl
    exact growing.unused used
  have extension : medium.Extension (medium.grownBy volume owned.2.cluster.toNat added copies)
      volume owned clusters (medium.lastCluster volume owned.2.cluster.toNat) added :=
    { consistent := growing.consistent
      owner, isDirectory, chain, distinct
      stands := chain.lastCluster distinct
      root := growing.root stored
      link := fun cluster used => growing.link used.data (apart used)
      sectors := fun cluster used => growing.sectors stored used.data (apart used)
      full := fun slot member marks => by
        have taken := taken_of_freeSlot growing.full slot member
        rw [marks] at taken
        cases taken
      unused := growing.unused
      linked := growing.link_last begun
      ends := growing.chain_added
      blank := growing.blank stored }
  exact ⟨owned, owner, extension.carries⟩

/-- The clusters that the grown tree uses are those that it used before and the fresh one,
as soon as the first copy tells of it. -/
theorem used_iff {cluster : Nat} :
    (medium.grownBy volume first added copies).Used volume cluster ↔
      medium.Used volume cluster ∨ cluster = added := by
  obtain ⟨owned, owner, carries⟩ := growing.carries begun stored
  rw [carries.used_iff growing.consistent]
  refine or_congr_right ⟨?_, fun same => ⟨owned, owner, by simp [same]⟩⟩
  rintro ⟨item, _, member⟩
  split at member
  · exact List.mem_singleton.mp member
  · cases member

/-- The grown medium keeps account: what is claimed is what was claimed and what the tree
uses, and the one cluster that the tree has gained was free. -/
theorem accounted : medium.Accounted (medium.grownBy volume first added copies) volume where
  claimed cluster data := by
    constructor
    · intro claimed
      by_cases fresh : cluster = added
      · exact .inr ((growing.used_iff begun stored).mpr (.inr fresh))
      · by_cases last : cluster = medium.lastCluster volume first
        · rw [last]
          exact .inl growing.last_used.link_ne_zero
        · rw [growing.link data fresh last] at claimed
          exact .inl claimed
    · rintro (claimed | used)
      · by_cases fresh : cluster = added
        · rw [fresh] at claimed
          exact absurd (firstFree_some growing.free).2 claimed
        · by_cases last : cluster = medium.lastCluster volume first
          · rw [last]
            exact ((growing.used_iff begun stored).mpr (.inl growing.last_used)).link_ne_zero
          · rw [growing.link data fresh last]
            exact claimed
      · exact used.link_ne_zero
  kept _ used := (growing.used_iff begun stored).mpr (.inl used)
  gained cluster used := by
    rcases (growing.used_iff begun stored).mp used with old | rfl
    · exact .inl old
    · exact .inr (firstFree_some growing.free).2

/-- The grown medium is settled as soon as the first copy tells of the fresh cluster: the
tree is carried over and accounts for what is claimed. -/
theorem settled : medium.Settled (medium.grownBy volume first added copies) volume where
  carried := by
    obtain ⟨owned, _, carries⟩ := growing.carries begun stored
    exact ⟨_, carries⟩
  accounted := growing.accounted begun stored

/-- The slots of the grown directory are those that it had, with the slots of the fresh
cluster behind them. -/
theorem slots :
    (medium.grownBy volume first added copies).slots volume (.chain first) =
      ⟨(medium.slots volume (.chain first)).items ++
        (medium.grownBy volume first added copies).clusterSlots volume added, none⟩ := by
  obtain ⟨item, clusters, owner, _, rfl, chain, distinct⟩ :=
    growing.consistent.chain_of_reachable growing.reachable
  have used {cluster : Nat} (member : cluster ∈ clusters) : medium.Used volume cluster :=
    ⟨item, clusters, owner, chain, member⟩
  have apart {cluster : Nat} (member : cluster ∈ clusters) : cluster ≠ added := by
    rintro rfl
    exact growing.unused (used member)
  have grown : (medium.grownBy volume item.2.cluster.toNat added copies).ChainFrom volume
      item.2.cluster.toNat (clusters ++ [added]) :=
    chain.grows distinct (chain.lastCluster distinct)
      (fun cluster member => growing.link (chain.data _ member) (apart member))
      (growing.link_last begun) growing.chain_added
  have unrepeated : (clusters ++ [added]).Nodup :=
    List.Nodup.append distinct (List.nodup_singleton added) fun cluster member new =>
      apart member (List.mem_singleton.mp new)
  have kept : clusters.flatMap
        ((medium.grownBy volume item.2.cluster.toNat added copies).clusterSlots volume) =
      clusters.flatMap (medium.clusterSlots volume) :=
    List.flatMap_congr fun cluster member =>
      (growing.sectors stored (chain.data _ member) (apart member)).slots
  rw [grown.slots unrepeated, chain.slots distinct, List.flatMap_append, List.flatMap_singleton, kept]

omit begun in
/-- Every reachable directory other than the grown one has the slots that it had, as
neither its links nor its sectors were touched. -/
theorem slots_other {directory : Directory} (reachable : medium.Reachable volume directory)
    (other : directory ≠ .chain first) :
    (medium.grownBy volume first added copies).slots volume directory =
      medium.slots volume directory := by
  cases directory with
  | root => exact (growing.root stored).slots
  | chain start =>
    obtain ⟨item, clusters, owner, _, rfl, chain, _⟩ :=
      growing.consistent.chain_of_reachable reachable
    obtain ⟨owned, others, another, _, rfl, grown, distinct⟩ :=
      growing.consistent.chain_of_reachable growing.reachable
    have last := List.mem_of_getLast? (grown.lastCluster distinct)
    have apart {cluster : Nat} (member : cluster ∈ clusters) : cluster ≠ added := by
      rintro rfl
      exact growing.unused ⟨item, clusters, owner, chain, member⟩
    have notLast {cluster : Nat} (member : cluster ∈ clusters) :
        cluster ≠ medium.lastCluster volume owned.2.cluster.toNat := by
      rintro rfl
      exact other (by rw [growing.consistent.owner_unique owner another chain grown member last])
    have agrees : medium.AgreesOn (medium.grownBy volume owned.2.cluster.toNat added copies) volume
        (· ∈ clusters) :=
      chain.agrees
        (fun cluster member => growing.link (chain.data _ member) (apart member) (notLast member))
        fun cluster member => growing.sectors stored (chain.data _ member) (apart member)
    exact agrees.slots chain.first_mem

/-- The first free slot of the grown directory is the first one of the fresh cluster,
since none of those that it had before is free. -/
theorem vacant :
    ((medium.grownBy volume first added copies).slots volume (.chain first)).freeSlot =
      .ok (some ⟨volume.clusterStart added + 0, 0⟩) := by
  have passed : (medium.slots volume (.chain first)).items.find? (fun item => item.2.isFree) =
      none := by
    rw [List.find?_eq_none]
    intro slot member
    rw [taken_of_freeSlot growing.full slot member]
    exact Bool.false_ne_true
  obtain ⟨rest, begins⟩ := clusterSlots_first
    (medium.grownBy volume first added copies) volume added
  have marks := (growing.blank stored).slots _ (begins ▸ List.mem_cons_self)
  have free : ((medium.grownBy volume first added copies).slotAt
      ⟨volume.clusterStart added + 0, 0⟩).2.isFree = true := by
    rw [marks]
    rfl
  rw [growing.slots begun stored, Course.freeSlot]
  dsimp only
  rw [List.find?_append, passed, begins, Option.none_or, List.find?_cons, free]
  rfl

end Growing

namespace Claims

variable {parent : Directory} {claimed : Except Failure SlotPosition} {writes : List Write}

/-- Each of the writes that claim a slot leaves a medium that is partway, be it a cluster
that is prepared or the link to one. -/
theorem partway (claims : medium.Claims volume parent claimed writes)
    (consistent : medium.Consistent volume) (reachable : medium.Reachable volume parent)
    {done : List Write} (begun : done <+: writes) : medium.Partway (medium.apply done) volume := by
  have still (none : done <+: []) : medium.Partway (medium.apply done) volume := by
    rw [List.prefix_nil.mp none]
    exact (Settled.refl consistent).partway
  cases claims with
  | found free => exact still begun
  | rootFull full => exact still begun
  | exhausted full none => exact still begun
  | broken breaks => exact still begun
  | @grown first added full free =>
    have growing : medium.Growing volume first added := ⟨consistent, reachable, full, free⟩
    rcases prefix_append_cases begun with claiming | ⟨more, rfl, linking⟩
    · exact .of_spares (.refl consistent) (growing.spares claiming) growing.unused
    · obtain ⟨copies, stored, rfl⟩ := linkWrites_prefix linking
      rw [apply_append]
      rcases Nat.eq_zero_or_pos copies with rfl | written
      · exact .of_spares (.refl consistent) (growing.spares List.prefix_rfl) growing.unused
      · exact (growing.settled written stored).partway

/-- When all the writes that claim a slot are done, the medium is settled, whether or not
the directory had to be extended. -/
theorem settled (claims : medium.Claims volume parent claimed writes)
    (consistent : medium.Consistent volume) (reachable : medium.Reachable volume parent) :
    medium.Settled (medium.apply writes) volume := by
  cases claims with
  | found free => exact .refl consistent
  | rootFull full => exact .refl consistent
  | exhausted full none => exact .refl consistent
  | broken breaks => exact .refl consistent
  | @grown first added full free =>
    have growing : medium.Growing volume first added := ⟨consistent, reachable, full, free⟩
    rw [growthWrites, apply_append]
    exact growing.settled volume.usable.tableCopies_pos le_rfl

/-- When a claim has ended with a slot, this is the first free one of the directory on the
medium that it leaves. -/
theorem vacant {position : SlotPosition}
    (claims : medium.Claims volume parent (.ok position) writes)
    (consistent : medium.Consistent volume) (reachable : medium.Reachable volume parent) :
    ((medium.apply writes).slots volume parent).freeSlot = .ok (some position) := by
  cases claims with
  | found free => exact free
  | @grown first added full free =>
    have growing : medium.Growing volume first added := ⟨consistent, reachable, full, free⟩
    rw [growthWrites, apply_append]
    exact growing.vacant volume.usable.tableCopies_pos le_rfl

end Claims

/-! ## Preparing the cluster of a directory -/

/-- The first free slot of a list stays the first one when end markers are put behind the
list. -/
theorem Lengthened.freeSlot {slots others : List (SlotPosition × Slot)}
    {ending : Option Failure} {position : SlotPosition} (lengthened : Lengthened slots others)
    (vacant : (Course.mk slots ending).freeSlot = .ok (some position)) :
    (Course.mk others none).freeSlot = .ok (some position) := by
  obtain ⟨further, rfl⟩ := lengthened.begins
  simp only [Course.freeSlot] at vacant ⊢
  split at vacant
  · next item found =>
    cases vacant
    rw [List.find?_append, found]
    rfl
  · split at vacant <;> cases vacant

section Preparing

variable {parent : Directory} {position : SlotPosition} {name : RawName} {cluster : Nat}

/-- Wherever the preparation of a new directory stops, nothing but the link and the
sectors of its cluster has changed. -/
theorem Spares.of_preparing (data : volume.DataCluster cluster) {done : List Write}
    (begun : done <+: medium.preparationWrites volume cluster parent) :
    medium.Spares (medium.apply done) volume cluster :=
  .of_claiming data (fun _ => mem_initialWrites) begun

/-- When the lowest free cluster has been prepared as an empty directory, everything that
the insertion of its entry into the first free slot asks for holds. -/
theorem Insertion.of_preparation (consistent : medium.Consistent volume)
    (reachable : medium.Reachable volume parent)
    (vacant : (medium.slots volume parent).freeSlot = .ok (some position))
    (canonical : ShortName.Canonical name) (free : medium.firstFree volume = some cluster) :
    (medium.apply (medium.preparationWrites volume cluster parent)).Insertion volume parent
      position name cluster := by
  obtain ⟨data, unlinked⟩ := firstFree_some free
  have unused : ¬ medium.Used volume cluster := fun used => used.link_ne_zero unlinked
  have spares := Spares.of_preparing data (List.prefix_refl
    (medium.preparationWrites volume cluster parent))
  have carries := spares.carries consistent unused
  have claimed : (medium.apply (medium.preparationWrites volume cluster parent)).Claimed volume
      cluster := .of_claiming data fun _ => mem_initialWrites
  constructor
  · exact carries.consistent_after consistent
  · exact (carries.reachable_iff consistent).mpr reachable
  · obtain ⟨ending, lengthened⟩ := carries.slots parent reachable
    generalize (medium.apply _).slots volume parent = course at ending lengthened
    obtain ⟨items, _⟩ := course
    cases ending
    exact lengthened.freeSlot vacant
  · exact canonical
  · exact data
  · rw [carries.used_iff consistent]
    rintro (used | ⟨_, _, member⟩)
    · exact unused used
    · cases member
  · rw [claimed.link]
    decide
  · rw [preparationWrites, apply_append]
    exact filled_of_initialWrites _ volume cluster parent

end Preparing

/-! ## Creating a directory -/

/-- A vacant path leads to the directory in front of its last name, and no entry there
carries that name. -/
theorem vacancy_ok {path : List Char} {parent : Directory} {name : RawName}
    (vacant : medium.vacancy volume path = .ok (parent, name)) :
    ∃ front, Path.names path = front ++ [.ok name] ∧
      medium.Awaits volume front parent name := by
  simp only [vacancy] at vacant
  rw [resolve_eq_walk] at vacant
  split at vacant
  · cases vacant
  · next missing =>
    split at vacant
    · cases vacant
    · next front leaf divided =>
      obtain ⟨above, led, vacant⟩ := ok_of_bind vacant
      obtain ⟨directory, opened, vacant⟩ := ok_of_bind vacant
      obtain ⟨raw, encoded, vacant⟩ := ok_of_bind vacant
      cases vacant
      rw [resolve_eq_walk] at led
      have names : Path.names path = Path.names front ++ [.ok name] := by
        rw [Path.names_of_splitLeaf divided, encoded]
      refine ⟨_, names, names ▸ spelled_names path, ⟨above, led, opened⟩, ?_⟩
      rw [names, walk_concat, led] at missing
      change medium.stride volume above (.ok name) = .error .notFound at missing
      rw [stride, opened] at missing
      change medium.find volume parent name >>= _ = _ at missing
      cases found : medium.find volume parent name with
      | ok entry =>
        rw [found] at missing
        cases missing
      | error failure => exact absent_of_find found
  · cases vacant

end Medium

end FatVolume
