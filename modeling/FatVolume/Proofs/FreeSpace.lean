import FatVolume.Proofs.Completion
import Mathlib.Order.Interval.Finset.Nat

/-!
# Free space

A directory needs a slot in its parent and a cluster of its own. The slot is one of those
that are free in the parent. Where there is none, a chain grows by one more cluster, and the
root region cannot grow. So two counts decide whether a vacant name can be taken, that of the
free slots of the parent and that of the free clusters.

A creation that succeeds lowers the counts by what it needed, and leaves the slots of the
other directories alone.
-/

namespace FatVolume

/-- The clusters that a new directory takes, where its parent has so many free slots: one, and
another one by which a full parent grows. -/
def clustersTaken (freeSlots : Nat) : Nat := if freeSlots = 0 then 2 else 1

namespace Volume

/-- The free slots that a parent has left which had so many. A full parent has grown. -/
def slotsLeft (volume : Volume) (freeSlots : Nat) : Nat :=
  if freeSlots = 0 then volume.sectorsPerCluster * 16 - 1 else freeSlots - 1

end Volume

namespace Medium

variable (medium : Medium) (volume : Volume)

/-- The data clusters that reading takes for free. -/
def freeClusters : Finset Nat :=
  (Finset.Icc 2 volume.maxCluster).filter fun cluster => medium.link volume cluster = 0

/-- The number of free slots of a directory. -/
def freeSlots (directory : Directory) : Nat :=
  (medium.slots volume directory).items.countP fun item => item.2.isFree

/-- There is room for one more directory in a directory. -/
structure Admits (parent : Directory) : Prop where
  slot : parent = .root → medium.freeSlots volume parent ≠ 0
  clusters : clustersTaken (medium.freeSlots volume parent) ≤ (medium.freeClusters volume).card

variable {medium volume} {changed : Medium}

/-! ## Counting clusters -/

/-- A cluster is among the free ones if and only if it is a data cluster of the volume and
its link is read as free. -/
theorem mem_freeClusters {cluster : Nat} :
    cluster ∈ medium.freeClusters volume ↔
      volume.DataCluster cluster ∧ medium.link volume cluster = 0 := by
  rw [freeClusters, Finset.mem_filter, Finset.mem_Icc]
  rfl

/-- The lowest free cluster that the search finds is one of the free clusters. -/
theorem mem_freeClusters_of_firstFree {cluster : Nat}
    (found : medium.firstFree volume = some cluster) : cluster ∈ medium.freeClusters volume :=
  mem_freeClusters.mpr (firstFree_some found)

/-- Where the search finds no lowest free cluster, there are no free clusters at all. -/
theorem freeClusters_of_firstFree (none : medium.firstFree volume = none) :
    medium.freeClusters volume = ∅ := by
  rw [Finset.eq_empty_iff_forall_notMem]
  intro cluster member
  obtain ⟨data, free⟩ := mem_freeClusters.mp member
  exact firstFree_eq_none_iff.mp none cluster data free

/-- When one cluster has been claimed and all others are as free as they were, the free
clusters are those that were free without that one. -/
theorem freeClusters_erase {cluster : Nat} (claimed : changed.link volume cluster ≠ 0)
    (others : ∀ number, volume.DataCluster number → number ≠ cluster →
      (changed.link volume number = 0 ↔ medium.link volume number = 0)) :
    changed.freeClusters volume = (medium.freeClusters volume).erase cluster := by
  ext number
  rw [Finset.mem_erase, mem_freeClusters, mem_freeClusters]
  constructor
  · rintro ⟨data, free⟩
    have other : number ≠ cluster := by
      rintro rfl
      exact claimed free
    exact ⟨other, data, (others number data other).mp free⟩
  · rintro ⟨other, data, free⟩
    exact ⟨data, (others number data other).mpr free⟩

/-- A course over links that does not break off ends at a cluster whose link ends a chain. -/
theorem follow_last {links cluster : Nat}
    (whole : (medium.beyond volume links cluster).ending = none) :
    medium.follow volume ((medium.beyond volume links cluster).items.getLastD cluster) =
      .ok none := by
  -- The last item of a course is that of the course behind its first link, unless there is none.
  induction links generalizing cluster with
  | zero =>
    rw [beyond] at whole ⊢
    split at whole
    · cases whole
    · assumption
    · cases whole
  | succ links inductionHypothesis =>
    rw [beyond] at whole ⊢
    split at whole
    · cases whole
    · assumption
    · next successor followed =>
      dsimp only
      rw [Course.behind_items, List.singleton_append, List.getLastD_cons]
      exact inductionHypothesis whole

/-- Where a search for a free slot finds none, the slots come to an end without a failure. -/
theorem ending_of_freeSlot {course : Course (SlotPosition × Slot)}
    (full : course.freeSlot = .ok none) : course.ending = none := by
  simp only [Course.freeSlot] at full
  split at full
  · cases full
  · split at full
    · cases full
    · assumption

/-- Where a search for a free slot fails, reading the slots breaks off with that same
failure. -/
theorem ending_of_freeSlot_error {course : Course (SlotPosition × Slot)} {failure : Failure}
    (breaks : course.freeSlot = .error failure) : course.ending = some failure := by
  simp only [Course.freeSlot] at breaks
  split at breaks
  · cases breaks
  · split at breaks
    · cases breaks
      assumption
    · cases breaks

/-- Where a chain has been searched to its end, its last cluster has a link that is not
free. -/
theorem link_lastCluster {first : Nat}
    (full : (medium.slots volume (.chain first)).freeSlot = .ok none) :
    medium.link volume (medium.lastCluster volume first) ≠ 0 := by
  intro free
  have whole := ending_of_freeSlot full
  have data := (Layout.checkCluster_ok_iff first).mpr (data_of_freeSlot full)
  simp only [slots, data, Course.flatMap, Course.behind] at whole
  have ends : medium.follow volume (medium.lastCluster volume first) = .ok none := follow_last whole
  rw [follow, free] at ends
  cases ends

/-- The growth of a chain takes the cluster that it grows by from the free ones, and no
other cluster. -/
theorem freeClusters_grown {first added : Nat}
    (full : (medium.slots volume (.chain first)).freeSlot = .ok none)
    (free : medium.firstFree volume = some added) :
    (medium.apply (medium.growthWrites volume (medium.lastCluster volume first) added)).freeClusters
      volume = (medium.freeClusters volume).erase added := by
  obtain ⟨data, unlinked⟩ := firstFree_some free
  have last : volume.DataCluster (medium.lastCluster volume first) :=
    lastCluster_data (data_of_freeSlot full)
  have claimed : (medium.apply (medium.freshWrites volume added)).Claimed volume added :=
    .of_freshWrites data
  have spares : medium.Spares (medium.apply (medium.freshWrites volume added)) volume added :=
    .of_freshWrites data List.prefix_rfl
  have linked := link_lastCluster full
  have notLast : added ≠ medium.lastCluster volume first := by
    intro same
    exact linked (same ▸ unlinked)
  rw [growthWrites, apply_append]
  apply freeClusters_erase
  · rw [link_other last data notLast, claimed.link]
    decide
  · intro number numbered other
    by_cases same : number = medium.lastCluster volume first
    · rw [same, link_written last data.ofNat_ne_zero volume.usable.tableCopies_pos]
      exact iff_of_false data.ofNat_ne_zero linked
    · rw [link_other last numbered same, spares.link number numbered other]

/-! ## Counting slots -/

/-- A directory has no free slots by count if and only if each of its slots is taken. -/
theorem freeSlots_eq_zero {directory : Directory} :
    medium.freeSlots volume directory = 0 ↔
      ∀ slot ∈ (medium.slots volume directory).items, slot.2.isFree = false := by
  simp [freeSlots, List.countP_eq_zero]

/-- A directory in which the search finds no free slot has none by count either. -/
theorem freeSlots_of_full {directory : Directory}
    (full : (medium.slots volume directory).freeSlot = .ok none) :
    medium.freeSlots volume directory = 0 := freeSlots_eq_zero.mpr (taken_of_freeSlot full)

/-- A directory in which the search finds a free slot has one by count at least. -/
theorem freeSlots_of_vacant {directory : Directory} {position : SlotPosition}
    (vacant : (medium.slots volume directory).freeSlot = .ok (some position)) :
    medium.freeSlots volume directory ≠ 0 := by
  obtain ⟨front, slot, rear, divided, free, _⟩ := divided_of_freeSlot vacant
  intro none
  have taken := freeSlots_eq_zero.mp none (position, slot) (by simp [divided])
  rw [free] at taken
  cases taken

/-! ## Whether a creation succeeds -/

namespace Claims

variable {parent : Directory} {position : SlotPosition} {writes : List Write}

/-- The claim of a slot takes one cluster from the free ones where the parent is full, and
none otherwise. -/
theorem card_freeClusters (claims : medium.Claims volume parent (.ok position) writes) :
    ((medium.apply writes).freeClusters volume).card +
        clustersTaken (medium.freeSlots volume parent) = (medium.freeClusters volume).card + 1 := by
  cases claims with
  | found free => rw [clustersTaken, if_neg (freeSlots_of_vacant free), apply_nil]
  | grown full free =>
    rw [clustersTaken, if_pos (freeSlots_of_full full), freeClusters_grown full free,
      ← Finset.card_erase_add_one (mem_freeClusters_of_firstFree free)]

end Claims

/-- A creation at a vacant name whose parent can be walked succeeds if and only if the
parent admits one more directory. -/
theorem Creates.ok_iff {path : List Char} {result : Except Failure Nat} {writes : List Write}
    {parent : Directory} {name : RawName} (creates : medium.Creates volume path result writes)
    (vacant : medium.vacancy volume path = .ok (parent, name))
    (whole : (medium.slots volume parent).ending = none) :
    (∃ cluster, result = .ok cluster) ↔ medium.Admits volume parent := by
  cases creates with
  | refused taken =>
    rw [vacant] at taken
    cases taken
  | unclaimed again claims =>
    rw [vacant] at again
    cases again
    refine iff_of_false (by simp) fun ⟨slot, clusters⟩ => ?_
    cases claims with
    | rootFull full => exact slot rfl (freeSlots_of_full full)
    | exhausted full none =>
      rw [freeSlots_of_full full, freeClusters_of_firstFree none] at clusters
      cases clusters
    | broken breaks =>
      rw [ending_of_freeSlot_error breaks] at whole
      cases whole
  | exhausted again claims none =>
    rw [vacant] at again
    cases again
    -- The claim itself has taken a cluster if the parent was full, and then a second one is
    -- missing.
    have counted := claims.card_freeClusters
    rw [freeClusters_of_firstFree none, Finset.card_empty] at counted
    refine iff_of_false (by simp) fun ⟨_, clusters⟩ => ?_
    omega
  | created again claims free =>
    rw [vacant] at again
    cases again
    have counted := claims.card_freeClusters
    have left := Finset.card_pos.mpr ⟨_, mem_freeClusters_of_firstFree free⟩
    refine iff_of_true ⟨_, rfl⟩ ⟨?_, by omega⟩
    rintro rfl
    cases claims with
    | found position => exact freeSlots_of_vacant position

/-! ## What a creation takes -/

/-- A directory has been made in a parent, as far as the free space is concerned. -/
structure Spends (medium changed : Medium) (volume : Volume) (parent : Directory) : Prop where
  clusters : (changed.freeClusters volume).card + clustersTaken (medium.freeSlots volume parent) =
    (medium.freeClusters volume).card
  slots : changed.freeSlots volume parent = volume.slotsLeft (medium.freeSlots volume parent)
  others : ∀ directory, medium.Reachable volume directory → directory ≠ parent →
    changed.freeSlots volume directory = medium.freeSlots volume directory

/-- A directory with the same slots on both media has as many free ones on the one as on
the other. -/
theorem freeSlots_congr {directory : Directory}
    (same : changed.slots volume directory = medium.slots volume directory) :
    changed.freeSlots volume directory = medium.freeSlots volume directory := by
  rw [freeSlots, same, freeSlots]

/-- A full directory that has grown has as many free slots as its new cluster has slots,
since all of these are end markers. -/
theorem Growing.freeSlots {first added : Nat} (growing : medium.Growing volume first added) :
    (medium.grownBy volume first added volume.tableCopies).freeSlots volume (.chain first) =
      volume.sectorsPerCluster * 16 := by
  have none := freeSlots_of_full growing.full
  have blank := (growing.blank le_rfl).slots
  rw [Medium.freeSlots] at none
  rw [Medium.freeSlots, growing.slots volume.usable.tableCopies_pos le_rfl]
  dsimp only
  rw [List.countP_append, none, Nat.zero_add,
    List.countP_eq_length.mpr fun slot member => by rw [blank slot member]; rfl,
    clusterSlots_length]

/-- Putting an entry into a directory takes one of its free slots, and no more. -/
theorem Insertion.freeSlots {parent : Directory} {position : SlotPosition} {name : RawName}
    {cluster : Nat} (insertion : medium.Insertion volume parent position name cluster) :
    (medium.inserted position name cluster).freeSlots volume parent + 1 =
      medium.freeSlots volume parent := by
  obtain ⟨front, slot, rear, divided, free, _, changed⟩ := insertion.slots_parent
  have taken : (Slot.live (Entry.directory name cluster)).isFree = false := rfl
  rw [Medium.freeSlots, changed, Medium.freeSlots, divided]
  simp only [List.countP_append, List.countP_cons, free, taken, if_true, Bool.false_eq_true,
    if_false]
  omega

namespace Claims

variable {parent : Directory} {position : SlotPosition} {writes : List Write}
  (claims : medium.Claims volume parent (.ok position) writes)
  (consistent : medium.Consistent volume) (reachable : medium.Reachable volume parent)
include claims consistent reachable

/-- When the slot has been claimed, the parent has one free slot more than it will have
left behind the creation. -/
theorem freeSlots_parent :
    (medium.apply writes).freeSlots volume parent =
      volume.slotsLeft (medium.freeSlots volume parent) + 1 := by
  cases claims with
  | found free =>
    have some := freeSlots_of_vacant free
    rw [apply_nil, Volume.slotsLeft, if_neg some]
    omega
  | @grown first added full free =>
    have growing : medium.Growing volume first added := ⟨consistent, reachable, full, free⟩
    have sized := volume.usable.sectorsPerCluster_pos
    rw [growthWrites, apply_append, ← grownBy, growing.freeSlots, freeSlots_of_full full,
      Volume.slotsLeft, if_pos rfl]
    omega

/-- While a slot of the parent is claimed, every other directory that is reached keeps the
slots that it had. -/
theorem slots_other {directory : Directory} (reached : medium.Reachable volume directory)
    (other : directory ≠ parent) :
    (medium.apply writes).slots volume directory = medium.slots volume directory := by
  cases claims with
  | found free => rfl
  | @grown first added full free =>
    have growing : medium.Growing volume first added := ⟨consistent, reachable, full, free⟩
    rw [growthWrites, apply_append, ← grownBy]
    exact growing.slots_other le_rfl reached other

end Claims

/-- The writes behind the claim of a slot take the lowest free cluster and that one slot
of the parent, and no slot of any other directory. -/
theorem insertionWrites_take {parent : Directory} {position : SlotPosition} {name : RawName}
    {cluster : Nat} (consistent : medium.Consistent volume)
    (reachable : medium.Reachable volume parent)
    (vacant : (medium.slots volume parent).freeSlot = .ok (some position))
    (canonical : ShortName.Canonical name) (free : medium.firstFree volume = some cluster)
    (same : changed = medium.apply (medium.insertionWrites volume parent name position cluster)) :
    changed.freeClusters volume = (medium.freeClusters volume).erase cluster ∧
      changed.freeSlots volume parent + 1 = medium.freeSlots volume parent ∧
      ∀ directory, medium.Reachable volume directory → directory ≠ parent →
        changed.slots volume directory = medium.slots volume directory := by
  obtain ⟨data, unlinked⟩ := firstFree_some free
  have unused : ¬ medium.Used volume cluster := fun used => used.link_ne_zero unlinked
  have spares := Spares.of_preparing data
    (List.prefix_refl (medium.preparationWrites volume cluster parent))
  have prepared := (spares.carries consistent unused).sameTree consistent
  have insertion := Insertion.of_preparation consistent reachable vacant canonical free
  have last : changed = (medium.apply (medium.preparationWrites volume cluster parent)).inserted
      position name cluster := by
    rw [same, insertionWrites, apply_append]
    rfl
  rw [last]
  refine ⟨freeClusters_erase ?_ fun number numbered other => ?_, ?_,
    fun directory reached other => ?_⟩
  · exact (insertion.used_iff.mpr (.inr rfl)).link_ne_zero
  · rw [insertion.link numbered, spares.link number numbered other]
  · rw [insertion.freeSlots, freeSlots_congr (spares.slots consistent unused reachable)]
  · rw [insertion.slots_other (prepared.reachable reached) other,
      spares.slots consistent unused reached]

/-- A creation that succeeds takes as many clusters as its parent asks for and one slot of
it, and takes no slot of another directory. -/
theorem Creates.spends {path : List Char} {cluster : Nat} {writes : List Write}
    {parent : Directory} {name : RawName}
    (creates : medium.Creates volume path (.ok cluster) writes)
    (vacant : medium.vacancy volume path = .ok (parent, name))
    (consistent : medium.Consistent volume) :
    medium.Spends (medium.apply writes) volume parent := by
  cases creates with
  | created again claims free =>
    rw [vacant] at again
    cases again
    obtain ⟨_, _, awaits⟩ := vacancy_ok vacant
    have reachable := awaits.reachable
    have settled := claims.settled consistent reachable
    have tree := settled.sameTree consistent
    rw [apply_append]
    obtain ⟨clusters, slots, others⟩ := insertionWrites_take (settled.consistent_after consistent)
      (tree.reachable reachable) (claims.vacant consistent reachable) awaits.spelled.last free rfl
    constructor
    · -- the cluster of the directory is claimed besides that of the slot
      have claimed := claims.card_freeClusters
      have own := Finset.card_erase_add_one (mem_freeClusters_of_firstFree free)
      rw [clusters]
      omega
    · rw [claims.freeSlots_parent consistent reachable] at slots
      exact Nat.succ.inj slots
    · intro directory reached other
      apply freeSlots_congr
      rw [others directory (tree.reachable reached) other,
        claims.slots_other consistent reachable reached other]

/-! ## Two directories -/

namespace Spends

variable {instead both : Medium} {parent other : Directory}
  (spends : medium.Spends changed volume parent)
include spends

/-- Where there was room for a directory and then for another one, there was room for the
second at first. -/
theorem admits_before (admits : medium.Admits volume parent)
    (later : changed.Admits volume other) (reachable : medium.Reachable volume other) :
    medium.Admits volume other := by
  obtain ⟨slot, clusters⟩ := later
  have fewer := spends.clusters
  by_cases same : other = parent
  · subst same
    exact admits
  · rw [spends.others other reachable same] at slot clusters
    exact ⟨slot, by omega⟩

/-- Where there was room for one directory and then for another, there is still room for
the first one when the second was made before it. -/
theorem admits_instead (admits : medium.Admits volume parent)
    (later : changed.Admits volume other) (reachable : medium.Reachable volume parent)
    (reached : medium.Reachable volume other) (early : medium.Spends instead volume other) :
    instead.Admits volume parent := by
  obtain ⟨slot, clusters⟩ := later
  have fewer := spends.clusters
  have left := early.clusters
  by_cases same : parent = other
  · subst same
    rw [spends.slots] at slot clusters
    constructor <;> rw [early.slots]
    · exact slot
    · omega
  · rw [spends.others other reached (Ne.symm same)] at clusters
    constructor <;> rw [early.others parent reachable same]
    · exact admits.slot
    · omega

/-- Whether one directory is made first or the other, the two together take the same
number of clusters. -/
theorem card_exchanged {further : Medium} (reachable : medium.Reachable volume parent)
    (reached : medium.Reachable volume other) (next : changed.Spends both volume other)
    (early : medium.Spends instead volume other) (late : instead.Spends further volume parent) :
    (both.freeClusters volume).card = (further.freeClusters volume).card := by
  have first := spends.clusters
  have second := next.clusters
  have fewer := early.clusters
  have fewest := late.clusters
  by_cases same : parent = other
  · subst same
    rw [spends.slots] at second
    rw [early.slots] at fewest
    omega
  · rw [spends.others other reached (Ne.symm same)] at second
    rw [early.others parent reachable same] at fewest
    omega

end Spends

end Medium

end FatVolume
