import FatVolume.Proofs.Agreement
import FatVolume.Proofs.Preparation

/-!
# Slots that are altered

The table stands in front of the root region and of the clusters. A write into these therefore
leaves all links alone, and every directory, whether its chain is intact or not, has its slots in
the same places and in the same order as before. Where one entry is written, what a directory
has is what it had, with another content in each slot at that position.

An intact directory comes to each position once, so that one of its slots is replaced there, or
none.
-/

namespace FatVolume

/-! ## Replaced slots -/

/-- A slot, or what takes its place at a position. -/
def Slot.replaceAt (position : SlotPosition) (slot : Slot) (item : SlotPosition × Slot) :
    SlotPosition × Slot :=
  if item.1 = position then (position, slot) else item

namespace Course

variable {position : SlotPosition}

/-- The course with something else in the slot at a position. -/
def replaceSlot (course : Course (SlotPosition × Slot)) (position : SlotPosition) (slot : Slot) :
    Course (SlotPosition × Slot) :=
  course.map (Slot.replaceAt position slot)

/-- Replacing what stands at a position leaves a list of slots as it is, when no slot of
the list stands there. -/
theorem map_replaceAt_absent {items : List (SlotPosition × Slot)}
    (absent : ∀ item ∈ items, item.1 ≠ position) (slot : Slot) :
    items.map (Slot.replaceAt position slot) = items := by
  have kept : ∀ item ∈ items, Slot.replaceAt position slot item = item :=
    fun item member => if_neg (absent item member)
  rw [List.map_congr_left kept, List.map_id']

/-- A course that does not come to the position stays as it is, with its ending, when the
slot there is replaced. -/
theorem replaceSlot_absent {course : Course (SlotPosition × Slot)}
    (absent : ∀ item ∈ course.items, item.1 ≠ position) (slot : Slot) :
    course.replaceSlot position slot = course :=
  congrArg (Course.mk · course.ending) (map_replaceAt_absent absent slot)

/-- Among slots in different places, exactly the one at the position is replaced, and
those in front of it and behind it stay, as does the ending. -/
theorem replaceSlot_divided {front rear : List (SlotPosition × Slot)} {old : Slot}
    {ending : Option Failure}
    (distinct : ((front ++ (position, old) :: rear).map Prod.fst).Nodup) (slot : Slot) :
    (Course.mk (front ++ (position, old) :: rear) ending).replaceSlot position slot =
      ⟨front ++ (position, slot) :: rear, ending⟩ := by
  rw [List.map_append, List.map_cons, List.nodup_append, List.nodup_cons] at distinct
  obtain ⟨_, ⟨notBehind, _⟩, apart⟩ := distinct
  have before : front.map (Slot.replaceAt position slot) = front :=
    map_replaceAt_absent (fun item member =>
      apart _ (List.mem_map_of_mem member) _ List.mem_cons_self) slot
  have behind : rear.map (Slot.replaceAt position slot) = rear :=
    map_replaceAt_absent (fun item member same =>
      notBehind (List.mem_map.mpr ⟨item, member, same⟩)) slot
  have here : Slot.replaceAt position slot (position, old) = (position, slot) := if_pos rfl
  rw [replaceSlot, map, List.map_append, List.map_cons, before, behind, here]

end Course

/-! ## Altered media -/

namespace Medium

/-- The second medium has the links of the first one, and what becomes of its slots is told by
their positions and their contents. -/
structure Alters (medium changed : Medium) (volume : Volume)
    (change : SlotPosition × Slot → SlotPosition × Slot) : Prop where
  slotAt : ∀ position, changed.slotAt position = change (medium.slotAt position)
  link : ∀ cluster, volume.DataCluster cluster →
    changed.link volume cluster = medium.link volume cluster

namespace Alters

variable {medium changed : Medium} {volume : Volume}
  {change : SlotPosition × Slot → SlotPosition × Slot}
  (alters : medium.Alters changed volume change)
include alters

/-- The slots of a sector are altered one by one, each by what its position and its
contents make of it. -/
theorem sectorSlots (lba : Nat) :
    changed.sectorSlots lba = (medium.sectorSlots lba).map change := by
  rw [Medium.sectorSlots, Medium.sectorSlots, List.map_map]
  exact List.map_congr_left fun index _ => alters.slotAt ⟨lba, index⟩

/-- The slots of the root region are altered one by one, each by what its position and its
contents make of it. -/
theorem rootSlots : changed.rootSlots volume = (medium.rootSlots volume).map change := by
  rw [Medium.rootSlots, Medium.rootSlots, List.map_map]
  exact List.map_congr_left fun _ _ => alters.slotAt _

/-- The slots of a cluster from one of its sectors on are altered one by one, each by what
its position and its contents make of it. -/
theorem slotsFrom (cluster sector : Nat) :
    changed.slotsFrom volume cluster sector = (medium.slotsFrom volume cluster sector).map change := by
  rw [Medium.slotsFrom, Medium.slotsFrom, List.map_flatMap]
  exact List.flatMap_congr fun number _ => alters.sectorSlots _

/-- The slots of a course of clusters are altered one by one, and the course ends as it
did. -/
theorem clusterSlots (course : Course Nat) :
    course.flatMap (changed.clusterSlots volume) =
      (course.flatMap (medium.clusterSlots volume)).map change := by
  simp only [Course.flatMap, Course.map, List.map_flatMap]
  rw [List.flatMap_congr]
  exact fun cluster _ => alters.slotsFrom cluster 0

/-- The clusters that follow another one are the same in both media, as they are told by
links alone and these are the same. -/
theorem beyond {cluster : Nat} (data : volume.DataCluster cluster) (links : Nat) :
    changed.beyond volume links cluster = medium.beyond volume links cluster := by
  have same (number : Nat) (held : volume.DataCluster number) :
      changed.follow volume number = medium.follow volume number := by
    simp only [Medium.follow]
    rw [alters.link number held]
  exact (beyond_congr same (fun _ _ _ followed => follow_data followed) links data).1

/-- The slots of every directory are altered one by one, whether it is the root or has a
chain, and reading them ends as it did. -/
theorem slots (directory : Directory) :
    changed.slots volume directory = (medium.slots volume directory).map change := by
  cases directory with
  | root => exact congrArg (Course.mk · none) alters.rootSlots
  | chain first =>
    simp only [Medium.slots]
    cases checked : volume.checkCluster first with
    | error failure => rfl
    | ok _ =>
      have data : volume.DataCluster first := (Layout.checkCluster_ok_iff first).mp checked
      dsimp only
      rw [alters.beyond data, alters.clusterSlots]

end Alters

/-! ## Written entries -/

variable {medium : Medium} {volume : Volume}

/-- When an entry has been written into a slot, that slot holds what the new record is
decoded as. -/
theorem slotAt_entryWrite (medium : Medium) (position : SlotPosition) (entry : Entry) :
    (medium.write (medium.entryWrite position entry)).slotAt position =
      (position, Slot.decode entry.encode) := by
  rw [slotAt, entryWrite, write_self, Sector.record_setRecord_self]

/-- When an entry has been written into a slot, every other slot holds what it held,
whether it lies in the same sector or elsewhere. -/
theorem slotAt_entryWrite_other {position other : SlotPosition} (apart : other ≠ position)
    (medium : Medium) (entry : Entry) :
    (medium.write (medium.entryWrite position entry)).slotAt other = medium.slotAt other := by
  by_cases same : other.lba = position.lba
  · have index : other.index ≠ position.index := by
      intro equal
      obtain ⟨lba, index⟩ := other
      cases same
      cases equal
      exact apart rfl
    rw [slotAt, slotAt, entryWrite, same, write_self, Sector.record_setRecord_other _ _ _ _ index]
  · rw [slotAt, medium.write_other same, slotAt]

/-- An entry that is written into a slot behind the table changes no link, since all table
entries stand in front of the root region. -/
theorem link_entryWrite {position : SlotPosition} (behind : volume.rootStart ≤ position.lba)
    (medium : Medium) (entry : Entry) {cluster : Nat} (data : volume.DataCluster cluster) :
    (medium.write (medium.entryWrite position entry)).link volume cluster =
      medium.link volume cluster :=
  SameTable.link (fun _ below => medium.write_other (Nat.ne_of_lt (Nat.lt_of_lt_of_le below behind)))
    data

/-- An entry that is written into a slot behind the table replaces what that slot held,
and leaves all links and all other slots as they were. -/
theorem alters_entryWrite {position : SlotPosition} (behind : volume.rootStart ≤ position.lba)
    (medium : Medium) (entry : Entry) :
    medium.Alters (medium.write (medium.entryWrite position entry)) volume
      (Slot.replaceAt position (Slot.decode entry.encode)) where
  slotAt other := by
    by_cases same : other = position
    · rw [same, slotAt_entryWrite]
      exact (if_pos rfl).symm
    · rw [slotAt_entryWrite_other same]
      exact (if_neg same).symm
  link _ data := link_entryWrite behind medium entry data

end Medium

end FatVolume
