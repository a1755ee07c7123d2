import FatVolume.Proofs.Gains

/-!
# Cursors that stand in a directory

A cursor in a directory with an intact chain stands behind a number of its slots. It goes on
standing there while the directory gains entries, since chains grow at their ends only. A
request for a slot takes it to the next one, and to no other; where the directory has no more
slots by then, the cursor is done.

The slot that is yielded is one of the medium, or one of the former medium from which the
cursor keeps a sector.
-/

namespace FatVolume

namespace Medium

variable {medium : Medium} {volume : Volume}

/-! ## Slots by their number -/

/-- In blocks of one width that are put together, an item is found by the number of its
block and its number within the block. -/
theorem getElem?_flatMap_blocks {α β : Type} {outer : List α} {content : α → List β}
    {width number rest : Nat} {value : α} (width_eq : ∀ value, (content value).length = width)
    (stands : outer[number]? = some value) (inside : rest < width) :
    (outer.flatMap content)[number * width + rest]? = (content value)[rest]? := by
  -- Past one block, the number of the item is less by one width.
  induction outer generalizing number with
  | nil => cases stands
  | cons first others inductionHypothesis =>
    rw [List.flatMap_cons]
    cases number with
    | zero =>
      cases stands
      rw [Nat.zero_mul, Nat.zero_add, List.getElem?_append_left (by rw [width_eq]; exact inside)]
    | succ number =>
      have behind :
          (number + 1) * width + rest = (content first).length + (number * width + rest) := by
        rw [width_eq, Nat.succ_mul]
        omega
      rw [behind, List.getElem?_append_right (Nat.le_add_right _ _), Nat.add_sub_cancel_left]
      exact inductionHypothesis stands

/-- A slot of the root is found by its number, which tells its sector in the region and
its place in the sector. -/
theorem getElem?_rootSlots {taken : Nat} (inside : taken < volume.rootEntries) :
    (medium.rootSlots volume)[taken]? =
      some (medium.slotAt ⟨volume.rootStart + taken / 16, taken % 16, slotIndex_lt taken⟩) := by
  rw [rootSlots, List.getElem?_map, List.getElem?_range inside]
  rfl

/-- A slot of a cluster is found by the sectors in front of it and by its place in its own
sector. -/
theorem getElem?_clusterSlots {cluster sector taken : Nat}
    (inside : sector < volume.sectorsPerCluster) (within : taken < 16) :
    (medium.clusterSlots volume cluster)[sector * 16 + taken]? =
      some (medium.slotAt ⟨volume.clusterStart cluster + sector, taken, within⟩) := by
  have sectors : (List.range' 0 (volume.sectorsPerCluster - 0))[sector]? = some sector := by
    rw [List.getElem?_range' (by omega)]
    simp
  have slots : ∀ number, (medium.sectorSlots (volume.clusterStart cluster + number)).length = 16 :=
    fun number => by rw [sectorSlots, List.length_map, List.length_finRange]
  rw [clusterSlots, slotsFrom, getElem?_flatMap_blocks slots sectors within, sectorSlots,
    List.getElem?_map, List.getElem?_eq_getElem (by rw [List.length_finRange]; exact within),
    List.getElem_finRange]
  rfl

/-- A slot of a chain is found by the links, the sectors and the slots that stand in front
of it. -/
theorem ChainFrom.getElem?_slots {first cluster sector taken hops : Nat} {clusters : List Nat}
    (chain : medium.ChainFrom volume first clusters) (distinct : clusters.Nodup)
    (stands : clusters[hops]? = some cluster) (inside : sector < volume.sectorsPerCluster)
    (within : taken < 16) :
    (medium.slots volume (.chain first)).items[(hops * volume.sectorsPerCluster + sector) * 16 +
        taken]? =
      some (medium.slotAt ⟨volume.clusterStart cluster + sector, taken, within⟩) := by
  have bounded : sector * 16 + taken < volume.sectorsPerCluster * 16 := by omega
  have split : (hops * volume.sectorsPerCluster + sector) * 16 + taken =
      hops * (volume.sectorsPerCluster * 16) + (sector * 16 + taken) := by
    rw [Nat.add_mul, Nat.mul_assoc, Nat.add_assoc]
  rw [chain.slots distinct, split]
  dsimp only
  rw [getElem?_flatMap_blocks clusterSlots_length stands bounded]
  exact getElem?_clusterSlots inside within

/-- The chain of a directory that is reached on a consistent medium meets no cluster
twice. -/
theorem Consistent.chain_distinct (consistent : medium.Consistent volume) {first : Nat}
    {clusters : List Nat} (reachable : medium.Reachable volume (.chain first))
    (chain : medium.ChainFrom volume first clusters) : clusters.Nodup := by
  obtain ⟨_, others, _, _, _, same, distinct⟩ := consistent.chain_of_reachable reachable
  obtain rfl := same.unique chain
  exact distinct

/-- The link of a cluster in a chain leads to the one that stands behind it, and that of
the last one leads to none. -/
theorem ChainFrom.follow_getElem? {first cluster hops : Nat} {clusters : List Nat}
    (chain : medium.ChainFrom volume first clusters) (stands : clusters[hops]? = some cluster) :
    medium.follow volume cluster = .ok clusters[hops + 1]? := by
  induction chain generalizing hops with
  | last data ends =>
    cases hops with
    | zero =>
      cases stands
      exact follow_of_ends ends
    | succ hops => cases stands
  | @next cluster successor rest data linked chain inductionHypothesis =>
    cases hops with
    | zero =>
      cases stands
      rw [follow_of_linked chain.first_data linked]
      cases chain <;> rfl
    | succ hops => exact inductionHypothesis stands

end Medium

namespace Cursor

variable {medium former : Medium} {volume : Volume} {directory : Directory} {cursor : Cursor}

/-! ## Places -/

/-- A place in a directory is one behind so many of its slots. -/
inductive Behind (medium : Medium) (volume : Volume) : Directory → Place → Nat → Prop
  | root (taken : Nat) : Behind medium volume .root (.root taken) taken
  | chain {first cluster sector taken hops : Nat} {clusters : List Nat}
      (chain : medium.ChainFrom volume first clusters) (stands : clusters[hops]? = some cluster)
      (inside : sector < volume.sectorsPerCluster) (within : taken ≤ 16) :
      Behind medium volume (.chain first) (.chain cluster sector taken hops)
        ((hops * volume.sectorsPerCluster + sector) * 16 + taken)

/-- A cursor that is not done stands behind so many slots of a directory, and what it keeps
is a sector of the medium. -/
structure Stands (medium : Medium) (volume : Volume) (directory : Directory) (passed : Nat)
    (cursor : Cursor) : Prop where
  unfinished : cursor.done = false
  fresh : ∀ lba sector, cursor.held = some (lba, sector) → sector = medium lba
  place : Behind medium volume directory cursor.place passed

/-- A place that is behind so many slots of a directory is still behind as many when the
directory gains entries. -/
theorem Behind.onward {place : Place} {passed : Nat}
    (behind : Behind former volume directory place passed)
    (onward : former.Onward medium volume directory) :
    Behind medium volume directory place passed := by
  cases behind with
  | root => exact .root passed
  | @chain first cluster sector taken hops clusters chain stands inside within =>
    obtain ⟨growth, grown⟩ := onward.chain first clusters rfl chain
    have bounded := (List.getElem?_eq_some_iff.mp stands).1
    exact .chain grown ((List.getElem?_append_left bounded).trans stands) inside within

/-- Where a sector is not used up, its next slot is the next one of the directory behind
those that have been passed. -/
theorem Behind.slot {cluster sector taken hops passed : Nat}
    (behind : Behind medium volume directory (.chain cluster sector taken hops) passed)
    (consistent : medium.Consistent volume) (reachable : medium.Reachable volume directory)
    (more : taken < 16) :
    (medium.slots volume directory).items[passed]? =
        some (medium.slotAt ⟨volume.clusterStart cluster + sector, taken, more⟩) ∧
      Behind medium volume directory (.chain cluster sector (taken + 1) hops) (passed + 1) := by
  cases behind with
  | chain chain stands inside within =>
    have distinct := consistent.chain_distinct reachable chain
    exact ⟨chain.getElem?_slots distinct stands inside more, .chain chain stands inside more⟩

/-- A cursor that has just been started over a directory stands in front of its first
slot. -/
theorem start_stands (consistent : medium.Consistent volume)
    (reachable : medium.Reachable volume directory)
    (started : start volume directory = .ok cursor) :
    cursor.Stands medium volume directory 0 := by
  cases directory with
  | root =>
    cases started
    exact ⟨rfl, by simp, .root 0⟩
  | chain first =>
    obtain ⟨_, clusters, _, _, _, chain, _⟩ := consistent.chain_of_reachable reachable
    simp only [start] at started
    obtain ⟨_, _, same⟩ := ok_of_bind started
    cases same
    have behind : Behind medium volume (.chain first) (.chain first 0 0 0)
        ((0 * volume.sectorsPerCluster + 0) * 16 + 0) :=
      .chain chain (by cases chain <;> rfl) volume.usable.sectorsPerCluster_pos (by decide)
    rw [Nat.zero_mul] at behind
    exact ⟨rfl, by simp, behind⟩

/-! ## Requests -/

/-- How a request for a slot ends that is made behind so many slots: there is no further one,
or it is yielded, as the medium has it or as the former one had it. -/
inductive Advances (former medium : Medium) (volume : Volume) (directory : Directory)
    (passed : Nat) : Option (SlotPosition × Slot) → Cursor → Prop
  | ended {moved : Cursor} (done : moved.done = true)
      (all : (medium.slots volume directory).items.length ≤ passed) :
      Advances former medium volume directory passed none moved
  | yielded {seen : Medium} {item : SlotPosition × Slot} {moved : Cursor}
      (among : seen = former ∨ seen = medium)
      (stood : (seen.slots volume directory).items[passed]? = some item)
      (stands : moved.Stands seen volume directory (passed + 1)) :
      Advances former medium volume directory passed (some item) moved

/-- A cursor that takes the slot at a position advances by one, if this slot stands there
on the former medium and on the present one. -/
theorem take_advances (cursor : Cursor) {passed : Nat} {position : SlotPosition} {behind : Place}
    (unfinished : cursor.done = false)
    (fresh : ∀ lba sector, cursor.held = some (lba, sector) → sector = former lba)
    (stood : ∀ seen : Medium, seen = former ∨ seen = medium →
      (seen.slots volume directory).items[passed]? = some (seen.slotAt position) ∧
        Behind seen volume directory behind (passed + 1)) :
    ∃ answer moved, Reads (cursor.alongside (take position behind)) medium (.ok (answer, moved)) ∧
      Advances former medium volume directory passed answer moved := by
  obtain ⟨seen, among, same⟩ := Medium.sight_cases fresh medium position.lba
  obtain ⟨stands, place⟩ := stood seen among
  have reads : Reads (cursor.alongside (take position behind)) medium _ :=
    take_sights cursor position behind
  rw [same] at reads
  refine ⟨_, _, reads, .yielded among stands ⟨unfinished, ?_, place⟩⟩
  rintro lba sector ⟨⟩
  rfl

/-- A cursor that takes the first slot of a sector reads that sector anew and advances by
one slot. -/
theorem takeFirst_advances (former : Medium) (cursor : Cursor) {cluster sector hops passed : Nat}
    (unfinished : cursor.done = false) (empty : cursor.held = none)
    (behind : Behind medium volume directory (.chain cluster sector 0 hops) passed)
    (consistent : medium.Consistent volume) (reachable : medium.Reachable volume directory) :
    ∃ answer moved, Reads (cursor.alongside (takeFirst volume cluster sector hops)) medium
        (.ok (answer, moved)) ∧
      Advances former medium volume directory passed answer moved := by
  have reads : Reads (cursor.alongside (take ⟨volume.clusterStart cluster + sector, 0⟩
      (.chain cluster sector 1 hops))) medium _ := take_reads _ _ (by simp [empty])
  obtain ⟨stands, place⟩ := behind.slot consistent reachable (by decide)
  refine ⟨_, _, .walk_lift (Volume.clusterAddress_reads cluster sector) reads,
    .yielded (.inr rfl) stands ⟨unfinished, ?_, place⟩⟩
  rintro lba kept ⟨⟩
  rfl

/-- Behind a sector that is used up, a cursor reads the next sector and advances by one
slot, or comes to its end where there is none. -/
theorem enterSector_advances (former : Medium) (cursor : Cursor)
    {cluster sector hops passed : Nat} (unfinished : cursor.done = false)
    (behind : Behind medium volume directory (.chain cluster sector 16 hops) passed)
    (consistent : medium.Consistent volume) (reachable : medium.Reachable volume directory) :
    ∃ answer moved, Reads (cursor.alongside (enterSector volume cluster sector hops)) medium
        (.ok (answer, moved)) ∧
      Advances former medium volume directory passed answer moved := by
  cases behind with
  | @chain first _ _ _ _ clusters chain stands inside _ =>
  have distinct := consistent.chain_distinct reachable chain
  by_cases within : sector + 1 < volume.sectorsPerCluster
  · have place := Behind.chain chain stands within (Nat.zero_le 16)
    rw [← Nat.add_assoc, Nat.succ_mul] at place
    obtain ⟨answer, moved, reads, advances⟩ := takeFirst_advances former
      { cursor with place := .chain cluster (sector + 1) 0 hops, held := none }
      unfinished rfl place consistent reachable
    refine ⟨answer, moved, .walk_lift (Volume.nextSector_reads sector) (leaveFor_reads _ ?_),
      advances⟩
    rw [if_pos within]
    exact reads
  -- This was the last sector of its cluster, so the slot behind it is the first one of the next
  -- cluster.
  have whole : sector + 1 = volume.sectorsPerCluster := by omega
  have number : (hops * volume.sectorsPerCluster + sector) * 16 + 16 =
      ((hops + 1) * volume.sectorsPerCluster + 0) * 16 + 0 := by
    rw [← Nat.succ_mul, Nat.add_zero, Nat.succ_mul hops, ← whole]
    rfl
  have asked : Reads (volume.follow cluster) medium _ := Volume.follow_reads cluster
  rw [chain.follow_getElem? stands] at asked
  cases next : clusters[hops + 1]? with
  | none =>
    rw [next] at asked
    refine ⟨none, ⟨.chain cluster sector 0 hops, none, true⟩,
      .walk_lift (Volume.nextSector_reads sector) (leaveFor_reads _ ?_), .ended rfl ?_⟩
    · rw [if_neg within]
      refine .walk_lift asked (.walk_lift (Volume.previousSector_reads sector) ?_)
      exact .walk (Performs.pure _) (.pure _)
    -- No cluster follows on the present medium either, so all slots of the directory have been
    -- passed.
    · have counted := List.getElem?_eq_none_iff.mp next
      rw [chain.slots distinct, number, Nat.add_zero, Nat.add_zero]
      dsimp only
      rw [Medium.flatMap_clusterSlots_length]
      exact Nat.mul_le_mul_right _ (Nat.mul_le_mul_right _ counted)
  | some successor =>
    rw [next] at asked
    have fewer : hops + 1 < volume.clusterCount :=
      Nat.lt_of_lt_of_le (List.getElem?_eq_some_iff.mp next).1 (chain.length_le distinct)
    have place := Behind.chain chain next volume.usable.sectorsPerCluster_pos (Nat.zero_le 16)
    rw [← number] at place
    obtain ⟨answer, moved, reads, advances⟩ := takeFirst_advances former
      { cursor with place := .chain successor 0 0 (hops + 1), held := none }
      unfinished rfl place consistent reachable
    refine ⟨answer, moved, .walk_lift (Volume.nextSector_reads sector) (leaveFor_reads _ ?_),
      advances⟩
    rw [if_neg within]
    refine .walk_lift asked (.walk_lift (Volume.nextHop_reads hops) ?_)
    rw [if_pos fewer]
    exact leaveFor_reads _ reads

/-- A cursor that stands behind some slots advances by one, or comes to its end where the
directory has no more, though entries came in meanwhile. -/
theorem nextSlot_advances {passed : Nat} (consistent : former.Consistent volume)
    (reachable : former.Reachable volume directory)
    (onward : former.Onward medium volume directory)
    (stands : cursor.Stands former volume directory passed) :
    ∃ answer moved, Reads (cursor.alongside (nextSlot volume)) medium (.ok (answer, moved)) ∧
      Advances former medium volume directory passed answer moved := by
  obtain ⟨place, held, done⟩ := cursor
  obtain ⟨unfinished, fresh, behind⟩ := stands
  obtain rfl : done = false := unfinished
  have later := behind.onward onward
  cases place with
  | root taken =>
    obtain ⟨rfl, rfl⟩ : directory = .root ∧ taken = passed := by
      cases behind
      exact ⟨rfl, rfl⟩
    by_cases inside : taken < volume.rootEntries
    · have stood (seen : Medium) : (seen.slots volume .root).items[taken]? = some (seen.slotAt
            ⟨volume.rootStart + taken / 16, taken % 16, Medium.slotIndex_lt taken⟩) ∧
          Behind seen volume .root (.root (taken + 1)) (taken + 1) :=
        ⟨Medium.getElem?_rootSlots inside, .root _⟩
      obtain ⟨answer, moved, reads, advances⟩ :=
        take_advances ⟨.root taken, held, false⟩ rfl fresh fun seen _ => stood seen
      refine ⟨answer, moved, .walk_get fun host => ?_, advances⟩
      dsimp only
      rw [if_neg Bool.false_ne_true, if_pos inside]
      exact .walk_lift (Volume.rootAddress_reads taken) reads
    · refine ⟨none, ⟨.root taken, held, true⟩, .walk_get fun host => ?_, .ended rfl ?_⟩
      · dsimp only
        rw [if_neg Bool.false_ne_true, if_neg inside]
        exact .walk (Performs.pure _) (.pure _)
      · rw [Medium.slots_root]
        dsimp only
        rw [Medium.rootSlots_length]
        omega
  | chain cluster sector taken hops =>
    by_cases more : taken < 16
    · obtain ⟨answer, moved, reads, advances⟩ :=
        take_advances ⟨.chain cluster sector taken hops, held, false⟩ rfl fresh fun seen among => by
          -- A sector that is held is one of the former medium, and any other is read from the
          -- present one. The slot has the same number on both.
          rcases among with rfl | rfl
          · exact behind.slot consistent reachable more
          · exact later.slot onward.consistent onward.reachable more
      refine ⟨answer, moved, .walk_get fun host => ?_, advances⟩
      dsimp only
      rw [if_neg Bool.false_ne_true, dif_pos more]
      exact .walk_lift (Volume.clusterAddress_reads cluster sector) reads
    · obtain rfl : taken = 16 := by
        cases behind
        omega
      obtain ⟨answer, moved, reads, advances⟩ :=
        enterSector_advances former ⟨.chain cluster sector 16 hops, held, false⟩ rfl later
          onward.consistent onward.reachable
      refine ⟨answer, moved, .walk_get fun host => ?_, advances⟩
      dsimp only
      rw [if_neg Bool.false_ne_true, dif_neg more]
      exact reads

end Cursor

end FatVolume
