import FatVolume.Proofs.Lookups

/-!
# Searching for a free slot

A search for a free slot goes along the slots of a directory as a listing does, but it goes on
behind the end marker, and it stops at the first slot whose name byte is that of an end marker or
of an erased entry. Since an end marker is free itself, the slot that is found lies at the first
one or in front of it. So an entry that is written there stands among those that a listing comes
to; no other slot of the directory changes with it, and no link.

The root region tells that it is full, and an intact chain the cluster behind which it has to
grow, exactly where no slot is free. Nothing is assumed of what the slots hold.
-/

namespace FatVolume

/-- The first byte of its name alone tells whether a slot is free: it marks the end of the
directory, or an entry that was erased. -/
theorem Slot.isFree_decode_iff (record : Record) :
    (decode record).isFree = true ↔ record[0]? = some endByte ∨ record[0]? = some erasedByte := by
  rw [decode, Vector.getElem?_eq_getElem (by decide), Option.some_inj, Option.some_inj]
  split_ifs with marked erased <;> simp [isFree, marked, erased]

namespace Medium

/-- The name byte at a position is that of an end marker or of an erased entry. -/
def Reusable (medium : Medium) (position : SlotPosition) : Prop :=
  ((medium position.lba).record position.index)[0]? = some Slot.endByte ∨
    ((medium position.lba).record position.index)[0]? = some Slot.erasedByte

instance (medium : Medium) (position : SlotPosition) : Decidable (medium.Reusable position) :=
  inferInstanceAs (Decidable (_ ∨ _))

/-- The position is that of the first of some slots that can be reused. -/
def Foremost (medium : Medium) (slots : List (SlotPosition × Slot)) (position : SlotPosition) :
    Prop :=
  ∃ front slot rear, slots = front ++ (position, slot) :: rear ∧ medium.Reusable position ∧
    ∀ earlier ∈ front, ¬ medium.Reusable earlier.1

/-- The directory has these slots, in the order in which they are stored, and its storage is
intact. -/
inductive Intact (medium : Medium) (volume : Volume) :
    Directory → List (SlotPosition × Slot) → Prop
  | root : Intact medium volume .root (medium.rootSlots volume)
  | chain {first : Nat} {clusters : List Nat} (chain : medium.ChainFrom volume first clusters) :
      Intact medium volume (.chain first) (clusters.flatMap (medium.clusterSlots volume))

/-- Undisturbed requests for entries that begin at the start of a directory are told of an entry
behind so many others, if they are enough. -/
def WalkMeets (medium : Medium) (volume : Volume) (directory : Directory) (others : Nat)
    (entry : Entry) : Prop :=
  ∃ cursor, Cursor.start volume directory = .ok cursor ∧
    ∀ (host : Host) (count : Nat), host.medium = medium → host.disk.sectorSize = 512 →
      host.Undisturbed
          (afterwards (Cursor.requests (Cursor.next volume) count) ⟨cursor, host⟩).host →
        ∃ answers,
          outcome (Cursor.requests (Cursor.next volume) count) ⟨cursor, host⟩ = .ok answers ∧
            (others < count → answers[others]? = some (.ok (some entry)))

variable {medium : Medium} {volume : Volume} {directory : Directory}
  {slots : List (SlotPosition × Slot)} {position : SlotPosition}

/-! ## The first free slot of a course -/

/-- A slot that is decoded from a medium is free if and only if the position can be reused
there. -/
theorem isFree_slotAt_iff {item : SlotPosition × Slot} (stands : item = medium.slotAt item.1) :
    item.2.isFree = true ↔ medium.Reusable item.1 := by
  obtain ⟨position, slot⟩ := item
  simp only [slotAt, Prod.mk.injEq, true_and] at stands
  rw [stands, Slot.isFree_decode_iff, Reusable]

/-- Searching slots that come to an end finds a position if and only if it is that of the
first slot which can be reused. -/
theorem freeSlot_eq_some_iff (stand : ∀ item ∈ slots, item = medium.slotAt item.1) :
    (Course.mk slots none).freeSlot = .ok (some position) ↔ medium.Foremost slots position := by
  constructor
  · intro found
    obtain ⟨front, slot, rear, divided, free, taken⟩ := divided_of_freeSlot found
    change slots = _ at divided
    have here : (position, slot) ∈ slots := by simp [divided]
    refine ⟨front, slot, rear, divided, (isFree_slotAt_iff (stand _ here)).mp free,
      fun earlier member reusable => ?_⟩
    have before : earlier ∈ slots := by simp [divided, member]
    have free := (isFree_slotAt_iff (stand _ before)).mpr reusable
    rw [taken earlier member] at free
    cases free
  · rintro ⟨front, slot, rear, divided, reusable, taken⟩
    have here : (position, slot) ∈ slots := by simp [divided]
    have first : slots.find? (fun item => item.2.isFree) = some (position, slot) := by
      refine List.find?_eq_some_iff_append.mpr
        ⟨(isFree_slotAt_iff (stand _ here)).mpr reusable, front, rear, divided, fun earlier member => ?_⟩
      have before : earlier ∈ slots := by simp [divided, member]
      rw [Bool.not_eq_true', Bool.eq_false_iff]
      exact mt (isFree_slotAt_iff (stand _ before)).mp (taken earlier member)
    rw [Course.freeSlot]
    dsimp only
    rw [first]

/-- Searching slots that come to an end finds nothing if and only if none of them can be
reused. -/
theorem freeSlot_eq_none_iff (stand : ∀ item ∈ slots, item = medium.slotAt item.1) :
    (Course.mk slots none).freeSlot = .ok none ↔ ∀ item ∈ slots, ¬ medium.Reusable item.1 := by
  have none_iff : (Course.mk slots none).freeSlot = .ok none ↔
      slots.find? (fun item => item.2.isFree) = none := by
    rw [Course.freeSlot]
    dsimp only
    cases slots.find? (fun item => item.2.isFree) <;> simp
  rw [none_iff, List.find?_eq_none]
  exact forall₂_congr fun item member => not_congr (isFree_slotAt_iff (stand item member))

/-- Searching slots that come to an end either finds the position of a free one, or finds
all of them taken. -/
theorem freeSlot_cases (slots : List (SlotPosition × Slot)) :
    (∃ position, (Course.mk slots none).freeSlot = .ok (some position)) ∨
      (Course.mk slots none).freeSlot = .ok none := by
  rw [Course.freeSlot]
  dsimp only
  cases slots.find? (fun item => item.2.isFree) with
  | none => exact .inr rfl
  | some item => exact .inl ⟨item.1, rfl⟩

/-- No end marker stands in front of the first slot that can be reused, as a slot with an
end marker could be reused itself. -/
theorem Foremost.unended {front rear : List (SlotPosition × Slot)} {slot : Slot}
    (stand : ∀ item ∈ slots, item = medium.slotAt item.1)
    (divided : slots = front ++ (position, slot) :: rear)
    (taken : ∀ earlier ∈ front, ¬ medium.Reusable earlier.1) :
    ∀ earlier ∈ front, earlier.2 ≠ .endMarker := by
  intro earlier member ends
  have stands : earlier = medium.slotAt earlier.1 := stand earlier (by simp [divided, member])
  exact taken earlier member ((isFree_slotAt_iff stands).mp (by rw [ends]; rfl))

/-! ## Slots of an intact directory -/

namespace Intact

variable (intact : medium.Intact volume directory slots)
include intact

/-- A directory whose storage is intact has these slots, and reading them ends without a
failure. -/
theorem slots_eq : medium.slots volume directory = ⟨slots, none⟩ := by
  cases intact with
  | root => rfl
  | chain chain => exact chain.slots chain.distinct

/-- Each slot of an intact directory is decoded from the sector at its position, which
lies behind the table copies. -/
theorem stands {item : SlotPosition × Slot} (member : item ∈ slots) :
    item = medium.slotAt item.1 ∧ volume.rootStart ≤ item.1.lba := by
  cases intact with
  | root =>
    obtain ⟨stands, inside⟩ := mem_rootSlots member
    exact ⟨stands, inside.bounds.1⟩
  | chain chain =>
    obtain ⟨cluster, _, within⟩ := List.mem_flatMap.mp member
    obtain ⟨stands, inside⟩ := mem_clusterSlots within
    exact ⟨stands, Nat.le_trans volume.rootStart_le_dataStart inside.dataStart_le⟩

/-- The slots of an intact directory all stand at different positions. -/
theorem distinct : (slots.map Prod.fst).Nodup := by
  cases intact with
  | root => exact rootSlots_distinct
  | chain chain => exact clusterSlots_distinct chain.data chain.distinct

/-- A cursor can be started at a directory whose storage is intact, be it the root or a
chain. -/
theorem started : ∃ cursor, Cursor.start volume directory = .ok cursor := by
  cases intact with
  | root => exact ⟨_, rfl⟩
  | @chain first _ chain =>
    rw [Cursor.start, (Layout.checkCluster_ok_iff first).mpr chain.first_data]
    exact ⟨_, rfl⟩

/-- An entry that is written into a slot takes its place, and everything else in the directory is
as it was. -/
theorem entryWrite {front rear : List (SlotPosition × Slot)} {slot : Slot}
    (divided : slots = front ++ (position, slot) :: rear) (entry : Entry) :
    (medium.write (medium.entryWrite position entry)).slots volume directory =
      ⟨front ++ (position, Slot.decode entry.encode) :: rear, none⟩ := by
  subst divided
  have here : (position, slot) ∈ front ++ (position, slot) :: rear := by simp
  have behind : volume.rootStart ≤ position.lba := (intact.stands here).2
  rw [(alters_entryWrite behind medium entry).slots, intact.slots_eq]
  exact Course.replaceSlot_divided intact.distinct _

end Intact

/-- A walk comes to a live entry that no end marker precedes, behind as many others as
there are live entries in front of it. -/
theorem walkMeets_of_slots {front rear : List (SlotPosition × Slot)} {entry : Entry}
    {ending : Option Failure} {cursor : Cursor}
    (started : Cursor.start volume directory = .ok cursor)
    (stored : medium.slots volume directory = ⟨front ++ (position, .live entry) :: rear, ending⟩)
    (unended : ∀ earlier ∈ front, earlier.2 ≠ .endMarker) :
    medium.WalkMeets volume directory (front.filterMap fun item => item.2.asEntry).length entry := by
  refine ⟨cursor, started, fun host count holds sized undisturbed => ?_⟩
  obtain ⟨answers, answered, _, told⟩ :=
    Cursor.start_entriesTold sized started count undisturbed
  refine ⟨answers, answered, fun enough => ?_⟩
  have meets : (Cursor.entriesOf (host.medium.slots volume directory)).items[
      (front.filterMap fun item => item.2.asEntry).length]? = some entry := by
    rw [holds, stored, Cursor.entriesOf_eq]
    dsimp only
    rw [List.takeWhile_append_of_pos (by simpa using unended), List.takeWhile_cons_of_pos (by simp),
      List.filterMap_append, List.getElem?_append_right (Nat.le_refl _), Nat.sub_self]
    rfl
  obtain ⟨further, rfl⟩ := told
  have told := Course.told_getElem? enough meets
  rw [List.getElem?_append_left (List.getElem?_eq_some_iff.mp told).1, told]

end Medium

namespace Volume

variable {volume : Volume} {host : Host}

/-- On a disk that refuses nothing, searching the root region finds the first slot that
can be reused, or else tells that the root is full. -/
theorem freeRootSlot_finds (sized : host.disk.sectorSize = 512)
    (undisturbed : host.Undisturbed (afterwards volume.freeRootSlot host)) :
    (afterwards volume.freeRootSlot host).medium = host.medium ∧
    (∀ position, outcome volume.freeRootSlot host = .ok position ↔
      host.medium.Foremost (host.medium.rootSlots volume) position) ∧
    (outcome volume.freeRootSlot host = .error .directoryFull ↔
      ∀ slot ∈ host.medium.rootSlots volume, ¬ host.medium.Reusable slot.1) := by
  have performs : Reads volume.freeRootSlot host.medium _ := freeRootSlot_reads
  obtain ⟨ended, kept⟩ := (performs host rfl).carriedOut sized undisturbed
  have stand (item : SlotPosition × Slot) (member : item ∈ host.medium.rootSlots volume) :=
    (Medium.mem_rootSlots member).1
  simp only [← Medium.freeSlot_eq_some_iff stand, ← Medium.freeSlot_eq_none_iff stand]
  refine ⟨kept, ?_⟩
  rw [Medium.slots_root] at ended
  rcases Medium.freeSlot_cases (host.medium.rootSlots volume) with ⟨found, free⟩ | full
  · rw [free] at ended ⊢
    change outcome volume.freeRootSlot host = .ok found at ended
    simp [ended]
  · rw [full] at ended ⊢
    change outcome volume.freeRootSlot host = .error .directoryFull at ended
    simp [ended]

/-- On a disk that refuses nothing, searching an intact chain finds the first slot that
can be reused, or else asks for an extension. -/
theorem freeChainSlot_finds {first : Nat} {clusters : List Nat}
    (chain : host.medium.ChainFrom volume first clusters) (sized : host.disk.sectorSize = 512)
    (undisturbed : host.Undisturbed (afterwards (volume.freeChainSlot first) host)) :
    (afterwards (volume.freeChainSlot first) host).medium = host.medium ∧
    (∀ position, outcome (volume.freeChainSlot first) host = .ok (.found position) ↔
      host.medium.Foremost (clusters.flatMap (host.medium.clusterSlots volume)) position) ∧
    (∀ last, outcome (volume.freeChainSlot first) host = .ok (.needsExtension last) ↔
      clusters.getLast? = some last ∧
        ∀ slot ∈ clusters.flatMap (host.medium.clusterSlots volume),
          ¬ host.medium.Reusable slot.1) := by
  have performs : Reads (volume.freeChainSlot first) host.medium _ := freeChainSlot_reads first
  obtain ⟨ended, kept⟩ := (performs host rfl).carriedOut sized undisturbed
  have intact : host.medium.Intact volume (.chain first) _ := .chain chain
  have stand (item : SlotPosition × Slot)
      (member : item ∈ clusters.flatMap (host.medium.clusterSlots volume)) :=
    (intact.stands member).1
  simp only [← Medium.freeSlot_eq_some_iff stand, ← Medium.freeSlot_eq_none_iff stand]
  refine ⟨kept, ?_⟩
  rw [intact.slots_eq] at ended
  rcases Medium.freeSlot_cases (clusters.flatMap (host.medium.clusterSlots volume)) with
    ⟨found, free⟩ | full
  · rw [free] at ended ⊢
    change outcome (volume.freeChainSlot first) host = .ok (.found found) at ended
    simp [ended]
  · rw [full] at ended ⊢
    change outcome (volume.freeChainSlot first) host = .ok (.needsExtension _) at ended
    simp [ended, chain.lastCluster chain.distinct]

/-- A search on a disk that refuses nothing finds the first slot of a directory, in the order of
storage, whose name byte is that of an end marker or of an erased entry, and changes nothing. The
root region is full exactly if it has no such slot; an intact chain then has to grow behind its last
cluster.

The slot that is found never lies behind an end marker. A live entry that is written there is met by
every later walk, as long as the directory has the slots that the write left. -/
theorem freeSlot_foremost (volume : Volume) (host : Host) (sized : host.disk.sectorSize = 512) :
    (host.Undisturbed (afterwards volume.freeRootSlot host) →
      let result := outcome volume.freeRootSlot host
      let slots := host.medium.rootSlots volume
      (afterwards volume.freeRootSlot host).medium = host.medium ∧
      slots.length = volume.rootEntries ∧
      (∀ position, result = .ok position ↔ host.medium.Foremost slots position) ∧
      (result = .error .directoryFull ↔ ∀ slot ∈ slots, ¬ host.medium.Reusable slot.1)) ∧
    (∀ first clusters, host.medium.ChainFrom volume first clusters →
      host.Undisturbed (afterwards (volume.freeChainSlot first) host) →
      let result := outcome (volume.freeChainSlot first) host
      let slots := clusters.flatMap (host.medium.clusterSlots volume)
      (afterwards (volume.freeChainSlot first) host).medium = host.medium ∧
      slots.length = clusters.length * volume.sectorsPerCluster * 16 ∧
      (∀ position, result = .ok (.found position) ↔ host.medium.Foremost slots position) ∧
      (∀ last, result = .ok (.needsExtension last) ↔
        clusters.getLast? = some last ∧ ∀ slot ∈ slots, ¬ host.medium.Reusable slot.1)) ∧
    (∀ directory slots position, host.medium.Intact volume directory slots →
      host.medium.Foremost slots position →
      ∃ front slot rear, slots = front ++ (position, slot) :: rear ∧
        (∀ earlier ∈ front, earlier.2 ≠ .endMarker) ∧
        ∀ (entry : Entry) (found : Host), entry.IsLive → found.medium = host.medium →
          found.disk.sectorSize = 512 →
          found.Undisturbed (afterwards (writeEntry position entry) found) →
          let written := (afterwards (writeEntry position entry) found).medium
          outcome (writeEntry position entry) found = .ok () ∧
          ∀ later : Medium, later.slots volume directory = written.slots volume directory →
            later.WalkMeets volume directory (front.filterMap fun item => item.2.asEntry).length
              entry) := by
  refine ⟨fun undisturbed => ?_, fun first clusters chain undisturbed => ?_,
    fun directory slots position intact foremost => ?_⟩
  · obtain ⟨kept, found, full⟩ := freeRootSlot_finds sized undisturbed
    exact ⟨kept, Medium.rootSlots_length, found, full⟩
  · obtain ⟨kept, found, full⟩ := freeChainSlot_finds chain sized undisturbed
    exact ⟨kept, Medium.flatMap_clusterSlots_length clusters, found, full⟩
  · obtain ⟨front, slot, rear, divided, _, taken⟩ := foremost
    have unended := Medium.Foremost.unended (fun item member => (intact.stands member).1) divided taken
    refine ⟨front, slot, rear, divided, unended, fun entry found live same standard calm => ?_⟩
    -- Only the medium was told of the host on which the slot is written, and that is all the write
    -- depends on.
    have performs : Performs (writeEntry position entry) host.medium (.ok ()) _ :=
      writeEntry_performs position entry
    obtain ⟨ended, left⟩ := (performs found same).carriedOut standard calm
    refine ⟨ended, fun later stands => ?_⟩
    have stored := intact.entryWrite divided entry
    rw [Slot.decode_encode live] at stored
    rw [left, same] at stands
    obtain ⟨cursor, started⟩ := intact.started
    exact Medium.walkMeets_of_slots started (stands.trans stored) unended

/-- A host with a disk of twenty sectors. In the root region an erased entry stands between a live
one and the end marker; the chain of clusters 2 and 5 has a label in each of its slots. -/
def takenHost : Host where
  disk :=
    { capacity := 20
      contents :=
        let labels : Sector := Vector.replicate 512 Attributes.volumeLabel
        ((((((∅ : Std.TreeMap Nat Sector).insert 1
          ((Sector.zero.setWord (Layout.linkIndex 2) 5).setWord (Layout.linkIndex 5) 0xFFFF)).insert 3
            (Sector.ofRecords [(Mounted.lone 0x41 0 0).encode, Vector.replicate 32 0xE5])).insert 4
              labels).insert 5 labels).insert 10 labels).insert 11 labels }
  largestBlock := 4096

/-- The erased slot is found, and what is written there is the second entry of a listing. The chain
has to grow behind cluster 5. -/
theorem freeSlot_foremost_taken :
    let entry := Mounted.lone 0x42 0 0
    let after := afterwards (writeEntry ⟨3, 1⟩ entry) takenHost
    takenHost.disk.sectorSize = 512 ∧
    outcome small.freeRootSlot takenHost = .ok ⟨3, 1⟩ ∧
    takenHost.medium.Foremost (takenHost.medium.rootSlots small) ⟨3, 1⟩ ∧
    outcome (small.freeChainSlot 2) takenHost = .ok (.needsExtension 5) ∧
    (∀ slot ∈ [2, 5].flatMap (takenHost.medium.clusterSlots small),
      ¬ takenHost.medium.Reusable slot.1) ∧
    outcome (writeEntry ⟨3, 1⟩ entry) takenHost = .ok () ∧
    after.medium.WalkMeets small .root 1 entry := by
  intro entry after
  obtain ⟨inRoot, inChain, written⟩ := freeSlot_foremost small takenHost rfl
  have calm {α : Type} {operation : HostM α} {intended : Except Failure α} {writes : List Write}
      (performs : Performs operation takenHost.medium intended writes)
      (granted : ∀ event ∈ (afterwards operation takenHost).trace, ¬ event.IsRefusal) :
      takenHost.Undisturbed (afterwards operation takenHost) := by
    obtain ⟨events, traced, _⟩ := performs takenHost rfl
    exact Host.Spared.of_trace ⟨events, traced⟩ granted
  have data (cluster : Nat) (low : 2 ≤ cluster) (high : cluster ≤ 5) : small.DataCluster cluster :=
    ⟨low, Nat.le_trans high (by decide)⟩
  have chain : takenHost.medium.ChainFrom small 2 [2, 5] :=
    .next (data 2 (by decide) (by decide)) (by decide +kernel)
      (.last (data 5 (by decide) (by decide)) (by decide +kernel))
  obtain ⟨_, _, finds, _⟩ := inRoot (calm freeRootSlot_reads (by decide +kernel))
  obtain ⟨_, _, _, full⟩ := inChain 2 [2, 5] chain (calm (freeChainSlot_reads 2) (by decide +kernel))
  have found : outcome small.freeRootSlot takenHost = .ok ⟨3, 1⟩ := by decide +kernel
  have grows : outcome (small.freeChainSlot 2) takenHost = .ok (.needsExtension 5) := by
    decide +kernel
  have foremost := (finds _).mp found
  obtain ⟨front, slot, rear, divided, _, meets⟩ := written .root _ _ .root foremost
  have live : entry.IsLive := ⟨by decide, by decide, by decide⟩
  obtain ⟨ended, walks⟩ := meets entry takenHost live rfl rfl
    (calm (writeEntry_performs _ _) (by decide +kernel))
  have place : front.length = 1 := by
    have positions := congrArg (List.map Prod.fst) divided
    rw [List.map_append, List.map_cons] at positions
    have distinct : ((takenHost.medium.rootSlots small).map Prod.fst).Nodup :=
      Medium.rootSlots_distinct
    have second : ((takenHost.medium.rootSlots small).map Prod.fst)[1]? = some ⟨3, 1⟩ := by
      decide +kernel
    have here : ((takenHost.medium.rootSlots small).map Prod.fst)[front.length]? = some ⟨3, 1⟩ := by
      simp [positions]
    have within := (List.getElem?_eq_some_iff.mp second).1
    exact ((List.getElem?_inj within distinct).mp (second.trans here.symm)).symm
  have before : (front.filterMap fun item => item.2.asEntry).length = 1 := by
    have first : (takenHost.medium.rootSlots small).take 1 = front := by
      rw [divided, ← place, List.take_left]
    rw [← first]
    decide +kernel
  exact ⟨rfl, found, foremost, grows, ((full 5).mp grows).2, ended, before ▸ walks _ rfl⟩

end Volume

end FatVolume
