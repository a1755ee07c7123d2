import FatVolume.Proofs.Alongside
import FatVolume.Proofs.Links

/-!
# Walking the slots of a medium

The slots of a directory are a course over the medium: those of the root region one after
the other, or those of the clusters of a chain. A cursor has a course ahead of it. Asking
for a slot takes the first one off that course and leaves the rest ahead, and where the
course is empty it tells how it ended. A sweep goes along the course until its visitor
answers.

A sector that a cursor keeps is the one on the medium as long as nothing is written
there; a cursor that is used on one medium only is ready in this sense from its start.
-/

namespace FatVolume

variable {α β : Type}

namespace Performs

variable {medium : Medium} {cursor : Cursor} {writes : List Write}

/-- What follows a success runs along the cursor that the success left. The rule of
sequences for operations that have a cursor. -/
theorem walk {operation : WalkM α} {next : α → WalkM β} {value : α} {moved : Cursor}
    {intended : Except Failure (β × Cursor)}
    (first : Reads (cursor.alongside operation) medium (.ok (value, moved)))
    (second : Performs (moved.alongside (next value)) medium intended writes) :
    Performs (cursor.alongside (operation >>= next)) medium intended writes := by
  rw [Cursor.alongside_bind]
  exact first.bind second

/-- Behind a failure no cursor is left to go on with, and the whole ends in the failure. -/
theorem walk_error {operation : WalkM α} {next : α → WalkM β} {failure : Failure}
    (first : Reads (cursor.alongside operation) medium (.error failure)) :
    Reads (cursor.alongside (operation >>= next)) medium (.error failure) := by
  rw [Cursor.alongside_bind]
  exact first.bind_error

/-- An operation on the host leaves the cursor where it is, and what follows goes on from
there. -/
theorem walk_lift {operation : HostM α} {next : α → WalkM β} {value : α}
    {intended : Except Failure (β × Cursor)} (first : Reads operation medium (.ok value))
    (second : Performs (cursor.alongside (next value)) medium intended writes) :
    Performs (cursor.alongside (liftM operation >>= next)) medium intended writes := by
  refine walk ?_ second
  rw [Cursor.alongside_lift]
  exact first.bind (.pure _)

/-- The failure of an operation on the host ends what is done with the cursor. -/
theorem walk_lift_error {operation : HostM α} {next : α → WalkM β} {failure : Failure}
    (first : Reads operation medium (.error failure)) :
    Reads (cursor.alongside (liftM operation >>= next)) medium (.error failure) := by
  apply walk_error
  rw [Cursor.alongside_lift]
  exact first.bind_error

/-- Asking for the walk yields the cursor that is known and some host, so what follows has
to hold for every host. -/
theorem walk_get {next : Walk → WalkM β} {intended : Except Failure (β × Cursor)}
    (known : ∀ host, Performs (cursor.alongside (next ⟨cursor, host⟩)) medium intended writes) :
    Performs (cursor.alongside (get >>= next)) medium intended writes :=
  fun host holds => known host host holds

end Performs

/-- An operation whose cursor is dropped ends in the value alone, and reads what it read
with the cursor. -/
theorem Cursor.along_reads {medium : Medium} {cursor : Cursor} {operation : WalkM α}
    {result : Except Failure (α × Cursor)}
    (reads : Reads (cursor.alongside operation) medium result) :
    Reads (cursor.along operation) medium (result.map Prod.fst) := by
  rw [along_eq]
  cases result with
  | ok ending => exact reads.bind (.pure _)
  | error failure => exact reads.bind_error

/-! ## Slots -/

namespace Medium

variable (medium : Medium) (volume : Volume)

/-- A position with the slot that stands there. -/
def slotAt (position : SlotPosition) : SlotPosition × Slot :=
  (position, Slot.decode ((medium position.lba).record position.index))

/-- The slots of a sector. -/
def sectorSlots (lba : Nat) : List (SlotPosition × Slot) :=
  (List.finRange 16).map fun index => medium.slotAt ⟨lba, index⟩

/-- A remainder by 16 is the number of a slot in its sector. -/
theorem slotIndex_lt (taken : Nat) : taken % 16 < 16 := Nat.mod_lt taken (by decide)

/-- The slots of the root region. -/
def rootSlots : List (SlotPosition × Slot) :=
  (List.range volume.rootEntries).map fun taken =>
    medium.slotAt ⟨volume.rootStart + taken / 16, taken % 16, slotIndex_lt taken⟩

/-- The slots of a cluster, from one of its sectors on. -/
def slotsFrom (cluster sector : Nat) : List (SlotPosition × Slot) :=
  (List.range' sector (volume.sectorsPerCluster - sector)).flatMap fun number =>
    medium.sectorSlots (volume.clusterStart cluster + number)

/-- The slots of a cluster. -/
def clusterSlots (cluster : Nat) : List (SlotPosition × Slot) := medium.slotsFrom volume cluster 0

/-- The slots of a directory, end markers and what stands behind them included. -/
def slots : Directory → Course (SlotPosition × Slot)
  | .root => ⟨medium.rootSlots volume, none⟩
  | .chain first =>
    match volume.checkCluster first with
    | .error failure => ⟨[], some failure⟩
    | .ok _ =>
      ((medium.beyond volume (volume.clusterCount - 1) first).behind [first]).flatMap
        (medium.clusterSlots volume)

variable {medium volume}

/-- Behind the last sector of a cluster, the cluster has no more slots. -/
theorem slotsFrom_end (cluster : Nat) :
    medium.slotsFrom volume cluster volume.sectorsPerCluster = [] := by
  rw [slotsFrom, Nat.sub_self]
  rfl

/-- The slots of a cluster from one of its sectors on are those of this sector and those
from the next one on. -/
theorem slotsFrom_inside {cluster sector : Nat} (inside : sector < volume.sectorsPerCluster) :
    medium.slotsFrom volume cluster sector =
      medium.sectorSlots (volume.clusterStart cluster + sector) ++
        medium.slotsFrom volume cluster (sector + 1) := by
  obtain ⟨more, same⟩ : ∃ more, volume.sectorsPerCluster - sector = more + 1 :=
    ⟨volume.sectorsPerCluster - sector - 1, by omega⟩
  have fewer : volume.sectorsPerCluster - (sector + 1) = more := by omega
  rw [slotsFrom, same, List.range'_succ, List.flatMap_cons, slotsFrom, fewer]

/-- The slots of a sector from one of them on begin with that slot. Dropping slots is how
a cursor inside a sector is described. -/
theorem drop_sectorSlots (medium : Medium) {taken : Nat} (inside : taken < 16) (lba : Nat) :
    (medium.sectorSlots lba).drop taken =
      medium.slotAt ⟨lba, taken, inside⟩ :: (medium.sectorSlots lba).drop (taken + 1) := by
  have bounded : taken < (medium.sectorSlots lba).length := by simpa [sectorSlots] using inside
  rw [List.drop_eq_getElem_cons bounded]
  simp [sectorSlots]

/-- Behind sixteen slots a sector has no more of them. -/
theorem drop_sectorSlots_end {taken : Nat} (used : ¬ taken < 16) (lba : Nat) :
    (medium.sectorSlots lba).drop taken = [] := by
  rw [List.drop_eq_nil_iff, sectorSlots, List.length_map, List.length_finRange]
  omega

/-- The slots of the root region from one of them on begin with that slot, which lies in
the sector and at the place that its number tells. -/
theorem drop_rootSlots (medium : Medium) {taken : Nat} (inside : taken < volume.rootEntries) :
    (medium.rootSlots volume).drop taken =
      medium.slotAt ⟨volume.rootStart + taken / 16, taken % 16, slotIndex_lt taken⟩ ::
        (medium.rootSlots volume).drop (taken + 1) := by
  have bounded : taken < (medium.rootSlots volume).length := by simpa [rootSlots] using inside
  rw [List.drop_eq_getElem_cons bounded]
  simp [rootSlots]

/-- Behind as many slots as the root directory has, nothing is left, though the sector may
go on. -/
theorem drop_rootSlots_end {taken : Nat} (used : ¬ taken < volume.rootEntries) :
    (medium.rootSlots volume).drop taken = [] := by
  rw [List.drop_eq_nil_iff, rootSlots, List.length_map, List.length_range]
  omega

/-- The root directory has as many slots as the boot sector counts. -/
theorem rootSlots_length : (medium.rootSlots volume).length = volume.rootEntries := by
  rw [rootSlots, List.length_map, List.length_range]

/-- A cluster has sixteen slots for each of its sectors. -/
theorem clusterSlots_length (cluster : Nat) :
    (medium.clusterSlots volume cluster).length = volume.sectorsPerCluster * 16 := by
  have sectors (lba : Nat) : (medium.sectorSlots lba).length = 16 := by
    rw [sectorSlots, List.length_map, List.length_finRange]
  rw [clusterSlots, slotsFrom, List.length_flatMap]
  simp only [sectors, List.map_const', List.length_range', List.sum_replicate_nat, Nat.sub_zero]

/-- A chain has as many slots as its clusters have together. -/
theorem flatMap_clusterSlots_length (clusters : List Nat) :
    (clusters.flatMap (medium.clusterSlots volume)).length =
      clusters.length * volume.sectorsPerCluster * 16 := by
  simp only [List.length_flatMap, clusterSlots_length, List.map_const', List.sum_replicate_nat,
    Nat.mul_assoc]

end Medium

/-! ## What a cursor has ahead -/

namespace Cursor

variable (medium : Medium) (volume : Volume)

/-- The slots that a cursor has not yielded yet. -/
def ahead (cursor : Cursor) : Course (SlotPosition × Slot) :=
  if cursor.done then ⟨[], none⟩
  else
    match cursor.place with
    | .root taken => ⟨(medium.rootSlots volume).drop taken, none⟩
    | .chain cluster sector taken hops =>
      ((medium.beyond volume (volume.clusterCount - 1 - hops) cluster).flatMap
        (medium.clusterSlots volume)).behind
          ((medium.sectorSlots (volume.clusterStart cluster + sector)).drop taken ++
            medium.slotsFrom volume cluster (sector + 1))

/-- The cluster in which a cursor over a chain comes to its end. -/
def lastCluster (cursor : Cursor) : Option Nat :=
  match cursor.place with
  | .root _ => none
  | .chain cluster _ _ hops =>
    if cursor.done then some cluster
    else
      some ((medium.beyond volume (volume.clusterCount - 1 - hops) cluster).items.getLastD cluster)

/-- The cursor keeps no sector that differs from the medium, and stands inside a cluster
while it is not done. -/
structure Ready (cursor : Cursor) : Prop where
  fresh : ∀ lba sector, cursor.held = some (lba, sector) → sector = medium lba
  inside : ∀ cluster sector taken hops, cursor.place = .chain cluster sector taken hops →
    cursor.done = true ∨ sector < volume.sectorsPerCluster

/-- The answer to a request for a slot follows a course: it is the first item, the rest
staying ahead, or tells how the empty course ended. -/
inductive Follows (last : Option Nat) :
    Course (SlotPosition × Slot) → Except Failure (Option (SlotPosition × Slot) × Cursor) → Prop
  | yielded {item : SlotPosition × Slot} {items : List (SlotPosition × Slot)}
      {ending : Option Failure} {moved : Cursor} (ready : moved.Ready medium volume)
      (remains : moved.ahead medium volume = ⟨items, ending⟩)
      (leads : moved.lastCluster medium volume = last) :
      Follows last ⟨item :: items, ending⟩ (.ok (some item, moved))
  | ended {moved : Cursor} (ready : moved.Ready medium volume) (done : moved.done = true)
      (stands : moved.cluster? = last) : Follows last ⟨[], none⟩ (.ok (none, moved))
  | failed {failure : Failure} : Follows last ⟨[], some failure⟩ (.error failure)

variable {medium : Medium} {volume : Volume}

/-- A cursor that keeps no sector is ready on every medium, if its sector lies inside its
cluster or it has ended. -/
theorem Ready.of_held_none {place : Place} {done : Bool}
    (inside : ∀ cluster sector taken hops, place = .chain cluster sector taken hops →
      done = true ∨ sector < volume.sectorsPerCluster) :
    (Cursor.mk place none done).Ready medium volume := ⟨by simp, inside⟩

end Cursor

/-- The sector at an address, as it is seen where a sector is kept. -/
def Medium.sight (medium : Medium) (held : Option (Nat × Sector)) (lba : Nat) : Sector :=
  (keptSector held lba).getD (medium lba)

/-- A sector that may have been kept is seen as it was kept, or else as the medium has it. -/
theorem readUnlessKept_sights {medium : Medium} (held : Option (Nat × Sector)) (lba : Nat) :
    Reads (readUnlessKept held lba) medium (.ok (medium.sight held lba)) := by
  simp only [readUnlessKept, Medium.sight]
  cases keptSector held lba with
  | none => exact .readSector lba
  | some sector => exact .pure sector

/-- A sector is kept under its address, and only wanted under that address. -/
theorem held_of_keptSector {held : Option (Nat × Sector)} {lba : Nat} {sector : Sector}
    (kept : keptSector held lba = some sector) : held = some (lba, sector) := by
  simp only [keptSector] at kept
  split at kept
  · split at kept
    · next same =>
      cases kept
      rw [same]
    · cases kept
  · cases kept

/-- What is seen is on the medium, or on the one from which a sector was kept. A cursor
that stood still while others wrote sees one of the two. -/
theorem Medium.sight_cases {former : Medium} {held : Option (Nat × Sector)}
    (fresh : ∀ address sector, held = some (address, sector) → sector = former address)
    (medium : Medium) (lba : Nat) :
    ∃ seen, (seen = former ∨ seen = medium) ∧ medium.sight held lba = seen lba := by
  cases kept : keptSector held lba with
  | none => exact ⟨medium, .inr rfl, by rw [sight, kept]; rfl⟩
  | some sector =>
    refine ⟨former, .inl rfl, ?_⟩
    rw [sight, kept]
    exact fresh lba sector (held_of_keptSector kept)

/-- Where the kept sector is the one that the medium has, keeping it makes no difference
to what is seen. -/
theorem Medium.sight_fresh {medium : Medium} {held : Option (Nat × Sector)}
    (fresh : ∀ address sector, held = some (address, sector) → sector = medium address)
    (lba : Nat) : medium.sight held lba = medium lba := by
  obtain ⟨seen, rfl | rfl, same⟩ := Medium.sight_cases fresh medium lba <;> exact same

/-- With a kept sector that is still up to date, a sector is read as the medium has it,
whether or not a transfer is made. -/
theorem readUnlessKept_reads {medium : Medium} {held : Option (Nat × Sector)} {lba : Nat}
    (fresh : ∀ address sector, held = some (address, sector) → sector = medium address) :
    Reads (readUnlessKept held lba) medium (.ok (medium lba)) := by
  have seen : Reads (readUnlessKept held lba) medium _ := readUnlessKept_sights held lba
  rwa [Medium.sight_fresh fresh] at seen

namespace Volume

variable {medium : Medium} {volume : Volume}

/-- The address of a sector of a cluster is worked out from the start of the cluster,
without a transfer. -/
theorem clusterAddress_reads (cluster sector : Nat) :
    Reads (volume.clusterAddress cluster sector) medium
      (.ok (volume.clusterStart cluster + sector)) := workOut_reads _

/-- The address of a slot of the root region is that of the sector that holds the slot. -/
theorem rootAddress_reads (taken : Nat) :
    Reads (volume.rootAddress taken) medium (.ok (volume.rootStart + taken / 16)) :=
  workOut_reads _

end Volume

namespace Cursor

variable {medium : Medium} {volume : Volume} {cursor : Cursor}

/-- The slot that is taken is one of the sector that is seen. The cursor goes where it is
told to, and keeps the sector. -/
theorem take_sights (cursor : Cursor) (position : SlotPosition) (behind : Place) :
    Reads (cursor.alongside (take position behind)) medium
      (.ok (some (position,
          Slot.decode ((medium.sight cursor.held position.lba).record position.index)),
        { cursor with
          place := behind
          held := some (position.lba, medium.sight cursor.held position.lba) })) := by
  have kept : Reads (cursor.alongside (sectorAt position.lba)) medium
      (.ok (medium.sight cursor.held position.lba,
        { cursor with held := some (position.lba, medium.sight cursor.held position.lba) })) := by
    refine .walk_get fun host => ?_
    refine .walk_lift (readUnlessKept_sights cursor.held position.lba) ?_
    exact Performs.pure _
  exact .walk kept (.walk_lift (.compute _) (Performs.pure _))

/-- With a kept sector that is up to date, the slot that is taken is the one that the
medium has at the position. -/
theorem take_reads (position : SlotPosition) (behind : Place)
    (fresh : ∀ address sector, cursor.held = some (address, sector) → sector = medium address) :
    Reads (cursor.alongside (take position behind)) medium
      (.ok (some (medium.slotAt position),
        { cursor with place := behind, held := some (position.lba, medium position.lba) })) := by
  have taken : Reads (cursor.alongside (take position behind)) medium _ :=
    take_sights cursor position behind
  rwa [Medium.sight_fresh fresh] at taken

/-- A slot that is taken is followed by what is ahead of the place behind it. This is the
step that all movements of a cursor share. -/
theorem take_follows (volume : Volume) (cursor : Cursor) (position : SlotPosition)
    (behind : Place) (unfinished : cursor.done = false)
    (fresh : ∀ address sector, cursor.held = some (address, sector) → sector = medium address)
    (inside : ∀ cluster sector taken hops, behind = .chain cluster sector taken hops →
      sector < volume.sectorsPerCluster) :
    ∃ answer, Reads (cursor.alongside (take position behind)) medium answer ∧
      Follows medium volume ((Cursor.mk behind none false).lastCluster medium volume)
        (((Cursor.mk behind none false).ahead medium volume).behind [medium.slotAt position])
        answer := by
  refine ⟨_, take_reads position behind fresh, .yielded ?_ ?_ ?_⟩
  · refine ⟨?_, fun cluster sector taken hops stands =>
      .inr (inside cluster sector taken hops stands)⟩
    rintro address sector ⟨⟩
    rfl
  · rw [ahead, unfinished]
    rfl
  · rw [lastCluster, lastCluster, unfinished]

/-- What is ahead from a sector of a chain on. -/
def aheadFrom (medium : Medium) (volume : Volume) (cluster sector hops : Nat) :
    Course (SlotPosition × Slot) :=
  ((medium.beyond volume (volume.clusterCount - 1 - hops) cluster).flatMap
    (medium.clusterSlots volume)).behind (medium.slotsFrom volume cluster sector)

/-- The cluster in which a walk from a cluster comes to its end. -/
def lastFrom (medium : Medium) (volume : Volume) (cluster hops : Nat) : Nat :=
  (medium.beyond volume (volume.clusterCount - 1 - hops) cluster).items.getLastD cluster

/-- The first slot of a sector is followed by the rest of the sector and what comes then,
so entering a sector is a step as any other. -/
theorem takeFirst_follows (cursor : Cursor) {cluster sector : Nat} (hops : Nat)
    (unfinished : cursor.done = false)
    (fresh : ∀ address sector, cursor.held = some (address, sector) → sector = medium address)
    (inside : sector < volume.sectorsPerCluster) :
    ∃ answer, Reads (cursor.alongside (takeFirst volume cluster sector hops)) medium answer ∧
      Follows medium volume (some (lastFrom medium volume cluster hops))
        (aheadFrom medium volume cluster sector hops) answer := by
  have within (number place taken hop : Nat)
      (stands : Place.chain cluster sector 1 hops = .chain number place taken hop) :
      place < volume.sectorsPerCluster := by
    cases stands
    exact inside
  obtain ⟨answer, reads, follows⟩ :=
    take_follows volume cursor ⟨volume.clusterStart cluster + sector, 0⟩
      (.chain cluster sector 1 hops) unfinished fresh within
  refine ⟨answer, .walk_lift (Volume.clusterAddress_reads cluster sector) reads, ?_⟩
  have split : aheadFrom medium volume cluster sector hops =
      ((Cursor.mk (.chain cluster sector 1 hops) none false).ahead medium volume).behind
        [medium.slotAt ⟨volume.clusterStart cluster + sector, 0⟩] := by
    have none : 0 < 16 := by decide
    have first := medium.drop_sectorSlots none (volume.clusterStart cluster + sector)
    rw [List.drop_zero] at first
    rw [aheadFrom, Medium.slotsFrom_inside inside, first]
    exact (Course.behind_behind _ _ _).symm
  rw [split]
  exact follows

/-- Behind the last sector of a cluster come the clusters behind it, as many as the bound
on hops still allows. -/
theorem aheadFrom_used (medium : Medium) (volume : Volume) (cluster hops : Nat) :
    aheadFrom medium volume cluster volume.sectorsPerCluster hops =
      (medium.beyond volume (volume.clusterCount - 1 - hops) cluster).flatMap
        (medium.clusterSlots volume) := by
  rw [aheadFrom, Medium.slotsFrom_end]
  rfl

/-- Where a link leads on and the bound allows it, what is ahead begins with the cluster
that the link leads to, and the last cluster is the same. -/
theorem aheadFrom_next {cluster successor hops : Nat}
    (followed : medium.follow volume cluster = .ok (some successor))
    (fewer : hops + 1 < volume.clusterCount) :
    aheadFrom medium volume cluster volume.sectorsPerCluster hops =
        aheadFrom medium volume successor 0 (hops + 1) ∧
      lastFrom medium volume cluster hops = lastFrom medium volume successor (hops + 1) := by
  obtain ⟨further, links⟩ : ∃ further, volume.clusterCount - 1 - hops = further + 1 :=
    ⟨volume.clusterCount - 1 - hops - 1, by omega⟩
  have same : volume.clusterCount - 1 - (hops + 1) = further := by omega
  rw [aheadFrom_used, aheadFrom, lastFrom, lastFrom, links, same, Medium.beyond, followed]
  dsimp only
  rw [Course.flatMap_behind, Course.behind_items, List.singleton_append, List.getLastD_cons,
    List.flatMap_singleton]
  exact ⟨rfl, rfl⟩

/-- A cursor that leaves a sector keeps nothing of it, so what follows reads as it would
from the new place with nothing kept. -/
theorem leaveFor_reads {cursor : Cursor} (place : Place)
    {operation : WalkM (Option (SlotPosition × Slot))}
    {answer : Except Failure (Option (SlotPosition × Slot) × Cursor)}
    (reads : Reads ({ cursor with place, held := none }.alongside operation) medium answer) :
    Reads (cursor.alongside (do modify (·.leaveFor place); operation)) medium answer :=
  .walk (Performs.pure _) reads

/-- Behind a used-up cluster stands the next one, if a link leads there. Otherwise the
cursor ends, or ends in the failure of the link. -/
theorem enterCluster_follows (cursor : Cursor) {cluster sector : Nat} (hops : Nat)
    (unfinished : cursor.done = false) (used : sector + 1 = volume.sectorsPerCluster) :
    ∃ answer, Reads (cursor.alongside (enterSector volume cluster sector hops)) medium answer ∧
      Follows medium volume (some (lastFrom medium volume cluster hops))
        (aheadFrom medium volume cluster volume.sectorsPerCluster hops) answer := by
  have left : ¬ sector + 1 < volume.sectorsPerCluster := by omega
  have asked : Reads (volume.follow cluster) medium _ := Volume.follow_reads cluster
  cases followed : medium.follow volume cluster with
  | error failure =>
    rw [followed] at asked
    rw [aheadFrom_used, lastFrom, Medium.beyond, followed]
    refine ⟨.error failure, .walk_lift (Volume.nextSector_reads sector) (leaveFor_reads _ ?_), .failed⟩
    rw [if_neg left]
    exact .walk_lift_error asked
  | ok link =>
    rw [followed] at asked
    cases link with
    | none =>
      rw [aheadFrom_used, lastFrom, Medium.beyond, followed]
      refine ⟨.ok (none, ⟨.chain cluster sector 0 hops, none, true⟩),
        .walk_lift (Volume.nextSector_reads sector) (leaveFor_reads _ ?_), .ended (.of_held_none ?_) rfl rfl⟩
      · rw [if_neg left]
        refine .walk_lift asked (.walk_lift (Volume.previousSector_reads sector) ?_)
        exact .walk (Performs.pure _) (.pure _)
      · exact fun _ _ _ _ _ => .inl rfl
    | some successor =>
      by_cases fewer : hops + 1 < volume.clusterCount
      · obtain ⟨answer, reads, follows⟩ :=
          takeFirst_follows { cursor with place := .chain successor 0 0 (hops + 1), held := none }
            (hops + 1) unfinished (by simp) volume.usable.sectorsPerCluster_pos
        obtain ⟨course, last⟩ := aheadFrom_next followed fewer
        rw [course, last]
        refine ⟨answer, .walk_lift (Volume.nextSector_reads sector) (leaveFor_reads _ ?_), follows⟩
        rw [if_neg left]
        refine .walk_lift asked (.walk_lift (Volume.nextHop_reads hops) ?_)
        rw [if_pos fewer]
        exact leaveFor_reads _ reads
      -- No more hops are allowed, and the course of links breaks off here as well.
      · have none : volume.clusterCount - 1 - hops = 0 := by omega
        rw [aheadFrom_used, lastFrom, Medium.beyond, followed, none]
        refine ⟨.error .brokenChain, .walk_lift (Volume.nextSector_reads sector) (leaveFor_reads _ ?_), .failed⟩
        rw [if_neg left]
        refine .walk_lift asked (.walk_lift (Volume.nextHop_reads hops) ?_)
        rw [if_neg fewer]
        exact Performs.throw _

/-- Behind a used-up sector stands the following one, in the same cluster or in the next.
The answer follows what was ahead in either case. -/
theorem enterSector_follows (cursor : Cursor) {cluster sector : Nat} (hops : Nat)
    (unfinished : cursor.done = false)
    (inside : sector < volume.sectorsPerCluster) :
    ∃ answer, Reads (cursor.alongside (enterSector volume cluster sector hops)) medium answer ∧
      Follows medium volume (some (lastFrom medium volume cluster hops))
        (aheadFrom medium volume cluster (sector + 1) hops) answer := by
  by_cases within : sector + 1 < volume.sectorsPerCluster
  · obtain ⟨answer, reads, follows⟩ :=
      takeFirst_follows { cursor with place := .chain cluster (sector + 1) 0 hops, held := none }
        hops unfinished (by simp) within
    refine ⟨answer, .walk_lift (Volume.nextSector_reads sector) (leaveFor_reads _ ?_), follows⟩
    rw [if_pos within]
    exact reads
  · have used : sector + 1 = volume.sectorsPerCluster := by omega
    rw [used]
    exact enterCluster_follows cursor hops unfinished used

/-- A cursor in the root region moves from slot to slot across sectors, and ends behind
the last slot without a failure. -/
theorem nextSlot_root {taken : Nat} {held : Option (Nat × Sector)}
    (ready : (Cursor.mk (.root taken) held false).Ready medium volume) :
    ∃ answer,
      Reads ((Cursor.mk (.root taken) held false).alongside (nextSlot volume)) medium answer ∧
      Follows medium volume none ((Cursor.mk (.root taken) held false).ahead medium volume)
        answer := by
  rw [ahead, if_neg Bool.false_ne_true]
  dsimp only
  by_cases inside : taken < volume.rootEntries
  · obtain ⟨answer, reads, follows⟩ := take_follows volume (.mk (.root taken) held false)
      ⟨volume.rootStart + taken / 16, taken % 16, Medium.slotIndex_lt taken⟩
      (.root (taken + 1)) rfl ready.fresh (by simp)
    refine ⟨answer, .walk_get fun host => ?_, ?_⟩
    · dsimp only
      rw [if_neg Bool.false_ne_true, if_pos inside]
      exact .walk_lift (Volume.rootAddress_reads taken) reads
    · rw [medium.drop_rootSlots inside]
      exact follows
  · refine ⟨.ok (none, ⟨.root taken, held, true⟩), .walk_get fun host => ?_, ?_⟩
    · dsimp only
      rw [if_neg Bool.false_ne_true, if_neg inside]
      exact .walk (Performs.pure _) (.pure _)
    · rw [Medium.drop_rootSlots_end inside]
      exact .ended ⟨ready.fresh, by simp⟩ rfl rfl

/-- A cursor in a chain moves from slot to slot of its sector, and then leaves it for the
next sector, the next cluster or the end. -/
theorem nextSlot_chain {cluster sector taken hops : Nat} {held : Option (Nat × Sector)}
    (ready : (Cursor.mk (.chain cluster sector taken hops) held false).Ready medium volume) :
    ∃ answer,
      Reads ((Cursor.mk (.chain cluster sector taken hops) held false).alongside
        (nextSlot volume)) medium answer ∧
      Follows medium volume (some (lastFrom medium volume cluster hops))
        ((Cursor.mk (.chain cluster sector taken hops) held false).ahead medium volume)
          answer := by
  have within : sector < volume.sectorsPerCluster := by
    rcases ready.inside cluster sector taken hops rfl with done | within
    · cases done
    · exact within
  rw [ahead, if_neg Bool.false_ne_true]
  dsimp only
  by_cases inside : taken < 16
  · obtain ⟨answer, reads, follows⟩ :=
      take_follows volume (.mk (.chain cluster sector taken hops) held false)
        ⟨volume.clusterStart cluster + sector, taken, inside⟩
        (.chain cluster sector (taken + 1) hops) rfl ready.fresh
        (by rintro _ _ _ _ ⟨⟩; exact within)
    refine ⟨answer, .walk_get fun host => ?_, ?_⟩
    · dsimp only
      rw [if_neg Bool.false_ne_true, dif_pos inside]
      exact .walk_lift (Volume.clusterAddress_reads cluster sector) reads
    · rw [medium.drop_sectorSlots inside]
      rw [ahead, if_neg Bool.false_ne_true, Course.behind_behind] at follows
      exact follows
  · obtain ⟨answer, reads, follows⟩ :=
      enterSector_follows (.mk (.chain cluster sector taken hops) held false) hops rfl within
    refine ⟨answer, .walk_get fun host => ?_, ?_⟩
    · dsimp only
      rw [if_neg Bool.false_ne_true, dif_neg inside]
      exact reads
    · rw [Medium.drop_sectorSlots_end inside]
      exact follows

/-- The answer of a ready cursor follows what it has ahead: the first slot and a cursor
that has the rest ahead, or how the course ends. -/
theorem nextSlot_follows (ready : cursor.Ready medium volume) :
    ∃ answer, Reads (cursor.alongside (nextSlot volume)) medium answer ∧
      Follows medium volume (cursor.lastCluster medium volume) (cursor.ahead medium volume)
        answer := by
  obtain ⟨place, held, done⟩ := cursor
  cases done with
  | true =>
    refine ⟨.ok (none, ⟨place, held, true⟩), .walk_get fun host => .pure _, ?_⟩
    have finished : (Cursor.mk place held true).lastCluster medium volume =
        (Cursor.mk place held true).cluster? := by cases place <;> rfl
    rw [finished]
    exact .ended ready rfl rfl
  | false =>
    cases place with
    | root taken => exact nextSlot_root ready
    | chain cluster sector taken hops => exact nextSlot_chain ready

/-! ## Sweeps -/

/-- A sweep asks for one slot, and goes on as the visitor says. The equation unfolds one
round of it. -/
theorem sweep_eq (volume : Volume) (visit : SlotPosition → Slot → Option β) :
    sweep volume visit = nextSlot volume >>= fun
      | none => pure none
      | some (position, slot) =>
        match visit position slot with
        | some answer => pure (some answer)
        | none => sweep volume visit := by
  funext walk
  rw [sweep]
  change _ = EStateM.bind (nextSlot volume) _ walk
  simp only [EStateM.bind]
  split
  · next failure rest yielded => rw [yielded]
  · next rest yielded => rw [yielded]; rfl
  · next position slot rest yielded =>
    rw [yielded]
    dsimp only
    cases visit position slot <;> rfl

/-- How a sweep along a course ends: at the first slot for which the visitor answers, the
slots behind it staying ahead, or as the course does. -/
inductive Sweeps (medium : Medium) (volume : Volume) (visit : SlotPosition → Slot → Option β)
    (last : Option Nat) :
    Course (SlotPosition × Slot) → Except Failure (Option β × Cursor) → Prop
  | answered {position : SlotPosition} {slot : Slot} {items : List (SlotPosition × Slot)}
      {ending : Option Failure} {moved : Cursor} {answer : β}
      (visited : visit position slot = some answer) (ready : moved.Ready medium volume)
      (remains : moved.ahead medium volume = ⟨items, ending⟩) :
      Sweeps medium volume visit last ⟨(position, slot) :: items, ending⟩ (.ok (some answer, moved))
  | passed {position : SlotPosition} {slot : Slot} {items : List (SlotPosition × Slot)}
      {ending : Option Failure} {result : Except Failure (Option β × Cursor)}
      (visited : visit position slot = none)
      (sweeps : Sweeps medium volume visit last ⟨items, ending⟩ result) :
      Sweeps medium volume visit last ⟨(position, slot) :: items, ending⟩ result
  | ended {moved : Cursor} (ready : moved.Ready medium volume) (done : moved.done = true)
      (stands : moved.cluster? = last) :
      Sweeps medium volume visit last ⟨[], none⟩ (.ok (none, moved))
  | failed {failure : Failure} : Sweeps medium volume visit last ⟨[], some failure⟩ (.error failure)

/-- A sweep with a ready cursor goes along what the cursor has ahead, up to the first slot
that the visitor answers. The induction is on the slots that are left. -/
theorem sweep_sweeps (visit : SlotPosition → Slot → Option β) (ready : cursor.Ready medium volume) :
    ∃ ending, Reads (cursor.alongside (sweep volume visit)) medium ending ∧
      Sweeps medium volume visit (cursor.lastCluster medium volume) (cursor.ahead medium volume)
        ending := by
  generalize course : cursor.ahead medium volume = slots
  obtain ⟨items, ending⟩ := slots
  -- Along the slots ahead: each is answered for or passed, and the sweep goes on behind it.
  induction items generalizing cursor with
  | nil =>
    obtain ⟨answer, reads, follows⟩ := nextSlot_follows ready
    rw [sweep_eq]
    rw [course] at follows
    cases follows with
    | ended stillReady done stands =>
      exact ⟨_, .walk reads (Performs.pure _), .ended stillReady done stands⟩
    | failed => exact ⟨_, .walk_error reads, .failed⟩
  | cons item rest inductionHypothesis =>
    obtain ⟨answer, reads, follows⟩ := nextSlot_follows ready
    rw [sweep_eq]
    rw [course] at follows
    cases follows with
    | @yielded _ _ _ moved stillReady remains leads =>
      obtain ⟨position, slot⟩ := item
      cases visited : visit position slot with
      | some answer =>
        refine ⟨.ok (some answer, moved), .walk reads ?_, .answered visited stillReady remains⟩
        dsimp only
        rw [visited]
        exact Performs.pure _
      | none =>
        obtain ⟨result, sweptOn, sweeps⟩ := inductionHypothesis stillReady remains
        rw [leads] at sweeps
        refine ⟨result, .walk reads ?_, .passed visited sweeps⟩
        dsimp only
        rw [visited]
        exact sweptOn

/-! ## Started cursors -/

/-- A started cursor is ready, and has the slots of its directory ahead. So everything
about walks applies to directories. -/
theorem start_ready (medium : Medium) {directory : Directory}
    (started : start volume directory = .ok cursor) :
    cursor.Ready medium volume ∧ cursor.ahead medium volume = medium.slots volume directory := by
  cases directory with
  | root =>
    cases started
    exact ⟨.of_held_none (by simp), rfl⟩
  | chain first =>
    cases checked : volume.checkCluster first with
    | error failure =>
      rw [start, checked] at started
      cases started
    | ok _ =>
      rw [start, checked] at started
      cases started
      refine ⟨.of_held_none ?_, ?_⟩
      · rintro _ _ _ _ ⟨⟩
        exact .inr volume.usable.sectorsPerCluster_pos
      · rw [Medium.slots, checked, ahead, if_neg Bool.false_ne_true]
        dsimp only
        rw [Course.flatMap_behind, List.flatMap_singleton, Medium.clusterSlots,
          Medium.slotsFrom_inside volume.usable.sectorsPerCluster_pos]
        rfl

/-- A cursor that could not be started leaves its failure in place of the slots: there are
none, and the course ends in it. -/
theorem slots_of_start_error (medium : Medium) {directory : Directory} {failure : Failure}
    (failed : start volume directory = .error failure) :
    medium.slots volume directory = ⟨[], some failure⟩ := by
  cases directory with
  | root => cases failed
  | chain first =>
    cases checked : volume.checkCluster first with
    | error cause =>
      rw [start, checked] at failed
      cases failed
      rw [Medium.slots, checked]
    | ok _ =>
      rw [start, checked] at failed
      cases failed

end Cursor

end FatVolume
