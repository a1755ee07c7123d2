import FatVolume.Proofs.Completion

/-!
# Formatted volumes

A volume whose root region holds nothing but zero bytes has an empty tree, whatever stands
in its table and in its clusters, and is orderly. Where the table holds nothing but zero
bytes as well, every cluster is free. A root region with a single file in it, the chain of
which is intact, is no less orderly.
-/

namespace FatVolume

namespace Medium

/-- The root region holds nothing but zero bytes. -/
def BlankRoot (medium : Medium) (volume : Volume) : Prop :=
  ∀ lba, volume.InRoot lba → medium lba = Sector.zero

/-- The table copies hold nothing but zero bytes. -/
def BlankTable (medium : Medium) (volume : Volume) : Prop :=
  ∀ lba, volume.tableStart ≤ lba → lba < volume.rootStart → medium lba = Sector.zero

/-- The root holds no directories, except for entries that refer back. -/
def Flat (medium : Medium) (volume : Volume) : Prop :=
  ∀ item ∈ (medium.entries volume .root).items, item.2.isDirectory = true → item.2.isDot = true

variable {medium : Medium} {volume : Volume}

/-- Nothing but the root is reached on a volume whose root holds no directories: the first
step down would lead through one. -/
theorem Flat.reachable (flat : medium.Flat volume) {directory : Directory}
    (reachable : medium.Reachable volume directory) : directory = .root := by
  induction reachable with
  | root => rfl
  | child above member isDirectory named inductionHypothesis =>
    rw [inductionHypothesis] at member
    rw [flat _ member isDirectory] at named
    cases named

section

variable (empty : (medium.entries volume .root).items = [])
include empty

/-- A root without entries holds no directories, so that nothing below it can be reached. -/
theorem flat_of_empty : medium.Flat volume := by
  intro item member
  rw [empty] at member
  cases member

/-- Where the root has no entries, no directory that is reached has any, for the root is the
only one. -/
theorem no_entry_of_empty {directory : Directory} (reachable : medium.Reachable volume directory)
    {item : SlotPosition × Entry} : item ∉ (medium.entries volume directory).items := by
  rw [(flat_of_empty empty).reachable reachable, empty]
  exact List.not_mem_nil

/-- On a volume whose root has no entries, no cluster is part of the tree, whatever the
table says of it. -/
theorem not_used_of_empty (cluster : Nat) : ¬ medium.Used volume cluster := by
  rintro ⟨_, _, ⟨_, reachable, member, _⟩, _⟩
  exact no_entry_of_empty empty reachable member

end

namespace BlankRoot

variable (blank : medium.BlankRoot volume)
include blank

/-- Every slot of the root is an end marker where the root region holds nothing but zero
bytes. -/
theorem slots {slot : SlotPosition × Slot} (member : slot ∈ medium.rootSlots volume) :
    slot.2 = .endMarker := by
  obtain ⟨stands, inside⟩ := mem_rootSlots member
  rw [stands, slotAt]
  dsimp only
  rw [blank _ inside, Slot.decode_zero]

/-- The root has no entries where its region holds nothing but zero bytes, and reading
them ends without a failure. -/
theorem entries : medium.entries volume .root = ⟨[], none⟩ :=
  liveEntries_blank fun _ member => blank.slots member

/-- No entry is read from the root where its region holds nothing but zero bytes. -/
theorem empty : (medium.entries volume .root).items = [] := congrArg Course.items blank.entries

/-- On a formatted volume the root is the only directory that is reached. -/
theorem reachable {directory : Directory} (reachable : medium.Reachable volume directory) :
    directory = .root := (flat_of_empty blank.empty).reachable reachable

/-- On a formatted volume no directory that is reached has any entry. -/
theorem no_entry {directory : Directory} (reachable : medium.Reachable volume directory)
    {item : SlotPosition × Entry} : item ∉ (medium.entries volume directory).items :=
  no_entry_of_empty blank.empty reachable

/-- A formatted volume is orderly: there are no entries that could share a name, and no
directories that could be laid out wrongly. -/
theorem orderly : medium.Orderly volume where
  intact := fun _ ⟨_, reachable, member, _⟩ => (blank.no_entry reachable member).elim
  disjoint := fun _ _ ⟨_, reachable, member, _⟩ => (blank.no_entry reachable member).elim
  ended directory reachable := by
    rw [blank.reachable reachable]
    exact List.pairwise_of_forall_mem_list fun _ _ slot member _ => blank.slots member
  named directory reachable := by
    rw [blank.reachable reachable, blank.entries]
    exact .nil
  framed _ _ reachable member := (blank.no_entry reachable member).elim

end BlankRoot

/-- The link of every data cluster is free in each copy of a table that holds nothing but
zero bytes. -/
theorem BlankTable.linkIn (blank : medium.BlankTable volume) {copy cluster : Nat}
    (data : volume.DataCluster cluster) (stored : copy < volume.tableCopies) :
    medium.linkIn volume copy cluster = 0 := by
  have above := (Layout.linkSector_in_copy copy data).1
  have below := Layout.linkSector_lt_rootStart data stored
  rw [Medium.linkIn, blank _ (by omega) below]
  simp [Sector.word, Sector.zero, LittleEndian.word]

/-- The link of every data cluster is read as free from a table that holds nothing but
zero bytes. -/
theorem BlankTable.link (blank : medium.BlankTable volume) {cluster : Nat}
    (data : volume.DataCluster cluster) : medium.link volume cluster = 0 := by
  have first := blank.linkIn data volume.usable.tableCopies_pos
  rw [Medium.link, first]
  split
  · rfl
  next several =>
    exact blank.linkIn data (Nat.not_lt.mp fun few => several (.inr few))

/-- The first data cluster is the lowest free one of a volume whose table holds nothing
but zero bytes. -/
theorem BlankTable.firstFree (blank : medium.BlankTable volume) :
    medium.firstFree volume = some 2 := by
  have data : volume.DataCluster 2 := ⟨le_rfl, volume.usable.two_le_maxCluster⟩
  have populated : 0 < volume.clusterCount := Nat.sub_pos_of_lt data.2
  obtain ⟨rest, counted⟩ := Nat.exists_eq_add_one.mpr populated
  rw [Medium.firstFree, counted, List.range'_succ,
    List.find?_cons_of_pos (by rw [blank.link data]; rfl)]

/-- The root region holds one file, the chain of which is intact, and end markers behind it. -/
structure LoneFile (medium : Medium) (volume : Volume) (item : SlotPosition × Entry)
    (clusters : List Nat) : Prop where
  first : (medium.rootSlots volume).head? = some (item.1, .live item.2)
  rest : ∀ slot ∈ (medium.rootSlots volume).tail, slot.2 = .endMarker
  file : item.2.isDirectory = false
  stores : medium.Stores volume item clusters
  distinct : clusters.Nodup

namespace LoneFile

variable {item : SlotPosition × Entry} {clusters : List Nat}
  (lone : medium.LoneFile volume item clusters)
include lone

/-- The slots of the root begin with that of the only file, and all others follow it. -/
theorem slots : medium.rootSlots volume =
    (item.1, .live item.2) :: (medium.rootSlots volume).tail :=
  (List.cons_head?_tail lone.first).symm

/-- The entry of the only file is the one entry of the root, and reading the root ends
without a failure. -/
theorem entries : medium.entries volume .root = ⟨[item], none⟩ := by
  rw [Medium.entries, slots_root, lone.slots, Course.entries, liveEntries,
    liveEntries_blank lone.rest]
  rfl

/-- The slot of the only file stands in front of every end marker of the root, and no slot
behind an end marker holds an entry. -/
theorem ended : Ended (medium.slots volume .root).items := by
  rw [slots_root, Ended, lone.slots, List.pairwise_cons]
  constructor
  · intro _ _ marks
    cases marks
  · exact List.pairwise_of_forall_mem_list fun _ _ slot member _ => lone.rest slot member

/-- Every entry of the root is that of the only file. -/
theorem eq_of_mem {other : SlotPosition × Entry}
    (member : other ∈ (medium.entries volume .root).items) : other = item := by
  rw [lone.entries] at member
  exact List.mem_singleton.mp member

/-- A root that holds a single file holds no directories, so that nothing below it can be
reached. -/
theorem flat : medium.Flat volume := by
  intro other member isDirectory
  rw [lone.eq_of_mem member, lone.file] at isDirectory
  cases isDirectory

/-- The entry of the only file is the only one in the tree that can have a chain of its
own. -/
theorem owner {other : SlotPosition × Entry} (owner : medium.Owner volume other) :
    other = item := by
  obtain ⟨directory, reachable, member, _⟩ := owner
  rw [lone.flat.reachable reachable] at member
  exact lone.eq_of_mem member

/-- A volume with a single file in its root is orderly: there is one chain, and no directory
that would have to refer to itself and to its parent. -/
theorem orderly : medium.Orderly volume where
  intact other owner := by
    rw [lone.owner owner]
    exact ⟨clusters, lone.stores, lone.distinct⟩
  disjoint other another owner owner' different := by
    rw [lone.owner owner, lone.owner owner'] at different
    exact absurd rfl different
  ended directory reachable := by
    rw [lone.flat.reachable reachable]
    exact lone.ended
  named directory reachable := by
    rw [lone.flat.reachable reachable, lone.entries]
    exact List.pairwise_singleton _ _
  framed parent other reachable member isDirectory := by
    rw [lone.flat.reachable reachable] at member
    rw [lone.eq_of_mem member, lone.file] at isDirectory
    cases isDirectory

end LoneFile

end Medium

/-- A host with a disk to which nothing has been written, and which fails as planned. -/
def Host.untouched (capacity largestBlock : Nat) (plan : FaultPlan) : Host where
  disk := { capacity, faults := plan.oracle {} }
  largestBlock := largestBlock

namespace Host

variable {volume : Volume} {capacity largestBlock : Nat} {plan : FaultPlan}

/-- Every sector of an untouched disk is read as zero bytes, whatever its capacity and
whichever failures are planned for it. -/
theorem untouched_medium (lba : Nat) :
    (untouched capacity largestBlock plan).medium lba = Sector.zero := by
  simp only [Host.medium, untouched, Disk.sector]
  exact Std.TreeMap.getD_emptyc

/-- On an untouched disk the root region of every volume holds nothing but zero bytes. -/
theorem untouched_blankRoot : (untouched capacity largestBlock plan).medium.BlankRoot volume :=
  fun lba _ => untouched_medium lba

/-- On an untouched disk the table copies of every volume hold nothing but zero bytes. -/
theorem untouched_blankTable : (untouched capacity largestBlock plan).medium.BlankTable volume :=
  fun lba _ _ => untouched_medium lba

/-- An untouched disk for which no failures are planned serves every volume that ends
within its capacity. -/
theorem untouched_serves (reaches : volume.dataEnd ≤ capacity) :
    (untouched capacity largestBlock {}).Serves volume where
  sized := rfl
  reached _ owned := Nat.lt_of_lt_of_le owned.lt_dataEnd reaches
  granted _ transfer _ := by cases transfer <;> rfl

end Host

/-- The entry of a file of 1500 bytes with a name of one letter. -/
def fileEntry : Entry where
  name := (Vector.replicate 11 0x20).setIfInBounds 0 0x41
  attributes := 0
  cluster := 2
  size := 1500

/-- A host with a disk of twenty sectors on which a file of 1500 bytes lies in clusters 2
and 5. The bytes of the first cluster are letters `a`, and those of the second are letters `b`. -/
def fileHost : Host where
  disk :=
    let table := (Sector.zero.setWord (Layout.linkIndex 2) 5).setWord (Layout.linkIndex 5) 0xFFFF
    let tables := (({ capacity := 20 : Disk }.setSector 1 table).setSector 2 table)
    let named := tables.setSector 3 (Sector.zero.setRecord 0 fileEntry.encode)
    ((named.setSector 4 (.replicate 512 0x61)).setSector 5 (.replicate 512 0x61)).setSector 10
      (.replicate 512 0x62)
  largestBlock := 4096

/-- The disk with the file serves the small volume: all of its sectors lie within the
capacity, and no transfer is refused. -/
theorem fileHost_serves : fileHost.Serves .small :=
  .of_capacity rfl (by decide) fun _ _ => rfl

/-- On the disk with the file, the sector of the root region holds the record of the file
in its first slot and zero bytes behind it. -/
theorem fileHost_root : fileHost.medium 3 = Sector.zero.setRecord 0 fileEntry.encode := by
  simp only [Host.medium, fileHost, Disk.sector_setSector]
  rfl

/-- The file is all that the root of its disk holds, and its links lead from the first of its
two clusters to the second and end there. -/
theorem fileHost_loneFile : fileHost.medium.LoneFile .small (⟨3, 0⟩, fileEntry) [2, 5] where
  first := by
    change some (fileHost.medium.slotAt ⟨3, 0⟩) = _
    rw [Medium.slotAt, fileHost_root, Sector.record_setRecord_self, Slot.decode_encode]
    constructor <;> decide
  rest := by
    intro slot member
    have others : (fileHost.medium.rootSlots .small).tail = (List.range' 1 15).map fun taken =>
        fileHost.medium.slotAt ⟨3 + taken / 16, taken % 16, Medium.slotIndex_lt taken⟩ := rfl
    rw [others] at member
    obtain ⟨taken, counted, rfl⟩ := List.mem_map.mp member
    rw [List.mem_range'_1] at counted
    have inside : 3 + taken / 16 = 3 := by omega
    have other : (⟨taken % 16, Medium.slotIndex_lt taken⟩ : Fin 16) ≠ 0 := by
      intro same
      have first : taken % 16 = 0 := congrArg Fin.val same
      omega
    simp only [Medium.slotAt, inside, fileHost_root]
    rw [Sector.record_setRecord_other _ _ _ _ other, Slot.decode_zero]
  file := rfl
  stores := by
    have led : (fileHost.medium.link .small 2).toNat = 5 := by decide +kernel
    have ends : Link.endsChain (fileHost.medium.link .small 5) = true := by decide +kernel
    exact .next ⟨by decide, by decide⟩ led (.last ⟨by decide, by decide⟩ ends)
  distinct := by decide

end FatVolume
