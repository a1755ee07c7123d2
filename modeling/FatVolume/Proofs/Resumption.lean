import FatVolume.Proofs.Formatted
import FatVolume.Proofs.Repetition

/-!
# Asking again after a failure

A cursor that was refused a sector of its directory can be asked again: leaving out the
failures of the disk, its answers are those of a cursor that is refused nothing, up to the
first other failure. This holds for every pattern of refusals that spares the table copies,
and for the root, where no table is read, for every pattern whatsoever.

Where a sector of a table copy is refused to a cursor in a chain, the cursor is left behind
the last sector of its cluster, and the next slot it yields is that of the sector which
follows the cluster on the disk. So is the slot it yields after it has told of a broken
chain.
-/

namespace FatVolume

variable {α : Type}

namespace Medium

variable (medium : Medium) (volume : Volume)

/-- The links lead from one cluster to another, over any number of clusters. -/
def LeadsTo (first last : Nat) : Prop :=
  Relation.ReflTransGen
    (fun cluster successor => medium.follow volume cluster = .ok (some successor)) first last

/-- The sector belongs to the root region, or to a cluster that the links of a directory
lead to, whether its chain is intact or not. -/
def Spans : Directory → Nat → Prop
  | .root, lba => volume.InRoot lba
  | .chain first, lba =>
    ∃ cluster, medium.LeadsTo volume first cluster ∧ volume.InCluster cluster lba

variable {medium volume}

/-- Every cluster that a course of links meets is one that the links lead to from the
first cluster. -/
theorem beyond_leadsTo {cluster : Nat} (links : Nat) :
    ∀ later ∈ (medium.beyond volume links cluster).items, medium.LeadsTo volume cluster later := by
  induction links generalizing cluster with
  | zero =>
    rw [beyond]
    split <;> simp
  | succ links inductionHypothesis =>
    rw [beyond]
    split
    · simp
    · simp
    · next successor followed =>
      intro later member
      rcases List.mem_cons.mp member with rfl | behind
      · exact .single followed
      · exact .head followed (inductionHypothesis later behind)

/-- A slot of a directory is what the medium holds at its position, which lies in a sector
that the directory spans. -/
theorem mem_slots_spans {directory : Directory} {item : SlotPosition × Slot}
    (member : item ∈ (medium.slots volume directory).items) :
    item = medium.slotAt item.1 ∧ medium.Spans volume directory item.1.lba := by
  cases directory with
  | root => exact mem_rootSlots member
  | chain first =>
    simp only [slots] at member
    split at member
    · cases member
    · obtain ⟨cluster, met, inside⟩ := List.mem_flatMap.mp member
      obtain ⟨stands, within⟩ := mem_clusterSlots inside
      refine ⟨stands, cluster, ?_, within⟩
      rcases List.mem_cons.mp met with rfl | behind
      · exact .refl
      · exact beyond_leadsTo _ cluster behind

/-- The sectors that a directory spans all lie behind the table copies. -/
theorem Spans.rootStart_le {directory : Directory} {lba : Nat}
    (spans : medium.Spans volume directory lba) : volume.rootStart ≤ lba := by
  cases directory with
  | root => exact spans.bounds.1
  | chain first =>
    obtain ⟨_, _, inside⟩ := spans
    exact Nat.le_trans volume.rootStart_le_dataStart inside.dataStart_le

/-- From the first cluster of an intact chain, the links lead to no cluster but those of
the chain. -/
theorem ChainFrom.leadsTo {first cluster : Nat} {clusters : List Nat}
    (chain : medium.ChainFrom volume first clusters) (leads : medium.LeadsTo volume first cluster) :
    cluster ∈ clusters := by
  -- From the first cluster on, each link is the one that the chain takes.
  induction leads using Relation.ReflTransGen.head_induction_on generalizing clusters with
  | refl => exact chain.first_mem
  | head followed _ inductionHypothesis =>
    cases chain with
    | last data ends =>
      rw [follow_of_ends ends] at followed
      cases followed
    | next data linked rest =>
      rw [follow_of_linked rest.first_data linked] at followed
      cases followed
      exact List.mem_cons_of_mem _ (inductionHypothesis rest)

end Medium

namespace Cursor

variable {medium : Medium} {volume : Volume} {directory : Directory} {cursor : Cursor}

/-- From every host with the medium, whatever it refuses but table copies to a chain, the
answers of a cursor tell a course once the failures of the disk are left out. Where nothing
is refused, there are none to leave out. -/
def Tells (medium : Medium) (volume : Volume) (directory : Directory) (cursor : Cursor)
    (ask : WalkM (Option α)) (course : Course α) : Prop :=
  ∀ (host : Host) (count : Nat), host.medium = medium → host.disk.sectorSize = 512 →
    (directory ≠ .root → host.Spared (Event.RefusesLink volume.toLayout)
      (afterwards (requests ask count) ⟨cursor, host⟩).host) →
    ∃ answers, outcome (requests ask count) ⟨cursor, host⟩ = .ok answers ∧
      answers.length = count ∧
      course.told (settled answers).length <+: settled answers ∧
      (host.Undisturbed (afterwards (requests ask count) ⟨cursor, host⟩).host →
        course.told count <+: answers)

/-- Requests that can be repeated tell what the cursor has ahead from every host, once the
failures of the disk are left out. -/
theorem Resumable.tells {chained : Bool} {kept : Cursor → Prop} {ahead : Cursor → Course α}
    {ask : WalkM (Option α)} {course : Course α}
    (resumable : Resumable medium volume chained kept ahead ask) (adds : OnlyAdds ask)
    (begun : kept cursor) (stands : ahead cursor = course)
    (breaks : course.ending = none ∨ course.ending = some .brokenChain)
    (inChain : chained = true → directory ≠ .root) :
    cursor.Tells medium volume directory ask course := by
  intro host count holds sized spared
  have started : (Walk.mk cursor host).host.medium = medium := holds
  obtain ⟨answers, answered, counted, resumes⟩ :=
    resumable.resumes adds count started sized begun fun chain => spared (inChain chain)
  rw [stands] at resumes
  have broken (failure : Failure) (ends : course.ending = some failure) : ¬ failure.OfDisk := by
    rcases breaks with whole | breaks
    · rw [whole] at ends
      cases ends
    · rw [breaks] at ends
      cases ends
      exact fun impossible => nomatch impossible
  refine ⟨answers, answered, counted, resumes.settled broken, fun undisturbed => ?_⟩
  rw [← counted]
  exact resumes.told (not_not_intro undisturbed)

/-- The slots of a directory at which a cursor can be started come to an end, or break off
at a broken chain. -/
theorem start_ending (medium : Medium) (started : start volume directory = .ok cursor) :
    (medium.slots volume directory).ending = none ∨
      (medium.slots volume directory).ending = some .brokenChain := by
  cases directory with
  | root => exact .inl rfl
  | chain first =>
    simp only [start] at started
    obtain ⟨_, checked, _⟩ := ok_of_bind started
    simp only [Medium.slots]
    rw [checked]
    exact Medium.beyond_ending _ first

/-- A cursor that has just been started stands in the first cluster of a chain, or in none
if it is over the root region. -/
theorem start_cluster (started : start volume directory = .ok cursor) :
    cursor.cluster? = match directory with
      | .root => none
      | .chain first => some first := by
  cases directory with
  | root =>
    cases started
    rfl
  | chain first =>
    simp only [start] at started
    obtain ⟨_, _, same⟩ := ok_of_bind started
    cases same
    rfl

/-- The entries of some slots come to an end or break off at a broken chain, if the slots
do so. -/
theorem entriesOf_ending {slots : Course (SlotPosition × Slot)}
    (breaks : slots.ending = none ∨ slots.ending = some .brokenChain) :
    (entriesOf slots).ending = none ∨ (entriesOf slots).ending = some .brokenChain := by
  obtain ⟨items, ending⟩ := slots
  change (liveEntries ending items).ending = none ∨ (liveEntries ending items).ending = _
  fun_induction liveEntries ending items with
  | case1 => exact breaks
  | case2 => exact .inl rfl
  | case3 position entry rest inductionHypothesis | case4 position rest inductionHypothesis
  | case5 position rest inductionHypothesis | case6 position rest inductionHypothesis =>
    exact inductionHypothesis breaks

/-! ## Behind the last sector of a cluster -/

/-- A cursor that is left behind the last sector of its cluster yields a slot of the sector
that follows there, which is none of the cluster. -/
theorem nextSlot_leftBehind (medium : Medium) (volume : Volume) (cluster hops : Nat) :
    let behind : Place := .chain cluster volume.sectorsPerCluster 0 hops
    let position : SlotPosition := ⟨volume.clusterStart cluster + volume.sectorsPerCluster, 0⟩
    (∃ moved, Reads ((Cursor.mk behind none false).alongside (nextSlot volume)) medium
      (.ok (some (medium.slotAt position), moved))) ∧
      ¬ volume.InCluster cluster position.lba := by
  constructor
  · let behind : Cursor := ⟨.chain cluster volume.sectorsPerCluster 0 hops, none, false⟩
    have taken : Reads (behind.alongside
        (take ⟨volume.clusterStart cluster + volume.sectorsPerCluster, 0⟩
          (.chain cluster volume.sectorsPerCluster 1 hops))) medium _ :=
      take_reads _ _ (by simp [behind])
    exact ⟨_, .walk_get fun host => .walk_lift (Volume.clusterAddress_reads _ _) taken⟩
  · rintro ⟨sector, inside, same⟩
    dsimp only at same
    omega

/-! ## Started cursors -/

/-- A started cursor tells the slots of its directory, or the entries among them, through
all refusals that spare the table copies; and all these slots stand in the directory. -/
theorem start_tells (medium : Medium) (started : start volume directory = .ok cursor) :
    cursor.Tells medium volume directory (nextSlot volume) (medium.slots volume directory) ∧
      cursor.Tells medium volume directory (next volume)
        (entriesOf (medium.slots volume directory)) ∧
      ∀ item ∈ (medium.slots volume directory).items,
        item = medium.slotAt item.1 ∧ medium.Spans volume directory item.1.lba := by
  have poised := start_poised medium started
  have ahead := (start_ready medium started).2
  have breaks := start_ending medium started
  have inChain (chain : cursor.cluster?.isSome = true) : directory ≠ .root := by
    rintro rfl
    rw [start_cluster started] at chain
    cases chain
  refine ⟨?_, ?_, fun item => Medium.mem_slots_spans⟩
  · refine (nextSlot_resumable medium volume (cursor.lastCluster medium volume)).tells
      (nextSlot_onlyAdds volume) ⟨poised, rfl⟩ ahead breaks ?_
    rw [lastCluster_isSome]
    exact inChain
  · exact (next_resumable medium volume cursor.cluster?.isSome).tells (next_onlyAdds volume)
      ⟨poised, rfl⟩ (congrArg entriesOf ahead) (entriesOf_ending breaks) inChain

/-- A host with a disk of twenty sectors on which cluster 2 ends a chain, and which refuses
some transfers. -/
def chainHost (faults : Tally → Transfer → Option DiskError) : Host where
  disk :=
    { capacity := 20
      contents := (∅ : Std.TreeMap Nat Sector).insert 1 (Sector.zero.setWord (Layout.linkIndex 2) 0xFFFF)
      faults }
  largestBlock := 4096

/-- On the disk with a single cluster the chain from that cluster consists of it alone,
whatever is refused. -/
theorem chainHost_chain (faults : Tally → Transfer → Option DiskError) :
    (chainHost faults).medium.ChainFrom .small 2 [2] :=
  have ends : Link.endsChain ((chainHost fun _ _ => none).medium.link .small 2) = true := by
    decide +kernel
  .last ⟨by decide, by decide⟩ ends

/-- A cursor before the first slot of that chain. -/
def chainCursor : Cursor where
  place := .chain 2 0 0 0

/-- The cursor at the first slot of that chain is the one with which a walk along it is
started. -/
theorem chainCursor_started : start .small (.chain 2) = .ok chainCursor := by
  rw [start, (Layout.checkCluster_ok_iff 2).mpr ⟨by decide, by decide⟩]
  rfl

/-- The second sector of the chain is refused twice. -/
def sectorFaults (tally : Tally) (transfer : Transfer) : Option DiskError :=
  if transfer.lba = 5 ∧ tally.refused < 2 then some .device else none

/-- Where the first two reads of a sector are refused, all slots of the chain are told
nevertheless, each once, and then the end. -/
theorem start_tells_small :
    start .small (.chain 2) = .ok chainCursor ∧
      ∃ answers, outcome (requests (nextSlot .small) 35) ⟨chainCursor, chainHost sectorFaults⟩ =
          .ok answers ∧ answers.length = 35 ∧
        ((chainHost sectorFaults).medium.slots .small (.chain 2)).told (settled answers).length <+:
          settled answers := by
  have spared : (chainHost sectorFaults).Spared (Event.RefusesLink Volume.small.toLayout)
      (afterwards (requests (nextSlot .small) 35) ⟨chainCursor, chainHost sectorFaults⟩).host :=
    .of_trace (requests_onlyAdds (nextSlot_onlyAdds .small) 35 _) (by decide +kernel)
  obtain ⟨answers, answered, counted, told, _⟩ :=
    (start_tells (chainHost sectorFaults).medium chainCursor_started).1 _ 35 rfl rfl fun _ => spared
  exact ⟨chainCursor_started, answers, answered, counted, told⟩

/-- The third read is refused once. -/
def linkFault (tally : Tally) (_ : Transfer) : Option DiskError :=
  if tally.reads = 2 ∧ tally.refused = 0 then some .device else none

/-- Where the link behind the chain is refused, the cursor goes on with a slot of the cluster
that follows on the disk, instead of telling that there are no more. -/
theorem linkFault_strays :
    let host := chainHost linkFault
    start .small (.chain 2) = .ok chainCursor ∧ host.medium.ChainFrom .small 2 [2] ∧
      ∃ answers, outcome (requests (nextSlot .small) 34) ⟨chainCursor, host⟩ = .ok answers ∧
        answers.drop 32 = [.error (.transfer .device), .ok (some (⟨6, 0⟩, .endMarker))] ∧
        ((host.medium.slots .small (.chain 2)).told 34).drop 32 = [.ok none, .ok none] ∧
        ¬ host.medium.Spans .small (.chain 2) 6 := by
  have chain := chainHost_chain linkFault
  obtain ⟨answers, answered, _⟩ :=
    requests_answered (nextSlot .small) 34 ⟨chainCursor, chainHost linkFault⟩
  have last : (outcome (requests (nextSlot .small) 34)
      ⟨chainCursor, chainHost linkFault⟩).toOption.map (·.drop 32) =
        some [.error (.transfer .device), .ok (some (⟨6, 0⟩, .endMarker))] := by
    decide +kernel
  rw [answered] at last
  refine ⟨chainCursor_started, chain, answers, answered, Option.some.inj last, ?_, ?_⟩
  · rw [chain.slots (List.nodup_singleton 2)]
    rfl
  · rintro ⟨cluster, leads, sector, inside, same⟩
    obtain rfl := List.mem_singleton.mp (chain.leadsTo leads)
    change 6 = 4 + sector at same
    change sector < 2 at inside
    omega

end Cursor

end FatVolume
