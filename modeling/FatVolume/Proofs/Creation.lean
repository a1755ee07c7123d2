import FatVolume.Directory.Creation
import FatVolume.Proofs.Entries
import FatVolume.Proofs.LinkWrites

/-!
# What creating a directory performs

The creation of a directory is followed on the medium from step to step: the search for a
vacant name, the claim of a free slot with the growth of a full chain, the claim of a
cluster, its filling, and the entry. `Creates` lists the ways in which it can end, each
with the writes that were carried out until then. Every write has a place in that list
that does not depend on the disk.
-/

namespace FatVolume

namespace Performs

variable {medium : Medium} {α : Type}

/-- A loop carries out one write for each element, in the order of the elements, whatever
the earlier ones have written. -/
theorem forM_writes {body : α → HostM Unit} {write : α → Write} (values : List α)
    (writes : ∀ value ∈ values, ∀ current : Medium,
      Performs (body value) current (.ok ()) [write value]) :
    Performs (values.forM body) medium (.ok ()) (values.map write) := by
  induction values generalizing medium with
  | nil => exact .pure ()
  | cons first rest inductionHypothesis =>
    exact (writes first List.mem_cons_self medium).bind
      (inductionHypothesis fun value member => writes value (List.mem_cons_of_mem _ member))

end Performs

namespace Volume

variable (volume : Volume)

/-- The writes that fill a cluster with zero bytes. -/
def zeroWrites (cluster : Nat) : List Write :=
  (List.range volume.sectorsPerCluster).map fun sector =>
    ⟨volume.clusterStart cluster + sector, Sector.zero⟩

/-- The writes that make a cluster an empty directory. -/
def initialWrites (cluster : Nat) (parent : Directory) : List Write :=
  volume.zeroWrites cluster ++ [⟨volume.clusterStart cluster + 0, firstSector cluster parent⟩]

end Volume

/-- The first free slot of a course; none where the slots end before. -/
def Course.freeSlot (course : Course (SlotPosition × Slot)) : Except Failure (Option SlotPosition) :=
  match course.items.find? fun item => item.2.isFree with
  | some item => .ok (some item.1)
  | none =>
    match course.ending with
    | some failure => .error failure
    | none => .ok none

namespace Medium

variable (medium : Medium) (volume : Volume)

/-- The cluster in which the course of a chain comes to its end. -/
def lastCluster (first : Nat) : Nat :=
  (medium.beyond volume (volume.clusterCount - 1) first).items.getLastD first

/-- The writes that claim a cluster and fill it with zero bytes. -/
def freshWrites (cluster : Nat) : List Write :=
  medium.linkWrites volume cluster Link.endMark volume.tableCopies ++ volume.zeroWrites cluster

/-- The writes that put a fresh cluster behind the last cluster of a chain. -/
def growthWrites (last added : Nat) : List Write :=
  medium.freshWrites volume added ++
    (medium.apply (medium.freshWrites volume added)).linkWrites volume last (UInt16.ofNat added)
      volume.tableCopies

/-- The writes that claim a cluster and make it an empty directory. -/
def preparationWrites (cluster : Nat) (parent : Directory) : List Write :=
  medium.linkWrites volume cluster Link.endMark volume.tableCopies ++
    volume.initialWrites cluster parent

/-- The write that puts an entry into a slot. -/
def entryWrite (position : SlotPosition) (entry : Entry) : Write :=
  ⟨position.lba, (medium position.lba).setRecord position.index entry.encode⟩

/-- The writes that create a directory, where its slot is claimed. -/
def insertionWrites (parent : Directory) (name : RawName) (position : SlotPosition)
    (cluster : Nat) : List Write :=
  medium.preparationWrites volume cluster parent ++
    [(medium.apply (medium.preparationWrites volume cluster parent)).entryWrite position
      (Entry.directory name cluster)]

/-- The parent and the short name of a path that names nothing yet. -/
def vacancy (path : List Char) : Except Failure (Directory × RawName) :=
  match medium.resolve volume path with
  | .ok _ => .error .alreadyExists
  | .error .notFound =>
    match Path.splitLeaf path with
    | none => .error .alreadyExists
    | some (front, leaf) => do
      let parent ← (← medium.resolve volume front).directory
      return (parent, ← ShortName.encode leaf)
  | .error failure => .error failure

/-- How the claim of a slot ends, and its writes. -/
inductive Claims : Directory → Except Failure SlotPosition → List Write → Prop
  | found {directory : Directory} {position : SlotPosition}
      (free : (medium.slots volume directory).freeSlot = .ok (some position)) :
      Claims directory (.ok position) []
  | grown {first added : Nat} (full : (medium.slots volume (.chain first)).freeSlot = .ok none)
      (free : medium.firstFree volume = some added) :
      Claims (.chain first) (.ok ⟨volume.clusterStart added + 0, 0⟩)
        (medium.growthWrites volume (medium.lastCluster volume first) added)
  | rootFull (full : (medium.slots volume .root).freeSlot = .ok none) :
      Claims .root (.error .directoryFull) []
  | exhausted {first : Nat} (full : (medium.slots volume (.chain first)).freeSlot = .ok none)
      (none : medium.firstFree volume = none) : Claims (.chain first) (.error .noSpace) []
  | broken {directory : Directory} {failure : Failure}
      (breaks : (medium.slots volume directory).freeSlot = .error failure) :
      Claims directory (.error failure) []

/-- How the creation of a directory ends, and its writes. -/
inductive Creates (path : List Char) : Except Failure Nat → List Write → Prop
  | refused {failure : Failure} (taken : medium.vacancy volume path = .error failure) :
      Creates path (.error failure) []
  | unclaimed {parent : Directory} {name : RawName} {failure : Failure} {writes : List Write}
      (vacant : medium.vacancy volume path = .ok (parent, name))
      (claimed : medium.Claims volume parent (.error failure) writes) :
      Creates path (.error failure) writes
  | exhausted {parent : Directory} {name : RawName} {position : SlotPosition}
      {writes : List Write} (vacant : medium.vacancy volume path = .ok (parent, name))
      (claimed : medium.Claims volume parent (.ok position) writes)
      (none : (medium.apply writes).firstFree volume = none) :
      Creates path (.error .noSpace) writes
  | created {parent : Directory} {name : RawName} {position : SlotPosition}
      {writes : List Write} {cluster : Nat}
      (vacant : medium.vacancy volume path = .ok (parent, name))
      (claimed : medium.Claims volume parent (.ok position) writes)
      (free : (medium.apply writes).firstFree volume = some cluster) :
      Creates path (.ok cluster)
        (writes ++ (medium.apply writes).insertionWrites volume parent name position cluster)

variable {medium volume}

/-- The last cluster of a chain that can be walked is a data cluster, so the chain can be
extended there. -/
theorem lastCluster_data {first : Nat} (data : volume.DataCluster first) :
    volume.DataCluster (medium.lastCluster volume first) := by
  simp only [lastCluster]
  rcases List.eq_nil_or_concat (medium.beyond volume (volume.clusterCount - 1) first).items with
    none | ⟨front, last, ends⟩
  · rw [none]
    exact data
  · have member : last ∈ (medium.beyond volume (volume.clusterCount - 1) first).items →
        volume.DataCluster last := beyond_data _ last
    rw [ends] at member ⊢
    rw [List.concat_eq_append, List.getLastD_concat]
    exact member (by simp)

/-- Where a search of a chain does not break off, the chain starts at a data cluster: any
other number is refused at once. -/
theorem data_of_freeSlot {first : Nat} {found : Option SlotPosition}
    (searched : (medium.slots volume (.chain first)).freeSlot = .ok found) :
    volume.DataCluster first := by
  rw [← Layout.checkCluster_ok_iff]
  simp only [slots] at searched
  split at searched
  · cases searched
  · assumption

end Medium

/-! ## Searching for a slot -/

namespace Cursor

variable {medium : Medium} {volume : Volume}

/-- A sweep for a free slot ends at the first one, or tells where the chain ends, so that
it can be extended there. -/
theorem Sweeps.freeSlot {course : Course (SlotPosition × Slot)} {last : Option Nat}
    {result : Except Failure (Option SlotPosition × Cursor)}
    (sweeps : Sweeps medium volume
      (fun position slot => if slot.isFree then some position else none) last course result) :
    result.map Prod.fst = course.freeSlot ∧
      ∀ moved, result = .ok (none, moved) → moved.cluster? = last := by
  -- The sweep stops at the first slot that is free, which is also the one that the search of the
  -- course finds.
  induction sweeps with
  | @answered position slot items ending moved answer visited ready remains =>
    split at visited
    · next free =>
      cases visited
      refine ⟨?_, by simp⟩
      rw [Course.freeSlot]
      dsimp only
      rw [List.find?_cons, free]
      rfl
    · cases visited
  | @passed position slot items ending result visited sweeps inductionHypothesis =>
    split at visited
    · cases visited
    · next taken =>
      refine ⟨?_, inductionHypothesis.2⟩
      rw [inductionHypothesis.1, Course.freeSlot, Course.freeSlot]
      dsimp only
      rw [List.find?_cons, Bool.eq_false_iff.mpr taken]
  | ended ready done stands =>
    constructor
    · rfl
    · rintro moved ⟨⟩
      exact stands
  | failed => exact ⟨rfl, by simp⟩

end Cursor

namespace Volume

variable {medium : Medium} {volume : Volume}

/-- From the start of a directory the search for a free slot ends as the slots on the
medium say, and leaves the cursor at the end of the chain if there is none. -/
theorem nextFree_along (medium : Medium) (directory : Directory) {cursor : Cursor}
    (started : Cursor.start volume directory = .ok cursor) :
    ∃ result, Reads (cursor.alongside (Cursor.nextFree volume)) medium result ∧
      result.map Prod.fst = (medium.slots volume directory).freeSlot ∧
      ∀ moved, result = .ok (none, moved) →
        moved.cluster? = cursor.lastCluster medium volume := by
  obtain ⟨ready, ahead⟩ := Cursor.start_ready medium started
  obtain ⟨result, reads, sweeps⟩ := Cursor.sweep_sweeps
    (fun position slot => if slot.isFree then some position else none) ready
  rw [ahead] at sweeps
  exact ⟨result, reads, sweeps.freeSlot⟩

/-- In the root region the first free slot is found, and a region without one is full, as
it cannot grow. -/
theorem freeRootSlot_reads :
    Reads volume.freeRootSlot medium (do
      match ← (medium.slots volume .root).freeSlot with
      | some position => return position
      | none => throw .directoryFull) := by
  have started : Cursor.start volume .root = .ok (Cursor.mk (.root 0) none false) := rfl
  simp only [freeRootSlot]
  rw [started]
  apply (Performs.lift (.ok _)).bind
  obtain ⟨result, reads, ends, _⟩ := nextFree_along medium .root started
  have searched := Cursor.along_reads reads
  rw [ends] at searched
  apply searched.andThen
  intro found _
  cases found with
  | some position => exact .pure position
  | none => exact .throw _

/-- In a chain the first free slot is found, and for a chain without one its last cluster
is told. -/
theorem freeChainSlot_reads (first : Nat) :
    Reads (volume.freeChainSlot first) medium (do
      match ← (medium.slots volume (.chain first)).freeSlot with
      | some position => return .found position
      | none => return .needsExtension (medium.lastCluster volume first)) := by
  simp only [freeChainSlot]
  cases started : Cursor.start volume (.chain first) with
  | error failure =>
    rw [Cursor.slots_of_start_error medium started]
    exact Performs.bind_error (.throw failure)
  | ok cursor =>
    have stands : cursor.lastCluster medium volume = some (medium.lastCluster volume first) := by
      cases checked : volume.checkCluster first with
      | error failure => rw [Cursor.start, checked] at started; cases started
      | ok _ => rw [Cursor.start, checked] at started; cases started; rfl
    obtain ⟨result, reads, ends, told⟩ := nextFree_along medium (.chain first) started
    rw [stands] at told
    apply (Performs.lift (.ok cursor)).bind
    rw [← ends]
    cases result with
    | error failure => exact Cursor.along_reads (.walk_error reads)
    | ok answer =>
      obtain ⟨position, moved⟩ := answer
      cases position with
      | some position =>
        refine Cursor.along_reads (?_ : Reads _ medium (.ok (SlotSearch.found position, moved)))
        exact .walk reads (Performs.pure _)
      | none =>
        refine Cursor.along_reads (?_ : Reads _ medium
          (.ok (SlotSearch.needsExtension (medium.lastCluster volume first), moved)))
        refine .walk reads (.walk_get fun host => ?_)
        dsimp only
        rw [told moved rfl]
        exact Performs.pure _

/-! ## Writing clusters -/

/-- The test of a data cluster passes, and reads nothing. -/
theorem checkCluster_reads {cluster : Nat} (data : volume.DataCluster cluster) :
    Reads (liftM (volume.checkCluster cluster)) medium (.ok ()) := by
  rw [(Layout.checkCluster_ok_iff cluster).mpr data]
  exact .pure ()

/-- Clearing a cluster writes zero bytes to each of its sectors, in order. -/
theorem zeroCluster_performs {cluster : Nat} (data : volume.DataCluster cluster) :
    Performs (volume.zeroCluster cluster) medium (.ok ()) (volume.zeroWrites cluster) := by
  refine (checkCluster_reads data).bind (.forM_writes _ fun sector _ current => ?_)
  exact (clusterAddress_reads cluster sector).bind (.writeSector _ _)

/-- The first sector of an empty directory is written as a whole, with the two entries
that refer to the directory and to its parent. -/
theorem writeFirstSector_performs (cluster : Nat) (parent : Directory) :
    Performs (volume.writeFirstSector cluster parent) medium (.ok ())
      [⟨volume.clusterStart cluster + 0, firstSector cluster parent⟩] :=
  (Performs.compute _).bind <| (Performs.compute _).bind <|
    (clusterAddress_reads cluster 0).bind (.writeSector _ _)

/-- A new directory is first cleared and then given its first two entries, so that no
older content is seen in it at any time. -/
theorem initialiseDirectory_performs {cluster : Nat} {parent : Directory}
    (data : volume.DataCluster cluster)
    (above : ∀ first, parent = .chain first → volume.DataCluster first) :
    Performs (volume.initialiseDirectory cluster parent) medium (.ok ())
      (volume.initialWrites cluster parent) := by
  have filled : Performs (do
      volume.zeroCluster cluster
      volume.writeFirstSector cluster parent) medium (.ok ())
      (volume.initialWrites cluster parent) :=
    (zeroCluster_performs data).bind (writeFirstSector_performs cluster parent)
  cases parent with
  | root => exact filled
  | chain first => exact (checkCluster_reads (above first rfl)).bind filled

/-- Writing an entry is one write of its sector, with the other fifteen slots as the
medium has them. -/
theorem writeEntry_performs (position : SlotPosition) (entry : Entry) :
    Performs (writeEntry position entry) medium (.ok ()) [medium.entryWrite position entry] :=
  (Reads.readSector _).bind <| (Performs.compute _).bind (.writeSector _ _)

/-- Extending a chain claims the first free cluster, clears it, and links it last. Until
then the chain is the one that it was. -/
theorem extendChain_performs {last added : Nat} (data : volume.DataCluster last)
    (free : medium.firstFree volume = some added) :
    Performs (volume.extendChain last) medium (.ok added)
      (medium.growthWrites volume last added) := by
  apply (checkCluster_reads data).bind
  have claimed := allocate_performs medium volume
  rw [free] at claimed
  simp only [Medium.growthWrites, Medium.freshWrites]
  rw [List.append_assoc, Medium.apply_append]
  refine claimed.bind ((zeroCluster_performs (Medium.firstFree_some free).1).bind ?_)
  exact (setLink_performs data _).bindReads (.pure added)

/-- Without a free cluster nothing is written, and the failure says that there is no
space. -/
theorem extendChain_exhausted {last : Nat} (data : volume.DataCluster last)
    (none : medium.firstFree volume = none) :
    Reads (volume.extendChain last) medium (.error .noSpace) := by
  apply (checkCluster_reads data).bind
  have refused := allocate_performs medium volume
  rw [none] at refused
  exact refused.bind_error

/-! ## Creating directories -/

/-- Claiming a slot for a new entry ends in one of the listed ways: at a free slot, with a
longer chain, or in a failure. -/
theorem claimSlot_performs (medium : Medium) (volume : Volume) (directory : Directory) :
    ∃ result writes, Performs (volume.claimSlot directory) medium result writes ∧
      medium.Claims volume directory result writes := by
  cases directory with
  | root =>
    have searched : Reads (volume.claimSlot .root) medium _ := freeRootSlot_reads
    cases found : (medium.slots volume .root).freeSlot with
    | error failure =>
      rw [found] at searched
      exact ⟨_, [], searched, .broken found⟩
    | ok position =>
      rw [found] at searched
      cases position with
      | some position => exact ⟨_, [], searched, .found found⟩
      | none => exact ⟨_, [], searched, .rootFull found⟩
  | chain first =>
    have searched : Reads (volume.freeChainSlot first) medium _ := freeChainSlot_reads first
    simp only [claimSlot]
    cases found : (medium.slots volume (.chain first)).freeSlot with
    | error failure =>
      rw [found] at searched
      exact ⟨_, [], searched.bind_error, .broken found⟩
    | ok position =>
      rw [found] at searched
      cases position with
      | some position => exact ⟨_, [], searched.bind (.pure position), .found found⟩
      | none =>
        have data : volume.DataCluster (medium.lastCluster volume first) :=
          Medium.lastCluster_data (Medium.data_of_freeSlot found)
        cases free : medium.firstFree volume with
        | none =>
          exact ⟨_, [], searched.bind (extendChain_exhausted data free).bind_error,
            .exhausted found free⟩
        | some added =>
          refine ⟨_, _, searched.bind ((extendChain_performs data free).bindReads ?_),
            .grown found free⟩
          exact (clusterAddress_reads added 0).bind (.pure _)

/-- The parent of a new directory and its name are found out by reading alone. Names that
are taken are refused here. -/
theorem vacancy_reads (path : List Char) :
    Reads (volume.vacancy path) medium (medium.vacancy volume path) := by
  refine Reads.observe_bind ?_ (resolve_reads path) ?_
  · rintro failure ⟨_⟩ <;> rfl
  have leads (parts : List Char × List Char) : Reads (do
      let parent ← (← volume.resolve parts.1).directory
      return (parent, ← ShortName.encode parts.2)) medium (do
      let parent ← (← medium.resolve volume parts.1).directory
      return (parent, ← ShortName.encode parts.2)) :=
    (resolve_reads parts.1).andThen fun resolved _ => (Performs.lift _).andThen fun parent _ =>
      (Performs.lift _).andThen fun name _ => .pure _
  simp only [Medium.vacancy]
  generalize medium.resolve volume path = named
  generalize Path.splitLeaf path = divided
  cases named with
  | ok resolved => cases divided <;> exact Performs.bind_error (.throw _)
  | error failure =>
    cases failure with
    | notFound =>
      cases divided with
      | none => exact .throw _
      | some parts => exact leads parts
    | _ => cases divided <;> exact Performs.bind_error (.throw _)

/-- Putting a directory into a parent that was found ends in one of the listed ways, with
the writes that belong to it. -/
theorem insertDirectory_performs {path : List Char} {parent : Directory} {name : RawName}
    (vacant : medium.vacancy volume path = .ok (parent, name)) :
    ∃ result writes, Performs (volume.insertDirectory parent name) medium result writes ∧
      medium.Creates volume path result writes := by
  obtain ⟨claimed, writes, performs, claims⟩ := claimSlot_performs medium volume parent
  cases claimed with
  | error failure => exact ⟨_, _, performs.bind_error, .unclaimed vacant claims⟩
  | ok position =>
    have above : ∀ first, parent = .chain first → volume.DataCluster first := by
      rintro first rfl
      cases claims with
      | found free => exact Medium.data_of_freeSlot free
      | grown full free => exact Medium.data_of_freeSlot full
    have allocated := allocate_performs (medium.apply writes) volume
    cases free : (medium.apply writes).firstFree volume with
    | none =>
      rw [free] at allocated
      refine ⟨_, _, performs.bind allocated.bind_error, ?_⟩
      rw [Medium.claimWrites, List.append_nil]
      exact .exhausted vacant claims free
    | some cluster =>
      rw [free] at allocated
      have data := (Medium.firstFree_some free).1
      refine ⟨.ok cluster, _, performs.bind ?_, .created vacant claims free⟩
      simp only [Medium.insertionWrites, Medium.preparationWrites]
      rw [List.append_assoc, Medium.apply_append]
      refine allocated.bind ((initialiseDirectory_performs data above).bind ?_)
      exact (writeEntry_performs position _).bindReads (.pure cluster)

/-- Creating a directory ends in one of the listed ways, with the writes that belong to
it. All later results about creations go through these cases. -/
theorem createDirectory_performs (medium : Medium) (volume : Volume) (path : List Char) :
    ∃ result writes, Performs (volume.createDirectory path) medium result writes ∧
      medium.Creates volume path result writes := by
  have sought : Reads (volume.vacancy path) medium _ := vacancy_reads path
  cases vacant : medium.vacancy volume path with
  | error failure =>
    rw [vacant] at sought
    exact ⟨_, _, sought.bind_error, .refused vacant⟩
  | ok place =>
    rw [vacant] at sought
    obtain ⟨parent, name⟩ := place
    obtain ⟨result, writes, performs, creates⟩ := insertDirectory_performs vacant
    exact ⟨result, writes, sought.bind performs, creates⟩

end Volume

end FatVolume
