import FatVolume.Proofs.Candour.Cursors
import FatVolume.Proofs.Formatted
import FatVolume.Proofs.Views

/-!
# Every operation is candid

The operations on paths are assembled from those on links and cursors. The creation of a
directory looks at the failure of a look-up, and takes nothing but a missing entry for a vacant
name. A listing does not fail where it breaks off: it delivers the failure beside the state of
its visitor. An operation is run here so that it fails with what it tells.

So whatever the medium holds and whichever transfers the controller refuses, a caller is told of
the first refusal, after which nothing more is attempted.
-/

namespace FatVolume

namespace Volume

variable (volume : Volume)

/-! ## Paths -/

/-- Searching a directory for a name is candid: a refusal on the way is told, and not that
there is no such name. -/
theorem findEntry_candid (directory : Directory) (name : RawName) :
    Candid (volume.findEntry directory name) := by
  refine (Candid.lift _).bind fun cursor => ?_
  refine ((Cursor.nextEntry_candid volume _).along cursor).bind fun found => ?_
  cases found with
  | some entry => exact .pure _
  | none => exact .throw _

/-- Going down by one component is candid, for the spelling of the component is tested
without the disk. -/
theorem descend_candid (current : Resolved) (component : List Char) :
    Candid (volume.descend current component) := by
  refine (Candid.lift _).bind fun directory => (Candid.lift _).bind fun name => ?_
  exact (findEntry_candid volume directory name).bind fun _ => .pure _

/-- Looking up a path is candid. The first refusal on the way through its directories is
what is told. -/
theorem resolve_candid (path : List Char) : Candid (volume.resolve path) :=
  .foldlM (descend_candid volume) _ _

/-! ## New directories -/

/-- Finding a vacant name is candid, although a failure is observed: no failure of the
disk is taken for a name that is missing. -/
theorem vacancy_candid (path : List Char) : Candid (volume.vacancy path) := by
  refine .observe_bind ?_ (resolve_candid volume path) fun host => ?_
  · rintro failure ⟨_⟩ <;> exact .throw
  · dsimp only
    split
    · exact .throw_bind _ _
    · split
      · exact .throw _
      · refine (resolve_candid volume _).bind fun resolved => ?_
        exact (Candid.lift _).bind fun _ => (Candid.lift _).bind fun _ => .pure _
    · exact .throw_bind _ _

/-- Searching the root region for a free slot is candid: a region of which a sector was
refused is not told to be full. -/
theorem freeRootSlot_candid : Candid volume.freeRootSlot := by
  refine (Candid.lift _).bind fun cursor => ?_
  refine ((Cursor.nextFree_candid volume).along cursor).bind fun found => ?_
  cases found with
  | some position => exact .pure _
  | none => exact .throw _

/-- Searching a chain for a free slot is candid: a chain of which a link was refused is
not extended. -/
theorem freeChainSlot_candid (first : Nat) : Candid (volume.freeChainSlot first) := by
  refine (Candid.lift _).bind fun cursor => ?_
  refine CandidWalk.along ?_ cursor
  refine (Cursor.nextFree_candid volume).bind fun found => ?_
  cases found with
  | some position => exact .pure _
  | none => exact .get_bind (fun _ _ _ => rfl) fun _ => .pure _

/-- Clearing a cluster stops at the first write that is refused, and tells it. -/
theorem zeroCluster_candid (cluster : Nat) : Candid (volume.zeroCluster cluster) := by
  refine (Candid.lift _).bind fun _ => .forM (fun sector => ?_) _
  exact (clusterAddress_candid volume cluster sector).bind fun lba => .writeSector lba _

/-- Extending a chain is candid. Whichever of its writes is refused, the later ones are
not tried. -/
theorem extendChain_candid (lastCluster : Nat) : Candid (volume.extendChain lastCluster) := by
  refine (Candid.lift _).bind fun _ => (allocate_candid volume).bind fun added => ?_
  refine (zeroCluster_candid volume added).bind fun _ => ?_
  exact (setLink_candid volume lastCluster _).bind fun _ => .pure _

/-- Claiming a slot is candid, whether one is found or the chain has to be extended for
it. -/
theorem claimSlot_candid (parent : Directory) : Candid (volume.claimSlot parent) := by
  cases parent with
  | root => exact freeRootSlot_candid volume
  | chain first =>
    refine (freeChainSlot_candid volume first).bind fun search => ?_
    cases search with
    | found position => exact .pure _
    | needsExtension lastCluster =>
      refine (extendChain_candid volume lastCluster).bind fun added => ?_
      exact (clusterAddress_candid volume added 0).bind fun _ => .pure _

/-- Writing the first sector of a directory is candid: the two records are put together
without the disk. -/
theorem writeFirstSector_candid (cluster : Nat) (parent : Directory) :
    Candid (volume.writeFirstSector cluster parent) :=
  (Candid.compute _).bind fun _ => (Candid.compute _).bind fun _ =>
    (clusterAddress_candid volume cluster 0).bind fun lba => .writeSector lba _

/-- Filling a new directory is candid, from the clearing of its cluster to the entries in
front. -/
theorem initialiseDirectory_candid (cluster : Nat) (parent : Directory) :
    Candid (volume.initialiseDirectory cluster parent) := by
  have filled : Candid (do
      volume.zeroCluster cluster
      volume.writeFirstSector cluster parent) :=
    (zeroCluster_candid volume cluster).bind fun _ => writeFirstSector_candid volume cluster parent
  cases parent with
  | root => exact filled
  | chain above => exact (Candid.lift _).bind fun _ => filled

/-- Writing an entry is candid. If the read of its sector is refused, nothing is written. -/
theorem writeEntry_candid (position : SlotPosition) (entry : Entry) :
    Candid (writeEntry position entry) :=
  (Candid.readSector _).bind fun _ => (Candid.compute _).bind fun _ => .writeSector _ _

/-- Creating a directory is candid, so a caller learns of the one refusal that has cut it
short. -/
theorem createDirectory_candid (path : List Char) : Candid (volume.createDirectory path) := by
  refine (vacancy_candid volume path).bind fun place => ?_
  refine (claimSlot_candid volume place.1).bind fun position => ?_
  refine (allocate_candid volume).bind fun cluster => ?_
  refine (initialiseDirectory_candid volume cluster place.1).bind fun _ => ?_
  exact (writeEntry_candid position _).bind fun _ => .pure _

end Volume

/-! ## Listings -/

/-- A listing asks for one entry after the other, each time with fewer slots ahead. It is candid
together with what is made of it, if that passes on the failure that ended the listing. -/
theorem Listing.deliver_candid {σ : Type} (volume : Volume) (shown : Shown)
    (visit : σ → Entry → ForInStep σ) {next : Delivery σ → HostM β}
    (passed : ∀ state failure, failure.OfDisk → FailsQuietly (next ⟨state, some failure⟩) failure)
    (ends : ∀ delivery, Candid (next delivery)) (state : σ) (cursor : Cursor) :
    Candid (cursor.along (deliver volume shown visit state) >>= next) := by
  rw [along_deliver, bind_assoc]
  refine .observe_bind (fun failure ofDisk => ?_)
    (Cursor.nextEntry_candid volume shown.wanted cursor) fun host => ?_
  · exact passed state failure ofDisk
  · cases ended : outcome (cursor.alongside (Cursor.nextEntry volume shown.wanted)) host with
    | error failure => exact ends ⟨state, some failure⟩
    | ok ending =>
      obtain ⟨found, moved⟩ := ending
      cases found with
      | none => exact ends ⟨state, none⟩
      | some entry =>
        obtain ⟨rest, ran, left⟩ := Cursor.ran_of_alongside ended
        have fewer := Cursor.nextEntry_slotsLeft ran
        rw [left] at fewer
        dsimp only
        cases visit state entry with
        | done final => exact ends ⟨final, none⟩
        | yield following => exact deliver_candid volume shown visit passed ends following moved
termination_by cursor.slotsLeft volume

namespace Mounted

/-- Mounting a partition is candid, as it only reads the boot sector. -/
theorem mount_candid (channel : Nat) (partition : Partition) : Candid (mount channel partition) :=
  (Volume.mount_candid _).bind fun _ => (Candid.report _).bind fun _ => .pure _

variable (mounted : Mounted)

/-- A look-up is candid: a refusal is never told as a name that is missing. -/
theorem lookup_candid (path : List Char) : Candid (mounted.lookup path) :=
  (Candid.lift _).bind fun _ => Volume.resolve_candid _ _

/-- Asking for kind and size is as candid as the look-up. -/
theorem status_candid (path : List Char) : Candid (mounted.status path) :=
  (lookup_candid mounted path).bind fun _ => .pure _

/-- A look-up that is to name a file is candid. That it names a directory is told only
after the look-up has succeeded. -/
theorem lookupFile_candid (path : List Char) : Candid (mounted.lookupFile path) := by
  refine (lookup_candid mounted path).bind fun resolved => ?_
  dsimp only
  split
  · exact .throw _
  · exact .pure _

/-- Reading a whole file is candid. The bound of the heap is tested without the disk. -/
theorem readWhole_candid (path : List Char) : Candid (mounted.readWhole path) := by
  refine (lookupFile_candid mounted path).bind fun resolved => ?_
  split
  · exact .pure _
  · refine .get_bind (fun _ => rfl) fun host => ?_
    dsimp only
    split
    · exact .throw _
    · exact Volume.readContent_candid _ _ _ _

/-- Reading a window is candid, and so is the empty read, which asks for nothing. -/
theorem readWindow_candid (path : List Char) (offset : Nat) (buffer : Array UInt8) :
    Candid (mounted.readWindow path offset buffer) := by
  unfold readWindow
  split
  · exact .pure _
  · refine (lookupFile_candid mounted path).bind fun resolved => ?_
    dsimp only
    split
    · exact .throw _
    · refine (Volume.workOut_candid _ _).bind fun left => ?_
      refine (Volume.workOut_candid _ _).bind fun filled => ?_
      exact (Volume.readContent_candid _ _ _ _).bind fun _ => .pure _

/-- Opening a directory is as candid as the look-up, since a cursor is started without the
disk. -/
theorem openDirectory_candid (path : List Char) : Candid (mounted.openDirectory path) := by
  refine (lookup_candid mounted path).bind fun resolved => ?_
  exact (Candid.lift _).bind fun _ => .lift _

/-- A directory listing is candid together with what is made of it, if that passes on the failure
that ended the listing. -/
theorem listDirectory_candid {σ : Type} (path : List Char) (visit : σ → Entry → ForInStep σ)
    (state : σ) {next : σ × Except Failure Nat → HostM β}
    (passed : ∀ state failure, failure.OfDisk → FailsQuietly (next (state, .error failure)) failure)
    (ends : ∀ listed, Candid (next listed)) :
    Candid (mounted.listDirectory path visit state >>= next) := by
  simp only [listDirectory, bind_assoc]
  refine .observe_bind (fun failure ofDisk => ?_) (openDirectory_candid mounted path) fun host => ?_
  · exact passed state failure ofDisk
  · cases outcome (mounted.openDirectory path) host with
    | error failure => exact ends (state, .error failure)
    | ok cursor =>
      dsimp only
      rw [handEntries, bind_assoc]
      refine Listing.deliver_candid mounted.volume .named (counting visit)
        (fun last failure ofDisk => ?_) (fun delivery => ?_) (state, 0) cursor
      · rw [bind_assoc]
        exact .workOut_bind (passed last.1 failure ofDisk)
      · rw [bind_assoc]
        refine (Volume.workOut_candid mounted.volume _).bind fun count => ?_
        split
        · exact ends _
        · exact ends _

/-- Listing into records is candid, if the failure that is returned beside the records
counts as the end of the listing. -/
theorem listRecords_candid (task : Task) (path : Option (List Char))
    (records : Array ListingRecord) :
    Candid (mounted.listRecords task path records >>= fun listed => liftM listed.2) := by
  simp only [listRecords]
  split
  · exact .throw _
  · rw [bind_assoc]
    refine listDirectory_candid mounted _ _ _ (fun buffer failure _ => ?_) fun listed => ?_
    · rw [bind_assoc]
      exact .workOut_bind .throw
    · exact (Volume.workOut_candid mounted.volume _).bind fun _ => .lift _

/-- A change of the current directory is as candid as the look-up of its target. -/
theorem changeDirectory_candid (task : Task) (path : List Char) :
    Candid (task.changeDirectory mounted path) := by
  rw [Task.changeDirectory_eq]
  refine (Candid.lift _).bind fun target => (lookup_candid mounted target).bind fun resolved => ?_
  refine (Candid.lift _).bind fun _ => ?_
  dsimp only
  split
  · exact .throw _
  · exact .pure _

/-- Making a directory is candid. Its notice comes after the last transfer. -/
theorem makeDirectory_candid (path : List Char) : Candid (mounted.makeDirectory path) := by
  refine (Candid.lift _).bind fun normal => ?_
  exact (Volume.createDirectory_candid _ normal).bind fun _ => .report _

end Mounted

/-! ## Operations -/

/-- What callers of the file system ask for, with all arguments. -/
inductive Operation : Type 1 where
  | mount (channel : Nat) (partition : Partition)
  | lookup (mounted : Mounted) (path : List Char)
  | status (mounted : Mounted) (path : List Char)
  | readWhole (mounted : Mounted) (path : List Char)
  | readWindow (mounted : Mounted) (path : List Char) (offset : Nat) (buffer : Array UInt8)
  | listDirectory {σ : Type} (mounted : Mounted) (path : List Char)
      (visit : σ → Entry → ForInStep σ) (state : σ)
  | listRecords (mounted : Mounted) (task : Task) (path : Option (List Char))
      (records : Array ListingRecord)
  | changeDirectory (mounted : Mounted) (task : Task) (path : List Char)
  | makeDirectory (mounted : Mounted) (path : List Char)

namespace Operation

/-- Run an operation to its end. It fails with the failure that its caller is told. -/
def run : Operation → HostM Unit
  | mount channel partition => discard (Mounted.mount channel partition)
  | lookup mounted path => discard (mounted.lookup path)
  | status mounted path => discard (mounted.status path)
  | readWhole mounted path => discard (mounted.readWhole path)
  | readWindow mounted path offset buffer => discard (mounted.readWindow path offset buffer)
  | listDirectory mounted path visit state =>
    discard (mounted.listDirectory path visit state >>= fun listed => liftM listed.2)
  | listRecords mounted task path records =>
    discard (mounted.listRecords task path records >>= fun listed => liftM listed.2)
  | changeDirectory mounted task path => discard (task.changeDirectory mounted path)
  | makeDirectory mounted path => mounted.makeDirectory path

/-- Every operation is candid, by one case for each of them. -/
theorem run_candid (operation : Operation) : Candid operation.run := by
  have finish {α : Type} {asked : HostM α} (candid : Candid asked) : Candid (discard asked) :=
    candid.bind fun _ => .pure ()
  cases operation with
  | mount channel partition => exact finish (Mounted.mount_candid channel partition)
  | lookup mounted path => exact finish (mounted.lookup_candid path)
  | status mounted path => exact finish (mounted.status_candid path)
  | readWhole mounted path => exact finish (mounted.readWhole_candid path)
  | readWindow mounted path offset buffer =>
    exact finish (mounted.readWindow_candid path offset buffer)
  | listDirectory mounted path visit state =>
    exact finish (mounted.listDirectory_candid path visit state (fun _ _ _ => .throw) fun _ => .lift _)
  | listRecords mounted task path records =>
    exact finish (mounted.listRecords_candid task path records)
  | changeDirectory mounted task path => exact finish (mounted.changeDirectory_candid task path)
  | makeDirectory mounted path => exact mounted.makeDirectory_candid path

/-- How an operation answers for the disk of a host. -/
structure AnswersFor (operation : Operation) (host : Host) : Prop where
  /-- A refused transfer is the last thing that happens, and the first to be refused. Its cause
  is told. -/
  refused : ∃ events, (afterwards operation.run host).trace = events ++ host.trace ∧
    ∀ attempt cause, .transfer attempt (some cause) ∈ events →
      outcome operation.run host = .error (.transfer cause) ∧
        ∃ earlier, events = .transfer attempt (some cause) :: earlier ∧
          ∀ event ∈ earlier, ¬ event.IsRefusal
  /-- On sectors of a foreign size nothing is attempted, and their size is told where anything
  would be attempted on sectors of 512 bytes. -/
  foreign : host.disk.sectorSize ≠ 512 →
    host.Untransferred (afterwards operation.run host) ∧
      (¬ host.standard.Spared Event.IsTransfer (afterwards operation.run host.standard) →
        outcome operation.run host = .error (.sectorSize host.disk.sectorSize))

/-- Every operation answers for every disk, whatever that holds and whatever it refuses: a
refused transfer is the last and is told, and sectors of a foreign size are told without a
transfer. -/
theorem answersFor (operation : Operation) (host : Host) : operation.AnswersFor host := by
  obtain ⟨⟨events, traced, passes⟩, foreign⟩ := operation.run_candid host
  constructor
  case refused =>
    refine ⟨events, traced, fun attempt cause member => ?_⟩
    generalize outcome operation.run host = result at passes
    cases passes with
    | granted granted => exact absurd ⟨attempt, cause, rfl⟩ (granted _ member)
    | refused last reason granted =>
      rcases List.mem_cons.mp member with same | early
      · cases same
        exact ⟨rfl, _, rfl, granted⟩
      · exact absurd ⟨attempt, cause, rfl⟩ (granted _ early)
  case foreign =>
    intro other
    obtain ⟨untransferred, told⟩ := foreign other
    refine ⟨untransferred, fun attempted => ?_⟩
    rcases told with size | ⟨_, left⟩
    · exact size
    · refine absurd ?_ attempted
      rw [left]
      exact untransferred.spared

/-- A directory is not made where the second copy of the table cannot be written, nor on sectors
of 4096 bytes. -/
theorem answersFor_untouched :
    let host := Host.untouched 20 4096 { failWrites := [2] }
    let foreign := { host with disk := { host.disk with sectorSize := 4096 } }
    let making : Operation := .makeDirectory ⟨0, .small, ⟨0, 20, 4⟩⟩ ['/', 'a']
    making.AnswersFor host ∧ making.AnswersFor foreign ∧
      outcome making.run host = .error (.transfer .device) ∧
      outcome making.run foreign = .error (.sectorSize 4096) := by
  intro host foreign making
  exact ⟨answersFor making host, answersFor making foreign, by decide +kernel, by decide +kernel⟩

end Operation

end FatVolume
