import FatVolume.Proofs.Confinement.Requests
import FatVolume.Proofs.Cuts

/-!
# Every request stays inside its volume

What a run adds to the trace and to the record of computations of its host is read off
its steps. For a request it says that the medium, however corrupt, and the controller,
however it fails, cannot bring the volume to transfer a sector that is not its own, to
seek an entry outside the table copy it is meant for, to form the address of a number
that is no data cluster, to take bytes from behind the end of a sector or of a buffer, or
to leave a machine word while it does so. Only the creation of a directory writes.

The texts of a request, which are cut on the way, are never cut outside either. No statement
here is about the value in which a request ends.
-/

namespace FatVolume

/-- The transfer leaves the medium as it is. -/
def Transfer.IsRead (transfer : Transfer) : Prop := ∃ lba, transfer = .read lba

section Steps

variable {layout : Layout} {allowed : Transfer → Prop} {before after : Host}

/-- A step adds at most one event, and a transfer that it adds is permitted and stays in a
sector of the layout. -/
theorem Step.trace (step : Step layout allowed before after) :
    ∃ events, after.trace = events ++ before.trace ∧
      ∀ attempt refusal, Event.transfer attempt refusal ∈ events →
        layout.Owns attempt.lba ∧ allowed attempt := by
  cases step with
  | transfer transfer owned permitted =>
    have noted (refusal : Option DiskError) (attempt : Transfer) (other : Option DiskError)
        (member : Event.transfer attempt other ∈ [Event.transfer transfer refusal]) :
        layout.Owns attempt.lba ∧ allowed attempt := by
      obtain ⟨rfl, _⟩ := Event.transfer.inj (List.mem_singleton.mp member)
      exact ⟨owned, permitted⟩
    by_cases sized : before.disk.sectorSize = 512
    · cases answered : before.disk.refusal transfer with
      | some cause =>
        rw [afterwards, attempt_of_refusal sized answered]
        exact ⟨[.transfer transfer (some cause)], rfl, noted _⟩
      | none =>
        rw [afterwards, attempt_of_service sized answered]
        exact ⟨[.transfer transfer none], rfl, noted _⟩
    · rw [afterwards, attempt_of_sectorSize sized]
      exact ⟨[], rfl, by simp⟩
  | compute computation proper => exact ⟨[], rfl, by simp⟩
  | report notice =>
    refine ⟨[.notice notice], rfl, fun attempt refusal member => ?_⟩
    cases List.mem_singleton.mp member

/-- A step adds at most one computation, and that is a proper one. -/
theorem Step.computed (step : Step layout allowed before after) :
    ∃ computations, after.computed = computations ++ before.computed ∧
      ∀ computation ∈ computations, computation.Proper layout := by
  cases step with
  | transfer transfer owned permitted =>
    refine ⟨[], ?_, by simp⟩
    by_cases sized : before.disk.sectorSize = 512
    · cases answered : before.disk.refusal transfer with
      | some cause => rw [afterwards, attempt_of_refusal sized answered]; rfl
      | none => rw [afterwards, attempt_of_service sized answered]; rfl
    · rw [afterwards, attempt_of_sectorSize sized]; rfl
  | compute computation proper =>
    refine ⟨[computation], rfl, fun other member => ?_⟩
    cases List.mem_singleton.mp member
    exact proper
  | report notice => exact ⟨[], rfl, by simp⟩

/-- A step keeps a sector that may not be written to, be it because it lies outside of the
layout or because such writes are not permitted. -/
theorem Step.unwritten (step : Step layout allowed before after) {lba : Nat}
    (kept : ∀ data, layout.Owns lba → ¬ allowed (.write lba data)) :
    after.disk.sector lba = before.disk.sector lba := by
  cases step with
  | transfer transfer owned permitted =>
    by_cases sized : before.disk.sectorSize = 512
    · cases answered : before.disk.refusal transfer with
      | some cause => rw [afterwards, attempt_of_refusal sized answered]; rfl
      | none =>
        rw [afterwards, attempt_of_service sized answered]
        cases transfer with
        | read address => rfl
        | write address data =>
          change (before.disk.serve _).sector lba = _
          rw [Disk.sector_serve_write, if_neg]
          rintro rfl
          exact kept data owned permitted
    · rw [afterwards, attempt_of_sectorSize sized]
  | compute computation proper => rfl
  | report notice => rfl

/-- A run adds permitted transfers in sectors of the layout only; the events of its steps
are put one behind the other. -/
theorem Steps.trace (steps : Steps layout allowed before after) :
    ∃ events, after.trace = events ++ before.trace ∧
      ∀ attempt refusal, Event.transfer attempt refusal ∈ events →
        layout.Owns attempt.lba ∧ allowed attempt := by
  -- Each step adds the events of one transfer in front of the earlier ones.
  induction steps with
  | refl => exact ⟨[], rfl, by simp⟩
  | tail _ step inductionHypothesis =>
    obtain ⟨earlier, begun, known⟩ := inductionHypothesis
    obtain ⟨later, continued, further⟩ := step.trace
    refine ⟨later ++ earlier, ?_, fun attempt refusal member => ?_⟩
    · rw [continued, begun, List.append_assoc]
    · rcases List.mem_append.mp member with recent | old
      · exact further attempt refusal recent
      · exact known attempt refusal old

/-- A run adds proper computations only, so a machine can carry out all of them. -/
theorem Steps.computed (steps : Steps layout allowed before after) :
    ∃ computations, after.computed = computations ++ before.computed ∧
      ∀ computation ∈ computations, computation.Proper layout := by
  induction steps with
  | refl => exact ⟨[], rfl, by simp⟩
  | tail _ step inductionHypothesis =>
    obtain ⟨earlier, begun, known⟩ := inductionHypothesis
    obtain ⟨later, continued, further⟩ := step.computed
    refine ⟨later ++ earlier, ?_, fun computation member => ?_⟩
    · rw [continued, begun, List.append_assoc]
    · rcases List.mem_append.mp member with recent | old
      · exact further computation recent
      · exact known computation old

/-- A run keeps a sector that may not be written to, through any number of steps. -/
theorem Steps.unwritten (steps : Steps layout allowed before after) {lba : Nat}
    (kept : ∀ data, layout.Owns lba → ¬ allowed (.write lba data)) :
    after.disk.sector lba = before.disk.sector lba := by
  induction steps with
  | refl => rfl
  | tail _ step inductionHypothesis => rw [step.unwritten kept, inductionHypothesis]

/-- A run that may only read changes no sector at all. -/
theorem Steps.sector (steps : Steps layout allowed before after)
    (readOnly : ∀ transfer, allowed transfer → transfer.IsRead) (lba : Nat) :
    after.disk.sector lba = before.disk.sector lba := by
  refine steps.unwritten fun data _ permitted => ?_
  obtain ⟨_, impossible⟩ := readOnly _ permitted
  cases impossible

end Steps

/-! ## Requests -/

/-- What may be asked of a mounted volume, with its arguments. -/
inductive Request : Type 1 where
  | lookup (path : List Char)
  | status (path : List Char)
  | readWhole (path : List Char)
  | readWindow (path : List Char) (offset : Nat) (buffer : Array UInt8)
  | readDirectory (path : List Char) (limit : Option Nat)
  | listDirectory {σ : Type} (path : List Char) (visit : σ → Entry → ForInStep σ) (state : σ)
  | listRecords (task : Task) (path : Option (List Char)) (records : Array ListingRecord)
  | systemList (task : Task) (path : Option (List Char)) (records : Array ListingRecord)
  | changeDirectory (task : Task) (path : List Char)
  | makeDirectory (path : List Char)

namespace Request

/-- Run a request to its end, for its effects on the host. -/
def perform (mounted : Mounted) : Request → HostM Unit
  | lookup path => discard (mounted.lookup path)
  | status path => discard (mounted.status path)
  | readWhole path => discard (mounted.readWhole path)
  | readWindow path offset buffer => discard (mounted.readWindow path offset buffer)
  | readDirectory path limit => discard (mounted.readDirectory path limit)
  | listDirectory path visit state => discard (mounted.listDirectory path visit state)
  | listRecords task path records => discard (mounted.listRecords task path records)
  | systemList task path records => discard (mounted.systemList task path records)
  | changeDirectory task path => discard (task.changeDirectory mounted path)
  | makeDirectory path => mounted.makeDirectory path

/-- The request may change the medium. -/
def mayWrite : Request → Bool
  | makeDirectory _ => true
  | _ => false

/-- The transfers that a request may attempt. -/
def Permits (request : Request) (transfer : Transfer) : Prop :=
  request.mayWrite = true ∨ transfer.IsRead

/-- Every request is confined to its volume: transfers and computations of all of them are
permitted and proper. One case for each request. -/
theorem perform_confined (mounted : Mounted) (request : Request) :
    Confined mounted.volume.toLayout request.Permits (request.perform mounted) fun _ => True := by
  have reads (lba : Nat) : request.Permits (.read lba) := .inr ⟨lba, rfl⟩
  have finish {α : Type} {operation : HostM α} {described : α → Prop}
      (confined : Confined mounted.volume.toLayout request.Permits operation described) :
      Confined mounted.volume.toLayout request.Permits (discard operation) fun _ => True :=
    confined.bind fun _ _ => .pure trivial
  cases request with
  | lookup path => exact finish (Mounted.lookup_confined reads path)
  | status path => exact finish (Mounted.status_confined reads path)
  | readWhole path => exact finish (Mounted.readWhole_confined reads path)
  | readWindow path offset buffer => exact finish (Mounted.readWindow_confined reads _ _ _)
  | readDirectory path limit => exact finish (Mounted.readDirectory_confined reads path limit)
  | listDirectory path visit state =>
    exact finish (Mounted.listDirectory_confined reads path (fun _ => 0) (fun _ _ => Nat.zero_le 1) rfl)
  | listRecords task path records => exact finish (Mounted.listRecords_confined reads _ _ _)
  | systemList task path records => exact finish (Mounted.systemList_confined reads _ _ _)
  | changeDirectory task path => exact finish (Mounted.changeDirectory_confined reads task path)
  | makeDirectory path => exact Mounted.makeDirectory_confined (fun _ => .inl rfl) path

end Request

/-- Events and computations that keep to the regions of a volume and to machine words. -/
structure KeepsInside (layout : Layout) (mayWrite : Bool) (events : List Event)
    (computations : List Computation) : Prop where
  /-- Every transfer is one of a table copy, of the root region or of a data cluster. -/
  owned : ∀ attempt refusal, Event.transfer attempt refusal ∈ events → layout.Owns attempt.lba
  readOnly : mayWrite = false →
    ∀ attempt refusal, Event.transfer attempt refusal ∈ events → attempt.IsRead
  /-- An entry is sought inside the copy it is meant for. -/
  entryInCopy : ∀ copy cluster, Computation.linkSector copy cluster ∈ computations →
    copy < layout.tableCopies ∧
      layout.tableStart + copy * layout.tableSectors ≤ layout.linkSector copy cluster ∧
      layout.linkSector copy cluster < layout.tableStart + (copy + 1) * layout.tableSectors
  /-- The address of a cluster is formed of a data cluster only. -/
  clusterInRange : ∀ cluster sector, Computation.clusterSector cluster sector ∈ computations →
    2 ≤ cluster ∧ cluster ≤ layout.maxCluster ∧ sector < layout.sectorsPerCluster
  /-- In machine words each computation comes to its value, without a sum, product or
  difference that leaves its word. The bytes of an entry, of a slot and of a run that is
  copied end inside their sector, a run has room behind those copied before, and no more
  bytes of a buffer are filled than it has. -/
  inWords : ∀ computation ∈ computations,
    computation.evaluate layout = some (computation.value layout)

/-- From every host, so for every medium and every pattern of refusals, a request to a
volume whose addresses fit a machine word keeps inside the volume, and changes no sector
unless it is one that may write. Every text, whichever a request is given or comes to, is
cut inside. -/
theorem Request.perform_keepsInside (mounted : Mounted)
    (addressed : mounted.volume.dataEnd ≤ 2 ^ 64) (request : Request) (host : Host) :
    (∃ events computations,
      (afterwards (request.perform mounted) host).trace = events ++ host.trace ∧
      (afterwards (request.perform mounted) host).computed = computations ++ host.computed ∧
      KeepsInside mounted.volume.toLayout request.mayWrite events computations) ∧
    (request.mayWrite = false → ∀ lba,
      (afterwards (request.perform mounted) host).disk.sector lba = host.disk.sector lba) ∧
    ∀ text, Text.CutsInside text := by
  obtain ⟨steps, _⟩ := request.perform_confined mounted host
  obtain ⟨events, traced, permitted⟩ := steps.trace
  obtain ⟨computations, recorded, proper⟩ := steps.computed
  -- The permission of a transfer is that the request may write, or that the transfer is a read.
  have reading (still : request.mayWrite = false) (transfer : Transfer)
      (permits : request.Permits transfer) : transfer.IsRead := by
    rcases permits with writes | read
    · rw [still] at writes
      cases writes
    · exact read
  refine ⟨⟨events, computations, traced, recorded, ?_⟩, fun still => steps.sector (reading still),
    Text.cutsInside⟩
  constructor
  case owned => exact fun attempt refusal member => (permitted attempt refusal member).1
  case readOnly =>
    exact fun still attempt refusal member =>
      reading still attempt (permitted attempt refusal member).2
  case entryInCopy =>
    intro copy cluster member
    obtain ⟨stored, data⟩ := proper _ member
    exact ⟨stored, Layout.linkSector_in_copy copy data⟩
  case clusterInRange =>
    intro cluster sector member
    obtain ⟨data, inside⟩ := proper _ member
    exact ⟨data.1, data.2, inside⟩
  case inWords =>
    exact fun computation member => Computation.evaluate_proper addressed (proper _ member)

/-- A host with a disk of twenty sectors on which a file of 1500 bytes starts at cluster 2. The
table leads from there back to cluster 2. -/
def loopedHost : Host where
  disk :=
    let entry : Entry :=
      { name := (Vector.replicate 11 0x20).setIfInBounds 0 0x41
        attributes := 0
        cluster := 2
        size := 1500 }
    let table := Sector.zero.setWord (Layout.linkIndex 2) 2
    ({ capacity := 20 : Disk }.setSector 1 table).setSector 3 (Sector.zero.setRecord 0 entry.encode)
  largestBlock := 4096

/-- Twenty bytes are wanted of a file in a chain that returns to itself, from its last two bytes
on: two are taken out of a sector, and put in front of a buffer that has room for them. A
directory is made with a controller that refuses every write of the second table copy. -/
theorem Request.perform_keepsInside_small :
    let mounted : Mounted := ⟨0, .small, ⟨0, 20, 4⟩⟩
    let reading : Request := .readWindow ['/', 'a'] 1498 (.replicate 20 0)
    let making : Request := .makeDirectory ['/', 'A']
    let refusing : Host :=
      { disk := { capacity := 20, faults := FaultPlan.oracle { failWrites := [2] } {} }
        largestBlock := 4096 }
    let keeps (request : Request) (host : Host) : Prop :=
      (∃ events computations,
        (afterwards (request.perform mounted) host).trace = events ++ host.trace ∧
        (afterwards (request.perform mounted) host).computed = computations ++ host.computed ∧
        KeepsInside Volume.small.toLayout request.mayWrite events computations) ∧
      (request.mayWrite = false → ∀ lba,
        (afterwards (request.perform mounted) host).disk.sector lba = host.disk.sector lba) ∧
      ∀ text, Text.CutsInside text
    Volume.small.dataEnd ≤ 2 ^ 64 ∧ keeps reading loopedHost ∧ keeps making refusing ∧
      (afterwards (reading.perform mounted) loopedHost).computed =
        [.copiedRun 474 0 2, .clusterSector 2 0, .linkSector 0 2, .nextHop 0,
          .clustersBefore 1498, .firstBytes 2 20, .bytesBehind 1500 1498, .slotStart 0,
          .rootSector 0] := by
  intro mounted reading making refusing keeps
  exact ⟨by decide, perform_keepsInside mounted (by decide) reading loopedHost,
    perform_keepsInside mounted (by decide) making refusing, by decide +kernel⟩

end FatVolume
