import FatVolume.Proofs.Alongside
import FatVolume.Proofs.Performance

/-!
# Candid operations

An operation is candid if it passes on what it is told by the disk. A refused transfer is then
the last thing that happens to the host, and the operation ends in the failure with its cause.
On a disk with sectors of a foreign size no transfer is attempted: either the operation tells
that size, or it ends as it does on the same disk with sectors of 512 bytes, where it attempts
none either.

The rules below hold for every host, so for every content of the disk and every pattern of
refusals. Where an operation looks at the failure of another one, it is candid as long as it
passes on the failures of the disk.
-/

namespace FatVolume

/-- The event is a transfer, served or refused. -/
def Event.IsTransfer (event : Event) : Prop := ∃ attempt answer, event = .transfer attempt answer

/-- The host with a disk whose sectors have the size that is worked with. -/
def Host.standard (host : Host) : Host := { host with disk := { host.disk with sectorSize := 512 } }

/-- No transfer was attempted between a host and what it became. -/
structure Host.Untransferred (before after : Host) : Prop where
  disk : after.disk = before.disk
  spared : before.Spared Event.IsTransfer after

/-- How refusals among the events of a run show in its result. The newest event stands first. -/
inductive PassesOn {α : Type} : List Event → Except Failure α → Prop
  | granted {events : List Event} {result : Except Failure α}
      (granted : ∀ event ∈ events, ¬ event.IsRefusal) : PassesOn events result
  | refused (attempt : Transfer) (cause : DiskError) {earlier : List Event}
      (granted : ∀ event ∈ earlier, ¬ event.IsRefusal) :
      PassesOn (.transfer attempt (some cause) :: earlier) (.error (.transfer cause))

/-- From this host, the operation passes on what it is told by the disk. -/
structure CandidFrom {α : Type} (operation : HostM α) (host : Host) : Prop where
  passes : ∃ events, (afterwards operation host).trace = events ++ host.trace ∧
    PassesOn events (outcome operation host)
  foreign : host.disk.sectorSize ≠ 512 → host.Untransferred (afterwards operation host) ∧
    (outcome operation host = .error (.sectorSize host.disk.sectorSize) ∨
      outcome operation host.standard = outcome operation host ∧
        afterwards operation host.standard = (afterwards operation host).standard)

/-- From every host, the operation passes on what it is told by the disk. -/
def Candid {α : Type} (operation : HostM α) : Prop := ∀ host, CandidFrom operation host

variable {α β : Type}

/-- No transfer is attempted where nothing is done. -/
theorem Host.Untransferred.refl (host : Host) : host.Untransferred host where
  disk := rfl
  spared := .refl _ host

/-- No transfer is attempted in a run if none is in its parts; the disk is then the same,
its counts included. -/
theorem Host.Untransferred.trans {before between after : Host}
    (first : before.Untransferred between) (second : between.Untransferred after) :
    before.Untransferred after where
  disk := second.disk.trans first.disk
  spared := first.spared.trans second.spared

namespace PassesOn

variable {events later : List Event}

/-- A result that is no failure has met no refusal, for a refusal would have been the
result. -/
theorem granted_of_ok {value : α} (passes : PassesOn events (.ok value : Except Failure α)) :
    ∀ event ∈ events, ¬ event.IsRefusal := by
  cases passes with
  | granted granted => exact granted

/-- How refusals show in a failure does not depend on what kind of value the operation
would have had. -/
theorem error {failure : Failure} (passes : PassesOn events (.error failure : Except Failure α)) :
    PassesOn events (.error failure : Except Failure β) := by
  cases passes with
  | granted granted => exact .granted granted
  | refused attempt cause granted => exact .refused attempt cause granted

/-- What was granted before makes no difference to how later refusals show in the result. -/
theorem behind {result : Except Failure α} (passes : PassesOn later result)
    (granted : ∀ event ∈ events, ¬ event.IsRefusal) : PassesOn (later ++ events) result := by
  have both {newer : List Event} (known : ∀ event ∈ newer, ¬ event.IsRefusal) :
      ∀ event ∈ newer ++ events, ¬ event.IsRefusal := fun event member =>
    (List.mem_append.mp member).elim (known event) (granted event)
  cases passes with
  | granted known => exact .granted (both known)
  | refused attempt cause known => exact .refused attempt cause (both known)

end PassesOn

/-- What stands behind a success is run on the host that the success left. On a disk of a
foreign size both parts make no transfer, or the first one tells the size. -/
theorem CandidFrom.bind {operation : HostM α} {next : α → HostM β} {host : Host}
    (first : CandidFrom operation host)
    (second : ∀ value, outcome operation host = .ok value →
      CandidFrom (next value) (afterwards operation host)) :
    CandidFrom (operation >>= next) host := by
  obtain ⟨⟨events, traced, passes⟩, foreign⟩ := first
  -- Where the first operation fails, its last event is the last of all. Where it succeeds, it was
  -- refused nothing.
  cases ended : outcome operation host with
  | error failure =>
    rw [ended] at passes
    constructor
    · rw [afterwards_bind_error ended, outcome_bind_error ended]
      exact ⟨events, traced, passes.error⟩
    · intro other
      obtain ⟨untransferred, told⟩ := foreign other
      rw [afterwards_bind_error ended, outcome_bind_error ended]
      refine ⟨untransferred, told.imp (fun size => ?_) fun ⟨same, left⟩ => ?_⟩
      · rw [ended] at size
        cases size
        rfl
      · rw [ended] at same
        exact ⟨outcome_bind_error same, (afterwards_bind_error same).trans left⟩
  | ok value =>
    obtain ⟨⟨later, continued, concluded⟩, further⟩ := second value ended
    rw [ended] at passes
    constructor
    · rw [afterwards_bind_ok ended, outcome_bind_ok ended]
      exact ⟨later ++ events, by rw [continued, traced, List.append_assoc],
        concluded.behind passes.granted_of_ok⟩
    · intro other
      obtain ⟨untransferred, told⟩ := foreign other
      have still := congrArg Disk.sectorSize untransferred.disk
      obtain ⟨onward, told'⟩ := further (still ▸ other)
      rw [afterwards_bind_ok ended, outcome_bind_ok ended]
      refine ⟨untransferred.trans onward, ?_⟩
      rcases told with size | ⟨same, left⟩
      · rw [ended] at size
        cases size
      · rw [ended] at same
        rw [afterwards_bind_ok same, outcome_bind_ok same, left, ← still]
        exact told'

/-- Whatever the host, the operation only notes what it works out, and fails. -/
def FailsQuietly (operation : HostM α) (failure : Failure) : Prop :=
  ∃ noted, ∀ host : Host,
    operation host = .error failure { host with computed := noted ++ host.computed }

namespace FailsQuietly

variable {failure : Failure}

/-- A failure that is thrown at once is what the operation ends in, on every host and
without a transfer. -/
theorem throw : FailsQuietly (throw failure : HostM α) failure := ⟨[], fun _ => rfl⟩

/-- A number may be worked out before an operation fails: noting it neither asks the disk
nor changes the failure. -/
theorem workOut_bind {volume : Volume} {computation : Computation} {next : Nat → HostM α}
    (fails : FailsQuietly (next (computation.value volume.toLayout)) failure) :
    FailsQuietly (volume.workOut computation >>= next) failure := by
  obtain ⟨noted, same⟩ := fails
  refine ⟨noted ++ [computation], fun host => ?_⟩
  change next (computation.value volume.toLayout)
    { host with computed := computation :: host.computed } = _
  rw [same, List.append_assoc]
  rfl

end FailsQuietly

namespace Candid

/-- Returning a value is candid: the disk was not asked. -/
theorem pure (value : α) : Candid (pure value : HostM α) := fun host =>
  ⟨⟨[], rfl, .granted (by simp)⟩, fun _ => ⟨.refl host, .inr ⟨rfl, rfl⟩⟩⟩

/-- Throwing a failure is candid, as it is not the disk that has told it. -/
theorem throw (failure : Failure) : Candid (throw failure : HostM α) := fun host =>
  ⟨⟨[], rfl, .granted (by simp)⟩, fun _ => ⟨.refl host, .inr ⟨rfl, rfl⟩⟩⟩

/-- What would follow a failure need not be candid, because it never runs. -/
theorem throw_bind (failure : Failure) (next : α → HostM β) :
    Candid ((MonadExcept.throw failure : HostM α) >>= next) := fun host =>
  (throw failure host).bind fun _ ended => nomatch ended

/-- A computation without effects is told nothing by the disk, and may fail as it likes. -/
theorem lift (computation : Except Failure α) : Candid (liftM computation : HostM α) := by
  cases computation with
  | ok value => exact pure value
  | error failure => exact throw failure

/-- Two candid operations in a row are candid: a refusal in the first one ends both. -/
theorem bind {operation : HostM α} {next : α → HostM β} (first : Candid operation)
    (second : ∀ value, Candid (next value)) : Candid (operation >>= next) := fun host =>
  (first host).bind fun value _ => second value _

/-- What an operation has come to may be used to follow what stands behind it. Loops whose
state has to keep a bound are followed in this way. -/
theorem bindKnowing {operation : HostM α} {next : α → HostM β} (first : Candid operation)
    (second : ∀ value host, outcome operation host = .ok value → Candid (next value)) :
    Candid (operation >>= next) := fun host =>
  (first host).bind fun value ended => second value host ended _

/-- The host may be looked at where the size of its sectors makes no difference to what is
done then. -/
theorem get_bind {next : Host → HostM β} (same : ∀ host, next host.standard = next host)
    (candid : ∀ host, Candid (next host)) : Candid (get >>= next) := fun host =>
  { passes := (candid host host).passes
    foreign := fun other => by
      obtain ⟨untransferred, told⟩ := (candid host host).foreign other
      refine ⟨untransferred, told.imp_right fun coincides => ?_⟩
      change outcome (next host.standard) host.standard = outcome (next host) host ∧
        afterwards (next host.standard) host.standard = (afterwards (next host) host).standard
      rw [same]
      exact coincides }

/-- Noting what is worked out is candid. -/
theorem compute (computation : Computation) : Candid (FatVolume.compute computation) := fun _ =>
  ⟨⟨[], rfl, .granted (by simp)⟩, fun _ => ⟨⟨rfl, [], rfl, by simp⟩, .inr ⟨rfl, rfl⟩⟩⟩

/-- Reporting a notice is candid, and the notice is no transfer. -/
theorem report (notice : Notice) : Candid (FatVolume.report notice) := by
  intro host
  constructor
  · refine ⟨[.notice notice], rfl, .granted ?_⟩
    rintro event member ⟨attempt, cause, rfl⟩
    cases List.mem_singleton.mp member
  · intro other
    refine ⟨⟨rfl, [.notice notice], rfl, ?_⟩, .inr ⟨rfl, rfl⟩⟩
    rintro event member ⟨attempt, answer, rfl⟩
    cases List.mem_singleton.mp member

/-- The disk is asked unless its sectors have a foreign size, and a refusal is told. All
other operations are candid because this one is. -/
theorem attempt (transfer : Transfer) : Candid (FatVolume.attempt transfer) := by
  intro host
  by_cases sized : host.disk.sectorSize = 512
  · refine ⟨?_, fun other => absurd sized other⟩
    cases answered : host.disk.refusal transfer with
    | some cause =>
      obtain ⟨failed, left⟩ := ran_error_iff.mp (attempt_of_refusal sized answered)
      rw [failed, left]
      exact ⟨[.transfer transfer (some cause)], rfl, .refused transfer cause (by simp)⟩
    | none =>
      obtain ⟨succeeded, left⟩ := ran_ok_iff.mp (attempt_of_service sized answered)
      rw [succeeded, left]
      refine ⟨[.transfer transfer none], rfl, .granted ?_⟩
      rintro event member ⟨attempt, cause, rfl⟩
      cases List.mem_singleton.mp member
  · obtain ⟨failed, left⟩ := ran_error_iff.mp (attempt_of_sectorSize sized transfer)
    constructor <;> rw [failed, left]
    · exact ⟨[], rfl, .granted (by simp)⟩
    · exact fun _ => ⟨.refl host, .inl rfl⟩

/-- Reading a sector is candid: its one transfer is its own last event if it is refused. -/
theorem readSector (lba : Nat) : Candid (FatVolume.readSector lba) :=
  (attempt (.read lba)).bind fun _ => get_bind (fun _ => rfl) fun _ => pure _

/-- Writing a sector is candid for the same reason as a read. -/
theorem writeSector (lba : Nat) (data : Sector) : Candid (FatVolume.writeSector lba data) :=
  attempt (.write lba data)

/-- A sector that was kept is had without the disk, and one that was not is read; both are
candid. -/
theorem readUnlessKept (held : Option (Nat × Sector)) (lba : Nat) :
    Candid (FatVolume.readUnlessKept held lba) := by
  unfold FatVolume.readUnlessKept
  split
  · exact pure _
  · exact readSector lba

/-- A failure of the disk that is passed on without another transfer is as good as not
observed. Other failures may be acted upon. -/
theorem observe_bind {operation : HostM α} {next : Except Failure α → HostM β}
    (passed : ∀ failure : Failure, failure.OfDisk → FailsQuietly (next (.error failure)) failure)
    (first : Candid operation) (second : ∀ host, Candid (next (outcome operation host))) :
    Candid (observe operation >>= next) := by
  intro host
  obtain ⟨⟨events, traced, passes⟩, foreign⟩ := first host
  have observed : outcome (observe operation) host = .ok (outcome operation host) :=
    outcome_observe operation host
  obtain ⟨⟨later, continued, concluded⟩, further⟩ :=
    second host (afterwards operation host)
  constructor
  · rw [afterwards_bind_ok observed, outcome_bind_ok observed, afterwards_observe]
    generalize outcome operation host = ending at passes continued concluded
    cases passes with
    | granted granted =>
      exact ⟨later ++ events, by rw [continued, traced, List.append_assoc],
        concluded.behind granted⟩
    | refused attempt cause granted =>
      obtain ⟨noted, fails⟩ := passed _ (.transfer cause)
      rw [afterwards, outcome, fails]
      exact ⟨_, traced, .refused attempt cause granted⟩
  · intro other
    obtain ⟨untransferred, told⟩ := foreign other
    have still := congrArg Disk.sectorSize untransferred.disk
    rw [afterwards_bind_ok observed, outcome_bind_ok observed, afterwards_observe]
    rcases told with size | ⟨same, left⟩
    · obtain ⟨noted, fails⟩ := passed _ (.sectorSize _)
      rw [size, afterwards, outcome, fails]
      exact ⟨⟨untransferred.disk, untransferred.spared⟩, .inl rfl⟩
    · obtain ⟨onward, told⟩ := further (still ▸ other)
      have seen : outcome (observe operation) host.standard = .ok (outcome operation host) := by
        rw [outcome_observe, same]
      rw [afterwards_bind_ok seen, outcome_bind_ok seen, afterwards_observe, left, ← still]
      exact ⟨untransferred.trans onward, told⟩

/-- What every round of a loop over a list is, the loop is: the first refusal ends it. -/
theorem forM {body : α → HostM Unit} (candid : ∀ value, Candid (body value)) (values : List α) :
    Candid (values.forM body) := by
  induction values with
  | nil => exact pure ()
  | cons first rest inductionHypothesis => exact (candid first).bind fun _ => inductionHypothesis

/-- A fold over a list is candid if every round of it is, from whatever state that begins. -/
theorem foldlM {body : α → β → HostM α} (candid : ∀ state value, Candid (body state value))
    (values : List β) (start : α) : Candid (values.foldlM body start) := by
  induction values generalizing start with
  | nil => exact pure start
  | cons first rest inductionHypothesis =>
    rw [List.foldlM_cons]
    exact (candid start first).bind inductionHypothesis

end Candid

/-! ## Beside a cursor -/

/-- A change of the cursor alone returns the cursor and leaves the host, if it does not
depend on the host. -/
theorem Cursor.alongside_modify {change : Walk → Walk} (cursor : Cursor) (host : Host)
    (still : ∀ walk, (change walk).host = walk.host)
    (same : ∀ cursor host other, (change ⟨cursor, host⟩).cursor = (change ⟨cursor, other⟩).cursor) :
    cursor.alongside (modify change) = pure (PUnit.unit, (change ⟨cursor, host⟩).cursor) := by
  funext other
  change EStateM.Result.ok (_, (change ⟨cursor, other⟩).cursor) (change ⟨cursor, other⟩).host = _
  rw [still, same cursor other host]
  rfl

/-- Beside every cursor, the operation passes on what it is told by the disk. -/
def CandidWalk (operation : WalkM α) : Prop := ∀ cursor : Cursor, Candid (cursor.alongside operation)

namespace CandidWalk

/-- Returning a value beside a cursor is candid. -/
theorem pure (value : α) : CandidWalk (pure value : WalkM α) := fun cursor =>
  Candid.pure (value, cursor)

/-- Throwing a failure beside a cursor is candid. -/
theorem throw (failure : Failure) : CandidWalk (throw failure : WalkM α) := fun _ =>
  Candid.throw failure

/-- Two candid operations with a cursor are candid in a row, the second one from whatever
cursor the first one leaves. -/
theorem bind {operation : WalkM α} {next : α → WalkM β} (first : CandidWalk operation)
    (second : ∀ value, CandidWalk (next value)) : CandidWalk (operation >>= next) := by
  intro cursor
  rw [Cursor.alongside_bind]
  exact (first cursor).bind fun ending => second ending.1 ending.2

/-- A candid operation on the host is candid beside a cursor. -/
theorem lift {operation : HostM α} (candid : Candid operation) :
    CandidWalk (liftM operation : WalkM α) := by
  intro cursor
  rw [Cursor.alongside_lift]
  exact candid.bind fun value => .pure (value, cursor)

/-- The cursor may be looked at in an operation that does not depend on the host. -/
theorem get_bind {next : Walk → WalkM β}
    (same : ∀ cursor host other, next ⟨cursor, host⟩ = next ⟨cursor, other⟩)
    (candid : ∀ walk, CandidWalk (next walk)) : CandidWalk (get >>= next) := by
  intro cursor host
  have seen : cursor.alongside (get >>= next) = cursor.alongside (next ⟨cursor, host⟩) := by
    funext other
    rw [← same cursor other host]
    rfl
  rw [seen]
  exact candid _ cursor host

/-- A change of the cursor alone is candid, for the disk is not asked. -/
theorem modify {change : Walk → Walk} (still : ∀ walk, (change walk).host = walk.host)
    (same : ∀ cursor host other, (change ⟨cursor, host⟩).cursor = (change ⟨cursor, other⟩).cursor) :
    CandidWalk (modify change) := by
  intro cursor host
  rw [Cursor.alongside_modify cursor host still same]
  exact Candid.pure _ host

end CandidWalk

/-- With its cursor dropped, an operation is as candid as before. This takes results about
cursors back to hosts. -/
theorem CandidWalk.along {operation : WalkM α} (candid : CandidWalk operation) (cursor : Cursor) :
    Candid (cursor.along operation) := by
  rw [Cursor.along_eq]
  exact (candid cursor).bind fun ending => .pure ending.1

end FatVolume
