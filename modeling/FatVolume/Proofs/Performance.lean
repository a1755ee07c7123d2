import FatVolume.Proofs.Medium

/-!
# What operations perform

An operation is specified by the medium it is run on: the value or failure it is to end
in, and the writes it is to carry out. No disk can make it do anything else, but a disk
can cut it short. `Performs` says so for every host with the medium: either the operation
was carried out, without a refusal on the way, or its last event is the refusal that it
ended in, or the disk has sectors of a foreign size; and in the last two cases a first
part of the writes was carried out.

The rules below compose such specifications. They do not speak of notices, of recorded
computations, or of what a host would refuse.
-/

namespace FatVolume

/-- What operations leave alone in a host. -/
structure Host.SameDevice (before after : Host) : Prop where
  capacity : after.disk.capacity = before.disk.capacity
  sectorSize : after.disk.sectorSize = before.disk.sectorSize
  faults : after.disk.faults = before.disk.faults
  largestBlock : after.largestBlock = before.largestBlock

namespace Host.SameDevice

/-- Nothing happens to a device in no time; the starting point for counting up the steps
of a run. -/
theorem refl (host : Host) : host.SameDevice host := ⟨rfl, rfl, rfl, rfl⟩

/-- What two runs in a row leave alone is left alone by the whole. -/
theorem trans {before between after : Host} (first : before.SameDevice between)
    (second : between.SameDevice after) : before.SameDevice after where
  capacity := second.capacity.trans first.capacity
  sectorSize := second.sectorSize.trans first.sectorSize
  faults := second.faults.trans first.faults
  largestBlock := second.largestBlock.trans first.largestBlock

end Host.SameDevice

/-- The failure is one of the disk. -/
inductive Failure.OfDisk : Failure → Prop
  | transfer (cause : DiskError) : OfDisk (.transfer cause)
  | sectorSize (bytes : Nat) : OfDisk (.sectorSize bytes)

/-- The result is no failure of the disk. -/
def SparedByDisk {α : Type} (result : Except Failure α) : Prop :=
  ∀ failure, result = .error failure → ¬ failure.OfDisk

/-- How a run ends that is to have a result and to carry out some writes, on a disk with
sectors of a given size, after some events. -/
inductive Ending {α : Type} (sectorSize : Nat) (intended : Except Failure α)
    (writes : List Write) (events : List Event) : Except Failure α → Prop
  | completed (granted : ∀ event ∈ events, ¬ event.IsRefusal) (carried : journal events = writes) :
      Ending sectorSize intended writes events intended
  | refused (attempt : Transfer) (cause : DiskError) (earlier : List Event)
      (last : events = .transfer attempt (some cause) :: earlier)
      (granted : ∀ event ∈ earlier, ¬ event.IsRefusal) (begun : journal events <+: writes) :
      Ending sectorSize intended writes events (.error (.transfer cause))
  | foreign (other : sectorSize ≠ 512) (begun : journal events <+: writes) :
      Ending sectorSize intended writes events (.error (.sectorSize sectorSize))

namespace Ending

variable {α β : Type} {sectorSize : Nat} {intended answer : Except Failure α}
  {writes further : List Write} {events later : List Event}

/-- A first part of the writes has been carried out, however a run ends. A disk can stop
the writes, but it cannot reorder them or put others in their place. -/
theorem begun (ending : Ending sectorSize intended writes events answer) :
    journal events <+: writes := by
  cases ending with
  | completed granted carried => exact carried ▸ List.prefix_rfl
  | refused attempt cause earlier last granted begun => exact begun
  | foreign other begun => exact begun

/-- A run ends as intended, or in a failure of the disk. Such a failure is also how every
run is cut short that was to do more. -/
theorem completed_or_cut (ending : Ending sectorSize intended writes events answer) :
    (answer = intended ∧ (∀ event ∈ events, ¬ event.IsRefusal) ∧ journal events = writes) ∨
    ∃ failure : Failure, failure.OfDisk ∧ answer = .error failure ∧
      ∀ (other : Except Failure β) (more : List Write), writes <+: more →
        Ending sectorSize other more events (.error failure) := by
  cases ending with
  | completed granted carried => exact .inl ⟨rfl, granted, carried⟩
  | refused attempt cause earlier last granted begun =>
    exact .inr ⟨_, .transfer cause, rfl, fun other more longer =>
      .refused attempt cause earlier last granted (begun.trans longer)⟩
  | foreign different begun =>
    exact .inr ⟨_, .sectorSize _, rfl, fun other more longer =>
      .foreign different (begun.trans longer)⟩

/-- What stands behind a part that was carried out ends the whole: the writes of both
parts come one after the other, and a refusal later on is still the last event. -/
theorem behind (granted : ∀ event ∈ events, ¬ event.IsRefusal) (carried : journal events = writes)
    (ending : Ending sectorSize intended further later answer) :
    Ending sectorSize intended (writes ++ further) (later ++ events) answer := by
  have onlyGranted (rest : List Event) (none : ∀ event ∈ rest, ¬ event.IsRefusal) :
      ∀ event ∈ rest ++ events, ¬ event.IsRefusal := by
    intro event member
    rcases List.mem_append.mp member with recent | old
    · exact none event recent
    · exact granted event old
  have whole : journal (later ++ events) = writes ++ journal later := by
    rw [journal_append, carried]
  cases ending with
  | completed grantedLater carriedLater =>
    apply completed (onlyGranted later grantedLater)
    rw [whole, carriedLater]
  | refused attempt cause earlier last grantedLater begun =>
    apply refused attempt cause (earlier ++ events) _ (onlyGranted earlier grantedLater)
    · rw [whole]
      exact (List.prefix_append_right_inj writes).mpr begun
    · rw [last, List.cons_append]
  | foreign other begun =>
    apply foreign other
    rw [whole]
    exact (List.prefix_append_right_inj writes).mpr begun

end Ending

/-- Nothing unwanted happened between a host and what it became. -/
def Host.Spared (unwanted : Event → Prop) (before after : Host) : Prop :=
  ∃ events, after.trace = events ++ before.trace ∧ ∀ event ∈ events, ¬ unwanted event

/-- Between a host and itself nothing has happened, and so nothing unwanted. -/
theorem Host.Spared.refl (unwanted : Event → Prop) (host : Host) : host.Spared unwanted host :=
  ⟨[], rfl, by simp⟩

/-- If fewer events are unwanted, a run that was spared the more is spared the fewer. -/
theorem Host.Spared.mono {unwanted other : Event → Prop} {before after : Host}
    (spared : before.Spared unwanted after) (implied : ∀ event, other event → unwanted event) :
    before.Spared other after := by
  obtain ⟨events, traced, granted⟩ := spared
  exact ⟨events, traced, fun event member wanted => granted event member (implied event wanted)⟩

/-- Nothing unwanted happened in a run if nothing did in its parts, for the events of the
run are those of the parts. -/
theorem Host.Spared.trans {unwanted : Event → Prop} {before between after : Host}
    (first : before.Spared unwanted between) (second : between.Spared unwanted after) :
    before.Spared unwanted after := by
  obtain ⟨earlier, begun, early⟩ := first
  obtain ⟨later, continued, late⟩ := second
  refine ⟨later ++ earlier, by rw [continued, begun, List.append_assoc], fun event member => ?_⟩
  exact (List.mem_append.mp member).elim (late event) (early event)

/-- Nothing unwanted happened in a part of a run if nothing did in the whole. The parts
are known by their traces alone. -/
theorem Host.Spared.divide {unwanted : Event → Prop} {before between after : Host}
    (spared : before.Spared unwanted after)
    (first : ∃ events, between.trace = events ++ before.trace)
    (second : ∃ events, after.trace = events ++ between.trace) :
    before.Spared unwanted between ∧ between.Spared unwanted after := by
  obtain ⟨earlier, begun⟩ := first
  obtain ⟨later, continued⟩ := second
  obtain ⟨events, traced, granted⟩ := spared
  rw [continued, begun, ← List.append_assoc] at traced
  obtain rfl := List.append_cancel_right traced
  exact ⟨⟨earlier, begun, fun event member => granted event (List.mem_append_right _ member)⟩,
    ⟨later, continued, fun event member => granted event (List.mem_append_left _ member)⟩⟩

/-- What is known to have happened was not unwanted, as two hosts determine the events
between them. -/
theorem Host.Spared.known {unwanted : Event → Prop} {before after : Host} {events : List Event}
    (spared : before.Spared unwanted after) (traced : after.trace = events ++ before.trace) :
    ∀ event ∈ events, ¬ unwanted event := by
  obtain ⟨others, same, granted⟩ := spared
  rw [traced] at same
  obtain rfl := List.append_cancel_right same
  exact granted

/-- Nothing unwanted happened where none of it is in the trace, neither before nor since. -/
theorem Host.Spared.of_trace {unwanted : Event → Prop} {before after : Host}
    (traced : ∃ events, after.trace = events ++ before.trace)
    (free : ∀ event ∈ after.trace, ¬ unwanted event) : before.Spared unwanted after := by
  obtain ⟨events, same⟩ := traced
  refine ⟨events, same, fun event member => free event ?_⟩
  rw [same]
  exact List.mem_append_left _ member

/-- No transfer was refused between a host and what it became. -/
def Host.Undisturbed (before after : Host) : Prop :=
  ∃ events, after.trace = events ++ before.trace ∧ ∀ event ∈ events, ¬ event.IsRefusal

/-- Nothing was refused in a run if nothing was refused in its parts; successful requests
in a row make an undisturbed stretch. -/
theorem Host.Undisturbed.trans {before between after : Host}
    (first : before.Undisturbed between) (second : between.Undisturbed after) :
    before.Undisturbed after :=
  Host.Spared.trans first second

/-- Nothing was refused in a part of a run if nothing was refused in the whole. So a
stretch of requests is undisturbed request by request. -/
theorem Host.Undisturbed.divide {before between after : Host}
    (undisturbed : before.Undisturbed after)
    (first : ∃ events, between.trace = events ++ before.trace)
    (second : ∃ events, after.trace = events ++ between.trace) :
    before.Undisturbed between ∧ between.Undisturbed after :=
  Host.Spared.divide undisturbed first second

/-- Where no transfer was refused and no write was served, none was attempted: a write is
served, refused, or not made. -/
theorem Host.Undisturbed.unwritten {before after : Host} {events : List Event}
    (undisturbed : before.Undisturbed after) (traced : after.trace = events ++ before.trace)
    (none : journal events = []) : before.Spared Event.IsWrite after := by
  refine ⟨events, traced, ?_⟩
  rintro event member ⟨lba, data, answer, rfl⟩
  cases answer with
  | some cause => exact Host.Spared.known undisturbed traced _ member ⟨_, cause, rfl⟩
  | none =>
    have served : Write.mk lba data ∈ journal events :=
      List.mem_filterMap.mpr ⟨_, List.mem_reverse.mpr member, rfl⟩
    rw [none] at served
    cases served

/-- From this host, the operation carries out the writes and ends as intended unless the
disk cuts it short. -/
def PerformsFrom {α : Type} (operation : HostM α) (host : Host) (intended : Except Failure α)
    (writes : List Write) : Prop :=
  ∃ events, (afterwards operation host).trace = events ++ host.trace ∧
    (afterwards operation host).medium = host.medium.apply (journal events) ∧
    host.SameDevice (afterwards operation host) ∧
    Ending host.disk.sectorSize intended writes events (outcome operation host)

/-- On a medium, the operation carries out the writes and ends as intended unless the disk
cuts it short. -/
def Performs {α : Type} (operation : HostM α) (medium : Medium) (intended : Except Failure α)
    (writes : List Write) : Prop :=
  ∀ host : Host, host.medium = medium → PerformsFrom operation host intended writes

/-- On a medium, the operation changes nothing and ends as intended unless the disk cuts
it short. -/
abbrev Reads {α : Type} (operation : HostM α) (medium : Medium)
    (intended : Except Failure α) : Prop :=
  Performs operation medium intended []

variable {α β : Type} {medium : Medium} {writes further : List Write}

namespace PerformsFrom

variable {operation : HostM α} {next : α → HostM β} {host : Host}

/-- What stands behind a success is carried out on what the success left. The rule is
given the host in between, on which the faults of the disk may already have had their
effect. -/
theorem bind {value : α} {intended : Except Failure β}
    (first : PerformsFrom operation host (.ok value) writes)
    (second : ∀ between : Host, host.SameDevice between →
      between.medium = host.medium.apply writes → PerformsFrom (next value) between intended further) :
    PerformsFrom (operation >>= next) host intended (writes ++ further) := by
  obtain ⟨events, traced, changed, device, ending⟩ := first
  rcases ending.completed_or_cut with ⟨ended, granted, carried⟩ | ⟨failure, _, ended, cut⟩
  · obtain ⟨later, continued, onward, kept, concluded⟩ :=
      second (afterwards operation host) device (by rw [changed, carried])
    rw [device.sectorSize] at concluded
    rw [PerformsFrom, afterwards_bind_ok ended, outcome_bind_ok ended]
    refine ⟨later ++ events, ?_, ?_, device.trans kept, concluded.behind granted carried⟩
    · rw [continued, traced, List.append_assoc]
    · rw [onward, changed, journal_append, Medium.apply_append]
  · rw [PerformsFrom, afterwards_bind_error ended, outcome_bind_error ended]
    exact ⟨events, traced, changed, device, cut _ _ (List.prefix_append writes further)⟩

/-- A first part of the writes is carried out, whatever the disk refuses, and nothing else
is done to the medium. -/
theorem leaves {intended : Except Failure α}
    (performs : PerformsFrom operation host intended writes) :
    ∃ done, done <+: writes ∧ (afterwards operation host).medium = host.medium.apply done := by
  obtain ⟨events, _, changed, _, ending⟩ := performs
  exact ⟨journal events, ending.begun, changed⟩

/-- All of the writes are carried out where nothing was refused, and no others. The
journal of the run is the list of them. -/
theorem journaled {intended : Except Failure α}
    (performs : PerformsFrom operation host intended writes)
    (sized : host.disk.sectorSize = 512)
    (undisturbed : host.Undisturbed (afterwards operation host)) :
    outcome operation host = intended ∧
      ∃ events, (afterwards operation host).trace = events ++ host.trace ∧
        journal events = writes := by
  obtain ⟨events, traced, _, _, ending⟩ := performs
  have granted := Host.Spared.known undisturbed traced
  generalize outcome operation host = answer at ending
  cases ending with
  | completed _ carried => exact ⟨rfl, events, traced, carried⟩
  | refused attempt cause earlier last =>
    refine absurd ⟨attempt, cause, rfl⟩ (granted (.transfer attempt (some cause)) ?_)
    rw [last]
    exact List.mem_cons_self
  | foreign other => exact absurd sized other

/-- Where nothing was refused, what is left is the medium with all of the writes applied,
and the operation has ended as intended. -/
theorem carriedOut {intended : Except Failure α}
    (performs : PerformsFrom operation host intended writes)
    (sized : host.disk.sectorSize = 512)
    (undisturbed : host.Undisturbed (afterwards operation host)) :
    outcome operation host = intended ∧
      (afterwards operation host).medium = host.medium.apply writes := by
  obtain ⟨ended, events, traced, carried⟩ := performs.journaled sized undisturbed
  obtain ⟨others, same, changed, _⟩ := performs
  rw [traced] at same
  obtain rfl := List.append_cancel_right same
  exact ⟨ended, by rw [changed, carried]⟩

/-- Nothing was refused on the way to a success: a refusal would have been the end of the
run and its outcome. -/
theorem undisturbed {intended : Except Failure α} {value : α}
    (performs : PerformsFrom operation host intended writes)
    (succeeded : outcome operation host = .ok value) :
    host.Undisturbed (afterwards operation host) := by
  obtain ⟨events, traced, _, _, ending⟩ := performs
  refine ⟨events, traced, ?_⟩
  rw [succeeded] at ending
  cases ending with
  | completed granted => exact granted

/-- Nothing stands behind a failure: what an operation intends to fail in is what the
whole intends, with the same writes. -/
theorem bind_error {failure : Failure}
    (first : PerformsFrom operation host (.error failure) writes) :
    PerformsFrom (operation >>= next) host (.error failure) writes := by
  obtain ⟨events, traced, changed, device, ending⟩ := first
  rcases ending.completed_or_cut with ⟨ended, granted, carried⟩ | ⟨cause, _, ended, cut⟩
  · rw [PerformsFrom, afterwards_bind_error ended, outcome_bind_error ended]
    exact ⟨events, traced, changed, device, .completed granted carried⟩
  · rw [PerformsFrom, afterwards_bind_error ended, outcome_bind_error ended]
    exact ⟨events, traced, changed, device, cut _ _ List.prefix_rfl⟩

end PerformsFrom

namespace Performs

/-- Returning a value reads nothing and writes nothing. -/
theorem pure (value : α) : Reads (pure value) medium (.ok value) :=
  fun host _ => ⟨[], rfl, rfl, .refl host, .completed (by simp) rfl⟩

/-- Throwing a failure reads nothing and writes nothing; the failure is the intended end. -/
theorem throw (failure : Failure) : Reads (throw failure : HostM α) medium (.error failure) :=
  fun host _ => ⟨[], rfl, rfl, .refl host, .completed (by simp) rfl⟩

/-- A computation without effects ends as it does on every medium, and nothing can cut it
short. -/
theorem lift (computation : Except Failure α) : Reads (liftM computation) medium computation := by
  cases computation with
  | ok value => exact pure value
  | error failure => exact throw failure

/-- Noting what is worked out makes no transfer, and so no medium and no disk can stop it. -/
theorem compute (computation : Computation) :
    Reads (FatVolume.compute computation) medium (.ok ()) :=
  fun _ _ => ⟨[], rfl, rfl, ⟨rfl, rfl, rfl, rfl⟩, .completed (by simp) rfl⟩

/-- Reporting a notice makes no transfer. The notice stands in the trace, but it is
neither a write nor a refusal. -/
theorem report (notice : Notice) : Reads (FatVolume.report notice) medium (.ok ()) := by
  intro _ _
  refine ⟨[.notice notice], rfl, rfl, ⟨rfl, rfl, rfl, rfl⟩, .completed ?_ rfl⟩
  rintro event member ⟨attempt, cause, same⟩
  rw [List.mem_singleton.mp member] at same
  cases same

/-- A transfer is served or refused. If it is a write that is served, it is the one write
of the operation. -/
theorem attempt (transfer : Transfer) :
    Performs (FatVolume.attempt transfer) medium (.ok ())
      (Event.write? (.transfer transfer none)).toList := by
  intro host _
  by_cases sized : host.disk.sectorSize = 512
  · cases answered : host.disk.refusal transfer with
    | some cause =>
      obtain ⟨failed, left⟩ := ran_error_iff.mp (attempt_of_refusal sized answered)
      rw [PerformsFrom, failed, left]
      refine ⟨[.transfer transfer (some cause)], rfl, ?_, ⟨rfl, rfl, rfl, rfl⟩, ?_⟩
      · cases transfer <;> rfl
      · apply Ending.refused transfer cause [] rfl (by simp)
        cases transfer <;> exact List.nil_prefix
    | none =>
      obtain ⟨succeeded, left⟩ := ran_ok_iff.mp (attempt_of_service sized answered)
      rw [PerformsFrom, succeeded, left]
      refine ⟨[.transfer transfer none], rfl, ?_, ?_, ?_⟩
      · cases transfer with
        | read lba => rfl
        | write lba data => exact host.medium_served_write lba data
      · cases transfer <;> exact ⟨rfl, rfl, rfl, rfl⟩
      · apply Ending.completed _ (by cases transfer <;> rfl)
        rintro event member ⟨attempt, cause, same⟩
        rw [List.mem_singleton.mp member] at same
        cases same
  · obtain ⟨failed, left⟩ := ran_error_iff.mp (attempt_of_sectorSize sized transfer)
    rw [PerformsFrom, failed, left]
    exact ⟨[], rfl, rfl, .refl host, .foreign sized List.nil_prefix⟩

/-- Writing a sector carries out one write, unless the disk refuses it. -/
theorem writeSector (lba : Nat) (data : Sector) :
    Performs (FatVolume.writeSector lba data) medium (.ok ()) [⟨lba, data⟩] :=
  attempt (.write lba data)

/-- What stands behind a success is carried out on the medium that the success left, and
the writes of both come one after the other. -/
theorem bind {operation : HostM α} {next : α → HostM β} {value : α} {intended : Except Failure β}
    (first : Performs operation medium (.ok value) writes)
    (second : Performs (next value) (medium.apply writes) intended further) :
    Performs (operation >>= next) medium intended (writes ++ further) := by
  intro host holds
  refine (first host holds).bind fun between _ left => second between ?_
  rw [left, holds]

/-- An operation that only reads may stand behind the last write without adding to the
writes. -/
theorem bindReads {operation : HostM α} {next : α → HostM β} {value : α}
    {intended : Except Failure β} (first : Performs operation medium (.ok value) writes)
    (second : Reads (next value) (medium.apply writes) intended) :
    Performs (operation >>= next) medium intended writes := by
  have both := first.bind second
  rwa [List.append_nil] at both

/-- What stands behind an intended failure is never reached, so the whole has the writes
of the first part and its failure. -/
theorem bind_error {operation : HostM α} {next : α → HostM β} {failure : Failure}
    (first : Performs operation medium (.error failure) writes) :
    Performs (operation >>= next) medium (.error failure) writes :=
  fun host holds => (first host holds).bind_error

end Performs

/-- A run that ends in a value has ended as intended, with all of its writes: refusals and
foreign sector sizes end in failures. -/
theorem PerformsFrom.carried_of_ok {operation : HostM α} {intended : Except Failure α} {host : Host}
    {value : α} (performs : PerformsFrom operation host intended writes)
    (ended : outcome operation host = .ok value) :
    intended = .ok value ∧ (afterwards operation host).medium = host.medium.apply writes := by
  obtain ⟨_, _, changed, _, ending⟩ := performs
  rw [ended] at ending
  cases ending with
  | completed _ carried => exact ⟨rfl, carried ▸ changed⟩

/-- A value in which a run ends is the one that the medium determines. The disk can only
add failures. -/
theorem Performs.intended_of_ok {operation : HostM α} {intended : Except Failure α} {host : Host}
    {value : α} (performs : Performs operation medium intended writes)
    (holds : host.medium = medium) (ended : outcome operation host = .ok value) :
    intended = .ok value := ((performs host holds).carried_of_ok ended).1

/-- A run that ends in no failure of the disk has ended as intended, be it in a value or
in a failure of its own. -/
theorem Performs.intended_of_spared {operation : HostM α} {intended : Except Failure α}
    {host : Host} (performs : Performs operation medium intended writes)
    (holds : host.medium = medium) (spared : SparedByDisk (outcome operation host)) :
    outcome operation host = intended := by
  obtain ⟨_, _, _, _, ending⟩ := performs host holds
  rcases @Ending.completed_or_cut α α _ _ _ _ _ ending with ⟨ended, _⟩ | ⟨_, ofDisk, cut, _⟩
  · exact ended
  · exact absurd ofDisk (spared _ cut)

namespace Reads

/-- However it ends, an operation that only reads leaves the medium as it is: the writes
it was to carry out are none. -/
theorem unchanged {operation : HostM α} {intended : Except Failure α} {host : Host}
    (reads : Reads operation medium intended) (holds : host.medium = medium) :
    (afterwards operation host).medium = medium := by
  obtain ⟨done, begun, left⟩ := (reads host holds).leaves
  rw [left, List.prefix_nil.mp begun, holds]
  rfl

/-- What stands behind an operation that only reads is carried out on the same medium, and
has all the writes. -/
theorem bind {operation : HostM α} {next : α → HostM β} {value : α} {intended : Except Failure β}
    (first : Reads operation medium (.ok value))
    (second : Performs (next value) medium intended writes) :
    Performs (operation >>= next) medium intended writes := Performs.bind first second

/-- Operations that only read compose as the values they are to end in: the intended end
of a sequence is computed without effects. -/
theorem andThen {operation : HostM α} {next : α → HostM β} {intended : Except Failure α}
    {following : α → Except Failure β} (first : Reads operation medium intended)
    (second : ∀ value, intended = .ok value → Reads (next value) medium (following value)) :
    Reads (operation >>= next) medium (intended >>= following) := by
  cases intended with
  | ok value => exact first.bind (second value rfl)
  | error failure => exact first.bind_error

/-- Reading a sector is to end in what the medium holds at the address. -/
theorem readSector (lba : Nat) : Reads (FatVolume.readSector lba) medium (.ok (medium lba)) := by
  intro host holds
  apply (Performs.attempt (.read lba) host holds).bind
  intro between _ left
  have same : between.disk.sector lba = medium lba := by
    change between.medium lba = medium lba
    rw [left, holds]
    rfl
  refine ⟨[], rfl, rfl, .refl between, ?_⟩
  change Ending between.disk.sectorSize (.ok (medium lba)) [] []
    (.ok (between.disk.sector lba))
  rw [same]
  exact .completed (by simp) rfl

/-- A failure of the disk that is passed on is as good as not observed. Only the other
failures reach what comes behind, and those are determined by the medium. -/
theorem observe_bind {operation : HostM α} {next : Except Failure α → HostM β}
    {ending : Except Failure α} {intended : Except Failure β}
    (passed : ∀ failure : Failure, failure.OfDisk → next (.error failure) = throw failure)
    (first : Reads operation medium ending)
    (second : Performs (next ending) medium intended writes) :
    Performs (observe operation >>= next) medium intended writes := by
  intro host holds
  obtain ⟨events, traced, changed, device, concluded⟩ := first host holds
  rcases concluded.completed_or_cut with ⟨ended, granted, carried⟩ | ⟨failure, ofDisk, ended, cut⟩
  · have observed : PerformsFrom (observe operation) host (.ok ending) [] := by
      rw [PerformsFrom, afterwards_observe, outcome_observe, ended]
      exact ⟨events, traced, changed, device, .completed granted carried⟩
    apply observed.bind
    intro between _ left
    apply second between
    rw [left, holds]
    rfl
  · have observed : outcome (observe operation) host = .ok (.error failure) := by
      rw [outcome_observe, ended]
    rw [PerformsFrom, afterwards_bind_ok observed, outcome_bind_ok observed, passed failure ofDisk,
      afterwards_throw, outcome_throw, afterwards_observe]
    exact ⟨events, traced, changed, device, cut _ _ List.nil_prefix⟩

end Reads

end FatVolume
