import FatVolume.Proofs.Performance
import FatVolume.Proofs.Steps

/-!
# Disks that refuse nothing

A host serves a volume when its disk has sectors of the right size and neither ends
before the volume nor refuses a transfer within it, whatever it has been through. An
operation that is confined to the volume is then never cut short: what it performs is
carried out in full. Its answer is a function of the medium alone.
-/

namespace FatVolume

/-- The disk refuses no transfer of the volume, now or later. -/
structure Host.Serves (host : Host) (volume : Volume) : Prop where
  sized : host.disk.sectorSize = 512
  reached : ∀ lba, volume.Owns lba → lba < host.disk.capacity
  granted : ∀ tally transfer, volume.Owns transfer.lba → host.disk.faults tally transfer = none

/-- A host with the same device serves the same volumes, as serving depends on the disk's
size, sectors and faults alone. -/
theorem Host.Serves.of_sameDevice {before after : Host} {volume : Volume}
    (serves : before.Serves volume) (same : before.SameDevice after) : after.Serves volume where
  sized := same.sectorSize.trans serves.sized
  reached lba owned := by rw [same.capacity]; exact serves.reached lba owned
  granted := by rw [same.faults]; exact serves.granted

/-- A disk that is long enough and never refuses anything serves the volume. -/
theorem Host.Serves.of_capacity {host : Host} {volume : Volume}
    (sized : host.disk.sectorSize = 512) (whole : volume.dataEnd ≤ host.disk.capacity)
    (granted : ∀ tally transfer, host.disk.faults tally transfer = none) : host.Serves volume where
  sized := sized
  reached _ owned := Nat.lt_of_lt_of_le owned.lt_dataEnd whole
  granted tally transfer _ := granted tally transfer

/-- A disk that serves a volume refuses no transfer of the volume's sectors, whatever it
has been through. -/
theorem Host.Serves.refusal {host : Host} {volume : Volume} (serves : host.Serves volume)
    {transfer : Transfer} (owned : volume.Owns transfer.lba) :
    host.disk.refusal transfer = none := by
  rw [Disk.refusal, if_pos (serves.reached _ owned), serves.granted _ transfer owned]

variable {α β : Type} {volume : Volume} {allowed : Transfer → Prop}

/-- No step changes the device: transfers replace sectors and counts, but neither the
capacity nor the faults. -/
theorem Step.sameDevice {layout : Layout} {before after : Host}
    (step : Step layout allowed before after) : before.SameDevice after := by
  cases step with
  | transfer transfer owned permitted =>
    by_cases sized : before.disk.sectorSize = 512
    · cases answered : before.disk.refusal transfer with
      | some cause =>
        rw [afterwards, attempt_of_refusal sized answered]
        exact ⟨rfl, rfl, rfl, rfl⟩
      | none =>
        rw [afterwards, attempt_of_service sized answered]
        cases transfer <;> exact ⟨rfl, rfl, rfl, rfl⟩
    · rw [afterwards, attempt_of_sectorSize sized]
      exact .refl before
  | compute computation proper => exact ⟨rfl, rfl, rfl, rfl⟩
  | report notice => exact ⟨rfl, rfl, rfl, rfl⟩

/-- No run of steps changes the device, so a host that serves a volume keeps serving it. -/
theorem Steps.sameDevice {layout : Layout} {before after : Host}
    (steps : Steps layout allowed before after) : before.SameDevice after := by
  induction steps with
  | refl => exact .refl before
  | tail _ step inductionHypothesis => exact inductionHypothesis.trans step.sameDevice

/-- A permitted step of a host that serves the volume meets no refusal, for its sector
belongs to the volume. -/
theorem Step.served {before after : Host} (step : Step volume.toLayout allowed before after)
    (serves : before.Serves volume) : before.Undisturbed after := by
  cases step with
  | transfer transfer owned permitted =>
    rw [afterwards, attempt_of_service serves.sized (serves.refusal owned)]
    refine ⟨[.transfer transfer none], rfl, ?_⟩
    rintro event member ⟨attempt, cause, same⟩
    rw [List.mem_singleton.mp member] at same
    cases same
  | compute computation proper => exact ⟨[], rfl, by simp⟩
  | report notice =>
    refine ⟨[.notice notice], rfl, ?_⟩
    rintro event member ⟨attempt, cause, same⟩
    rw [List.mem_singleton.mp member] at same
    cases same

/-- No number of permitted steps meets a refusal on a host that serves the volume. The
induction uses that the host keeps serving it. -/
theorem Steps.served {before after : Host} (steps : Steps volume.toLayout allowed before after)
    (serves : before.Serves volume) : before.Undisturbed after := by
  induction steps with
  | refl => exact Host.Spared.refl _ before
  | tail earlierSteps step inductionHypothesis =>
    exact Host.Undisturbed.trans inductionHypothesis
      (step.served (serves.of_sameDevice (Steps.sameDevice earlierSteps)))

/-- A confined operation is carried out in full by a host that serves the volume: it ends
as intended, with all of its writes and on the same device. -/
theorem PerformsFrom.completes {operation : HostM α} {host : Host}
    {intended : Except Failure α} {writes : List Write} {described : α → Prop}
    (performs : PerformsFrom operation host intended writes)
    (confined : Confined volume.toLayout allowed operation described)
    (serves : host.Serves volume) :
    outcome operation host = intended ∧
      (afterwards operation host).medium = host.medium.apply writes ∧
      host.SameDevice (afterwards operation host) := by
  have steps := (confined host).1
  obtain ⟨ended, changed⟩ := performs.carriedOut serves.sized (steps.served serves)
  exact ⟨ended, changed, steps.sameDevice⟩

/-- A disk with sectors of another size is never written to, as each transfer is refused
before it is attempted. -/
theorem Step.foreign {before after : Host} (step : Step volume.toLayout allowed before after)
    (other : before.disk.sectorSize ≠ 512) :
    after.disk.sectorSize = before.disk.sectorSize ∧ after.medium = before.medium := by
  cases step with
  | transfer transfer owned permitted =>
    rw [afterwards, attempt_of_sectorSize other]
    exact ⟨rfl, rfl⟩
  | compute computation proper => exact ⟨rfl, rfl⟩
  | report notice => exact ⟨rfl, rfl⟩

/-- A run on a disk with sectors of another size leaves both the size and the medium as
they were. -/
theorem Steps.foreign {before after : Host} (steps : Steps volume.toLayout allowed before after)
    (other : before.disk.sectorSize ≠ 512) :
    after.disk.sectorSize = before.disk.sectorSize ∧ after.medium = before.medium := by
  induction steps with
  | refl => exact ⟨rfl, rfl⟩
  | tail _ step inductionHypothesis =>
    obtain ⟨sized, same⟩ := inductionHypothesis
    obtain ⟨still, kept⟩ := step.foreign (sized ▸ other)
    exact ⟨still.trans sized, kept.trans same⟩

/-- No transfer is forbidden: only the region matters. -/
abbrev AnyTransfer : Transfer → Prop := fun _ => True

/-- On a medium that a host serves, the operation ends in an answer and leaves the medium
as it is. -/
def Answers {α : Type} (volume : Volume) (operation : HostM α) (medium : Medium)
    (answer : Except Failure α) : Prop :=
  ∀ host : Host, host.medium = medium → host.Serves volume →
    outcome operation host = answer ∧ (afterwards operation host).medium = medium ∧
      host.SameDevice (afterwards operation host)

variable {medium : Medium}

/-- What a confined operation reads is its answer on every host that has the medium and
serves the volume. -/
theorem Reads.answers {operation : HostM α} {intended : Except Failure α}
    {described : α → Prop} (reads : Reads operation medium intended)
    (confined : Confined volume.toLayout AnyTransfer operation described) :
    Answers volume operation medium intended := by
  intro host holds serves
  obtain ⟨ended, left, device⟩ := (reads host holds).completes confined serves
  exact ⟨ended, by rw [left, holds]; rfl, device⟩

namespace Answers

/-- A value that is returned at once is the answer on every medium. -/
theorem pure (value : α) : Answers volume (pure value) medium (.ok value) :=
  fun host holds _ => ⟨rfl, holds, .refl host⟩

/-- A failure that is thrown at once is the answer on every medium. -/
theorem throw (failure : Failure) :
    Answers volume (throw failure : HostM α) medium (.error failure) :=
  fun host holds _ => ⟨rfl, holds, .refl host⟩

/-- What follows a success is answered on the same medium. What is known of every value of
the first operation may be used to follow the second. -/
theorem bindKnowing {operation : HostM α} {next : α → HostM β} {value : α}
    {answer : Except Failure β} {described : α → Prop}
    (first : Answers volume operation medium (.ok value))
    (confined : Confined volume.toLayout AnyTransfer operation described)
    (second : described value → Answers volume (next value) medium answer) :
    Answers volume (operation >>= next) medium answer := by
  intro host holds serves
  obtain ⟨ended, left, device⟩ := first host holds serves
  have known := (confined host).2 value ended
  obtain ⟨concluded, still, kept⟩ := second known _ left (serves.of_sameDevice device)
  rw [outcome_bind_ok ended, afterwards_bind_ok ended]
  exact ⟨concluded, still, device.trans kept⟩

/-- Answers compose as values: the answer of a sequence is computed without effects from
the answers of its parts. -/
theorem andThen {operation : HostM α} {next : α → HostM β} {answer : Except Failure α}
    {following : α → Except Failure β} (first : Answers volume operation medium answer)
    (second : ∀ value, answer = .ok value → Answers volume (next value) medium (following value)) :
    Answers volume (operation >>= next) medium (answer >>= following) := by
  intro host holds serves
  obtain ⟨ended, left, device⟩ := first host holds serves
  cases answer with
  | error failure =>
    rw [outcome_bind_error ended, afterwards_bind_error ended]
    exact ⟨rfl, left, device⟩
  | ok value =>
    rw [outcome_bind_ok ended, afterwards_bind_ok ended]
    obtain ⟨concluded, still, kept⟩ := second value rfl _ left (serves.of_sameDevice device)
    exact ⟨concluded, still, device.trans kept⟩

/-- What follows the answer is answered on the same medium, since an operation that
answers leaves the medium as it is. -/
theorem bind {operation : HostM α} {next : α → HostM β} {value : α} {answer : Except Failure β}
    (first : Answers volume operation medium (.ok value))
    (second : Answers volume (next value) medium answer) :
    Answers volume (operation >>= next) medium answer := by
  have both : Answers volume (operation >>= next) medium (.ok value >>= fun _ => answer) := by
    apply first.andThen
    rintro _ ⟨⟩
    exact second
  exact both

/-- An observed operation answers with the whole of what it would answer, be that a value
or a failure. -/
theorem observe {operation : HostM α} {answer : Except Failure α}
    (answers : Answers volume operation medium answer) :
    Answers volume (FatVolume.observe operation) medium (.ok answer) := by
  intro host holds serves
  obtain ⟨ended, left, device⟩ := answers host holds serves
  rw [outcome_observe, afterwards_observe, ended]
  exact ⟨rfl, left, device⟩

end Answers

end FatVolume
