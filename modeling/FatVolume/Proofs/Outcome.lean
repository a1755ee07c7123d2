import FatVolume.Host

/-!
# Outcomes and final states

A run ends in a value or a failure, and in a state either way. `outcome` and
`afterwards` name the two parts, so that a statement about a run can speak of each
alone. The laws below follow a run through sequencing: an operation that fails
decides both parts of the whole, and one that succeeds hands its state on.
-/

namespace FatVolume

variable {ε σ α β : Type}

/-- The value or the failure in which an operation ends. -/
def outcome (operation : EStateM ε σ α) (before : σ) : Except ε α :=
  match operation before with
  | .ok value _ => .ok value
  | .error failure _ => .error failure

/-- The state in which an operation ends, successful or not. -/
def afterwards (operation : EStateM ε σ α) (before : σ) : σ :=
  match operation before with
  | .ok _ after => after
  | .error _ after => after

/-- A successful run is known by its two parts: the value in which it ends, and the state
that it leaves. -/
theorem ran_ok_iff {operation : EStateM ε σ α} {before after : σ} {value : α} :
    operation before = .ok value after ↔
      outcome operation before = .ok value ∧ afterwards operation before = after := by
  simp only [outcome, afterwards]
  cases operation before <;> simp

/-- A failed run is known by its two parts as well. The state it leaves is kept: a failure
does not undo what came before it. -/
theorem ran_error_iff {operation : EStateM ε σ α} {before after : σ} {failure : ε} :
    operation before = .error failure after ↔
      outcome operation before = .error failure ∧ afterwards operation before = after := by
  simp only [outcome, afterwards]
  cases operation before <;> simp

/-- A value that is returned at once is the outcome, whatever the state. -/
@[simp] theorem outcome_pure (value : α) (before : σ) :
    outcome (pure value : EStateM ε σ α) before = .ok value := rfl

/-- Returning a value at once leaves the state alone. -/
@[simp] theorem afterwards_pure (value : α) (before : σ) :
    afterwards (pure value : EStateM ε σ α) before = before := rfl

/-- A failure that is thrown at once is the outcome, whatever the state. -/
@[simp] theorem outcome_throw (failure : ε) (before : σ) :
    outcome (throw failure : EStateM ε σ α) before = .error failure := rfl

/-- Throwing a failure leaves the state alone; only what ran before it has had effects. -/
@[simp] theorem afterwards_throw (failure : ε) (before : σ) :
    afterwards (throw failure : EStateM ε σ α) before = before := rfl

/-- Asking for the state succeeds with the state itself. -/
@[simp] theorem outcome_get (before : σ) : outcome (get : EStateM ε σ σ) before = .ok before := rfl

/-- Asking for the state does not change it. -/
@[simp] theorem afterwards_get (before : σ) :
    afterwards (get : EStateM ε σ σ) before = before := rfl

/-- A lifted computation without effects ends as the computation does, in a value or in
its failure. -/
@[simp] theorem outcome_lift (computation : Except ε α) (before : σ) :
    outcome (liftM computation : EStateM ε σ α) before = computation := by
  cases computation <;> rfl

/-- A lifted computation without effects leaves the state alone even where it fails. -/
@[simp] theorem afterwards_lift (computation : Except ε α) (before : σ) :
    afterwards (liftM computation : EStateM ε σ α) before = before := by
  cases computation <;> rfl

/-- An observed operation never fails: its own outcome, failures included, becomes the
value. -/
@[simp] theorem outcome_observe (operation : EStateM ε σ α) (before : σ) :
    outcome (observe operation) before = .ok (outcome operation before) := by
  simp only [outcome, observe]
  cases operation before <;> rfl

/-- Observing an operation does not change its effects, so the state is the one that the
operation itself leaves. -/
@[simp] theorem afterwards_observe (operation : EStateM ε σ α) (before : σ) :
    afterwards (observe operation) before = afterwards operation before := by
  simp only [afterwards, observe]
  cases operation before <;> rfl

/-- A sequence of two computations without effects succeeds only if both do, and the value
of the first is what the second was given. -/
theorem ok_of_bind {first : Except ε α} {next : α → Except ε β} {value : β}
    (succeeded : (first >>= next) = .ok value) :
    ∃ middle, first = .ok middle ∧ next middle = .ok value := by
  cases first with
  | ok middle => exact ⟨middle, rfl, succeeded⟩
  | error failure => cases succeeded

/-- What follows a computation without effects is compared on the value of its success
alone; behind a failure nothing runs. -/
theorem bind_congr_ok {first : Except ε α} {next other : α → Except ε β}
    (same : ∀ value, first = .ok value → next value = other value) :
    first >>= next = first >>= other := by
  cases first with
  | ok value => exact same value rfl
  | error failure => rfl

section Sequence

variable {first : EStateM ε σ α} {next : α → EStateM ε σ β} {before : σ}

/-- What follows a success runs in the state that the success left, so the whole run is
that of the second operation from there. -/
theorem bind_of_ok {value : α} (succeeded : outcome first before = .ok value) :
    (first >>= next) before = next value (afterwards first before) := by
  obtain ran := ran_ok_iff.mpr ⟨succeeded, rfl⟩
  change EStateM.bind first next before = _
  simp only [EStateM.bind]
  rw [ran]

/-- Nothing follows a failure: the whole ends in it, with the state that the failing
operation left. -/
theorem bind_of_error {failure : ε} (failed : outcome first before = .error failure) :
    (first >>= next) before = .error failure (afterwards first before) := by
  obtain ran := ran_error_iff.mpr ⟨failed, rfl⟩
  change EStateM.bind first next before = _
  simp only [EStateM.bind]
  rw [ran]

/-- Behind a success the outcome is that of what follows, in the state that the success
left. -/
theorem outcome_bind_ok {value : α} (succeeded : outcome first before = .ok value) :
    outcome (first >>= next) before = outcome (next value) (afterwards first before) := by
  simp only [outcome]
  rw [bind_of_ok succeeded]

/-- Behind a success the state is the one that what follows leaves, begun where the
success ended. -/
theorem afterwards_bind_ok {value : α} (succeeded : outcome first before = .ok value) :
    afterwards (first >>= next) before = afterwards (next value) (afterwards first before) := by
  rw [afterwards, bind_of_ok succeeded, ← afterwards]

/-- The failure of a first operation is the outcome of the whole, whatever was to follow. -/
theorem outcome_bind_error {failure : ε} (failed : outcome first before = .error failure) :
    outcome (first >>= next) before = .error failure := by
  simp only [outcome]
  rw [bind_of_error failed]

/-- Behind a failure the state is the one that the failing operation left; what was to
follow has no effect. -/
theorem afterwards_bind_error {failure : ε} (failed : outcome first before = .error failure) :
    afterwards (first >>= next) before = afterwards first before := by
  rw [afterwards, bind_of_error failed]

end Sequence

/-! ## Transfers -/

/-- The host after the disk has refused a transfer. -/
def Host.refused (host : Host) (transfer : Transfer) (cause : DiskError) : Host :=
  { host with disk := host.disk.refuse }.record (.transfer transfer (some cause))

/-- The host after the disk has served a transfer. -/
def Host.served (host : Host) (transfer : Transfer) : Host :=
  { host with disk := host.disk.serve transfer }.record (.transfer transfer none)

/-- A disk with sectors of another size is not asked: the attempt ends at once, without an
event in the trace. -/
theorem attempt_of_sectorSize {host : Host} (wrong : host.disk.sectorSize ≠ 512)
    (transfer : Transfer) :
    attempt transfer host = .error (.sectorSize host.disk.sectorSize) host := by
  simp only [attempt]
  rw [bind_of_ok (outcome_get host)]
  dsimp only [afterwards_get]
  rw [if_pos wrong, bind_of_error (outcome_throw _ _), afterwards_throw]

/-- A refused transfer ends in the cause that the disk gives, and is recorded with it. The
disk counts the refusal. -/
theorem attempt_of_refusal {host : Host} (sized : host.disk.sectorSize = 512)
    {transfer : Transfer} {cause : DiskError} (refused : host.disk.refusal transfer = some cause) :
    attempt transfer host = .error (.transfer cause) (host.refused transfer cause) := by
  simp only [attempt]
  rw [bind_of_ok (outcome_get host)]
  dsimp only [afterwards_get]
  rw [if_neg (not_not_intro sized), refused]
  rfl

/-- A transfer that the disk grants succeeds, and leaves the host with the transfer served
and recorded. -/
theorem attempt_of_service {host : Host} (sized : host.disk.sectorSize = 512)
    {transfer : Transfer} (granted : host.disk.refusal transfer = none) :
    attempt transfer host = .ok () (host.served transfer) := by
  simp only [attempt]
  rw [bind_of_ok (outcome_get host)]
  dsimp only [afterwards_get]
  rw [if_neg (not_not_intro sized), granted]
  rfl

/-- A granted read yields the sector that the disk holds at the address, and changes no
more than any served transfer does. -/
theorem readSector_of_service {host : Host} (sized : host.disk.sectorSize = 512) {lba : Nat}
    (granted : host.disk.refusal (.read lba) = none) :
    readSector lba host = .ok (host.disk.sector lba) (host.served (.read lba)) := by
  obtain ⟨succeeded, left⟩ := ran_ok_iff.mp (attempt_of_service sized granted)
  simp only [readSector]
  rw [bind_of_ok succeeded, left]
  rfl

/-- A read that is refused, or not attempted, ends as its attempt does. No sector is
looked at then. -/
theorem readSector_of_error {host after : Host} {lba : Nat} {failure : Failure}
    (failed : attempt (.read lba) host = .error failure after) :
    readSector lba host = .error failure after := by
  obtain ⟨ended, left⟩ := ran_error_iff.mp failed
  simp only [readSector]
  rw [bind_of_error ended, left]

end FatVolume
