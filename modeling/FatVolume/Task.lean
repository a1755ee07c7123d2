import FatVolume.ListingRecord
import FatVolume.Mounted

/-!
# Tasks

Each task has a current directory, against which its relative paths are resolved. The
current directory is the text of an absolute path. Changing it is the only thing a
task does to itself: the target is looked up first, and its text has to fit the room
that a task keeps, which is smaller than that of a path.

A task may list a directory into a buffer of records, and obtains the number of
records or, from the system call, a negative value in their place.
-/

namespace FatVolume

/-- The state of a task towards the file system. -/
structure Task where
  /-- The current directory. -/
  directory : List Char := ['/']
  deriving DecidableEq, Repr

namespace Task

/-- The most bytes that the text of a current directory may have. -/
def capacity : Nat := 128

/-- The absolute form of a path as the task sees it. The empty path names the current
directory. -/
def resolve (task : Task) (path : List Char) : Except Failure (List Char) :=
  Path.join task.directory path

end Task

/-- What a task acts upon when it changes itself: the task, and the host of its volume. -/
structure TaskHost where
  task : Task
  host : Host

/-- Operations of a task, which may change it and its host. -/
abbrev TaskM := EStateM Failure TaskHost

/-- What is done on the host alone leaves the task as it is. -/
instance liftHost : MonadLift HostM TaskM where
  monadLift operation := fun state =>
    match operation state.host with
    | .ok value after => .ok value { state with host := after }
    | .error failure after => .error failure { state with host := after }

/-- What stands behind an operation on the host goes on with the task unchanged, or is not
reached. -/
theorem bind_liftHost {α β : Type} (operation : HostM α) (next : α → TaskM β) (task : Task)
    (host : Host) :
    (liftM operation >>= next) { task, host } =
      match operation host with
      | .ok value after => next value { task, host := after }
      | .error failure after => .error failure { task, host := after } := by
  have lifted : (liftM operation : TaskM α) { task, host } =
      match operation host with
      | .ok value after => .ok value { task, host := after }
      | .error failure after => .error failure { task, host := after } := rfl
  change EStateM.bind (liftM operation) next { task, host } = _
  rw [EStateM.bind, lifted]
  cases operation host <;> rfl

namespace Task

/-- Enter the directory that a path names. The text of its absolute form becomes that of the
current directory once it is known to name a directory and to fit. -/
def enterDirectory (mounted : Mounted) (path : List Char) : TaskM Unit := do
  let target ← (← get).task.resolve path
  let _ ← (← mounted.lookup target).directory
  if capacity < Text.utf8Length target then throw .pathTooLong
  modify fun state => { state with task := { directory := target } }

/-- The task with another current directory. -/
def changeDirectory (task : Task) (mounted : Mounted) (path : List Char) : HostM Task := fun host =>
  match enterDirectory mounted path { task, host } with
  | .ok _ after => .ok after.task after.host
  | .error failure after => .error failure after.host

/-- Seen from the host, entering a directory is a look-up and a test of the target's text. The
task is changed only where nothing has failed: otherwise it is the one that it was. -/
theorem enterDirectory_run (task : Task) (mounted : Mounted) (path : List Char) (host : Host) :
    enterDirectory mounted path { task, host } =
      match (do
        let target ← task.resolve path
        let _ ← (← mounted.lookup target).directory
        if capacity < Text.utf8Length target then throw .pathTooLong
        return { directory := target } : HostM Task) host with
      | .ok entered after => .ok () { task := entered, host := after }
      | .error failure after => .error failure { task, host := after } := by
  change (liftM (task.resolve path) >>= fun target => _ : TaskM Unit) { task, host } = _
  cases task.resolve path with
  | error failure => rfl
  | ok target =>
    change (liftM (mounted.lookup target) >>= _ : TaskM Unit) { task, host } =
      match (EStateM.bind (mounted.lookup target) _ host : EStateM.Result Failure Host Task) with
      | .ok entered after => .ok () { task := entered, host := after }
      | .error failure after => .error failure { task, host := after }
    rw [bind_liftHost, EStateM.bind]
    dsimp only
    cases mounted.lookup target host with
    | error failure after => rfl
    | ok resolved after =>
      dsimp only
      cases resolved.directory with
      | error failure => rfl
      | ok directory =>
        by_cases crowded : capacity < Text.utf8Length target
        · simp only [if_pos crowded]
          rfl
        · simp only [if_neg crowded]
          rfl

/-- A change of directory makes the same transfers as a look-up of the target, and reports the
task with the target's text if that fits. -/
theorem changeDirectory_eq (task : Task) (mounted : Mounted) (path : List Char) :
    task.changeDirectory mounted path = do
      let target ← task.resolve path
      let _ ← (← mounted.lookup target).directory
      if capacity < Text.utf8Length target then throw .pathTooLong
      return { directory := target } := by
  funext host
  rw [changeDirectory, enterDirectory_run]
  have same (run : EStateM.Result Failure Host Task) :
      (match (match run with
        | .ok entered after => .ok () { task := entered, host := after }
        | .error failure after => .error failure { task, host := after } :
          EStateM.Result Failure TaskHost Unit) with
      | .ok _ after => EStateM.Result.ok after.task after.host
      | .error failure after => .error failure after.host) = run := by
    cases run <;> rfl
  exact same _

/-- What entering a directory makes of a task is what the change of directory reports, and a
task that is refused stays where it is. -/
theorem enterDirectory_eq (task : Task) (mounted : Mounted) (path : List Char) (host : Host) :
    enterDirectory mounted path { task, host } =
      match task.changeDirectory mounted path host with
      | .ok entered after => .ok () { task := entered, host := after }
      | .error failure after => .error failure { task, host := after } := by
  rw [changeDirectory_eq, enterDirectory_run]

end Task

/-- Records that a listing fills, and the number of those filled. -/
structure RecordBuffer where
  records : Array ListingRecord
  filled : Nat := 0

/-- Put an entry into the next record. A buffer without one refuses the entry. -/
def RecordBuffer.add (buffer : RecordBuffer) (entry : Entry) : ForInStep RecordBuffer :=
  if buffer.filled < buffer.records.size then
    .yield {
      records := buffer.records.setIfInBounds buffer.filled (ListingRecord.ofEntry entry)
      filled := buffer.filled + 1 }
  else
    .done buffer

namespace Mounted

variable (mounted : Mounted)

/-- List a directory into records. The result is the records, of which the first are
filled, and either their number or the failure that ended the listing. -/
def listRecords (task : Task) (path : Option (List Char)) (records : Array ListingRecord) :
    HostM (Array ListingRecord × Except Failure Nat) := do
  match task.resolve (path.getD []) with
  | .error failure => return (records, .error failure)
  | .ok target =>
    let (buffer, outcome) ← mounted.listDirectory target RecordBuffer.add { records }
    let _ ← mounted.volume.workOut (.entryCount buffer.filled)
    return (buffer.records, outcome)

/-- The listing system call: the records, and their number or a negative value. -/
def systemList (task : Task) (path : Option (List Char)) (records : Array ListingRecord) :
    HostM (Array ListingRecord × Int) := do
  let (filled, outcome) ← mounted.listRecords task path records
  match outcome with
  | .ok count => return (filled, count)
  | .error failure => return (filled, failure.code)

end Mounted

end FatVolume
