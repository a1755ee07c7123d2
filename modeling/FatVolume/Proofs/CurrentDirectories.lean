import FatVolume.Proofs.Making
import FatVolume.Task
import Mathlib.Logic.Function.Basic

/-!
# Current directories

A task remembers its current directory as a text. The text is canonical and names a directory
when the task enters it, and nothing that tasks do later changes what it names: directories
are only added, and a creation that is cut short adds none. So each task stands in the
directory that it entered, whatever the other tasks do and whatever the disk refuses.

Tasks share the volume, and call in any order. A call that fails leaves all tasks where they
are.
-/

namespace FatVolume

namespace Medium

variable {medium changed : Medium} {volume : Volume}

/-- Every path that names something on the first medium names the same on the second. -/
structure StillFinds (medium changed : Medium) (volume : Volume) : Prop where
  consistent : changed.Consistent volume
  lookup : ∀ path resolved, medium.lookup volume path = .ok resolved →
    changed.lookup volume path = .ok resolved

/-- On a consistent medium every path that names something names the same on that medium
again. -/
theorem StillFinds.refl (consistent : medium.Consistent volume) :
    medium.StillFinds medium volume := ⟨consistent, fun _ _ found => found⟩

/-- Where what is named stays named over two changes of the medium, it does so over both
of them together. -/
theorem StillFinds.trans {further : Medium} (first : medium.StillFinds changed volume)
    (second : changed.StillFinds further volume) : medium.StillFinds further volume :=
  ⟨second.consistent, fun path resolved found =>
    second.lookup path resolved (first.lookup path resolved found)⟩

/-- A walk that comes to something does not go through a name that is awaited, as the
names along it would lead to an entry with that name. -/
theorem Awaits.not_prefix {front names : List (Except Failure RawName)} {parent : Directory}
    {name : RawName} {resolved : Resolved} (awaits : medium.Awaits volume front parent name)
    (led : medium.walk volume names = .ok resolved) : ¬ front ++ [.ok name] <+: names := by
  rintro ⟨rest, rfl⟩
  rw [walk, List.foldlM_append, ← walk] at led
  obtain ⟨between, reached, _⟩ := ok_of_bind led
  obtain ⟨raw, directory, item, same, _, ⟨above, went, opened⟩, member, carries⟩ :=
    walk_concat_ok reached
  cases same
  obtain ⟨higher, before, entered⟩ := awaits.led
  rw [went] at before
  cases before
  rw [opened] at entered
  cases entered
  rw [awaits.absent item member] at carries
  cases carries

/-- Every path that names something still does on a consistent medium with the same tree,
since look-ups are told by the tree alone. -/
theorem SameTree.stillFinds (same : medium.SameTree changed volume)
    (consistent : changed.Consistent volume) : medium.StillFinds changed volume :=
  ⟨consistent, fun path _ found => (same.sameAt path).lookup.trans found⟩

/-- Completing a directory is in the way of no path that named something: such a path does
not go through it, and so is walked as before. -/
theorem Completed.stillFinds {path : List Char} {cluster : Nat}
    (completed : medium.Completed changed volume path cluster)
    (consistent : medium.Consistent volume) : medium.StillFinds changed volume := by
  obtain ⟨front, parent, position, name, prepared, names, same, awaits, insertion, rfl⟩ :=
    completed.prepared consistent
  refine ⟨insertion.consistent_after, fun other resolved found => ?_⟩
  rw [← (same.sameAt other).lookup] at found
  rw [(insertion.sameAt awaits fun normal normalized => ?_).lookup, found]
  rw [lookup_of_walk normalized] at found
  exact awaits.not_prefix found

/-- However far the writes of a request for a directory have come, every path that named
something before names the same still. -/
theorem Makes.stillFinds {path : List Char} {result : Except Failure Unit}
    {writes done : List Write}
    (makes : medium.Makes volume path result writes) (consistent : medium.Consistent volume)
    (begun : done <+: writes) : medium.StillFinds (medium.apply done) volume := by
  have created {normal : List Char} {ending : Except Failure Nat}
      (creates : medium.Creates volume normal ending writes) :
      medium.StillFinds (medium.apply done) volume := by
    rcases creates.states consistent begun with partway | ⟨_, cluster, _, completed⟩
    · exact (partway.sameTree consistent).stillFinds (partway.consistent_after consistent)
    · exact completed.stillFinds consistent
  cases makes with
  | unspelled refused =>
    rw [List.prefix_nil.mp begun]
    exact .refl consistent
  | failed normalized creates => exact created creates
  | made normalized creates => exact created creates

/-- What a task becomes that changes its directory. -/
def changeDirectory (medium : Medium) (volume : Volume) (task : Task) (path : List Char) :
    Except Failure Task := do
  let target ← task.resolve path
  let _ ← (← medium.lookup volume target).directory
  if Task.capacity < Text.utf8Length target then throw .pathTooLong
  else return { directory := target }

/-- The text of a task's current directory is canonical, fits the room that the task keeps, and
names a directory of the medium. -/
structure Houses (medium : Medium) (volume : Volume) (task : Task) : Prop where
  canonical : Path.Canonical task.directory
  fits : Text.utf8Length task.directory ≤ Task.capacity
  named : ∃ resolved, medium.lookup volume task.directory = .ok resolved ∧
    resolved.isDirectory = true

/-- A task that a medium houses is housed by any later one on which every path that named
something still does. -/
theorem StillFinds.houses {task : Task} (finds : medium.StillFinds changed volume)
    (houses : medium.Houses volume task) : changed.Houses volume task where
  canonical := houses.canonical
  fits := houses.fits
  named := by
    obtain ⟨resolved, found, opens⟩ := houses.named
    exact ⟨resolved, finds.lookup _ _ found, opens⟩

/-- Every medium houses a task that has just begun, since it stands at the root, which
every path of no components leads to. -/
theorem houses_begun (medium : Medium) (volume : Volume) : medium.Houses volume {} where
  canonical := ⟨rfl, by decide, .inl rfl, .inl rfl⟩
  fits := by decide
  named := ⟨.root, rfl, rfl⟩

/-- A task that enters a directory is housed by the medium: its new path is canonical,
fits, and names a directory there. -/
theorem changeDirectory_ok {task entered : Task} {path : List Char}
    (succeeded : medium.changeDirectory volume task path = .ok entered) :
    medium.Houses volume entered := by
  obtain ⟨target, joined, succeeded⟩ := ok_of_bind succeeded
  obtain ⟨resolved, found, succeeded⟩ := ok_of_bind succeeded
  obtain ⟨directory, opened, succeeded⟩ := ok_of_bind succeeded
  split at succeeded
  · cases succeeded
  · next fits =>
    cases succeeded
    exact ⟨Path.canonical_join joined, Nat.not_lt.mp fits, resolved, found,
      (Resolved.directory_ok opened).1⟩

end Medium

/-- A change of directory only reads the disk, and undisturbed it ends as it does on the
medium itself. -/
theorem Task.changeDirectory_reads {mounted : Mounted} {medium : Medium} (task : Task)
    (path : List Char) :
    Reads (task.changeDirectory mounted path) medium
      (medium.changeDirectory mounted.volume task path) := by
  rw [changeDirectory_eq]
  apply (Performs.lift _).andThen
  intro target _
  apply (Mounted.lookup_reads target).andThen
  intro resolved _
  apply (Performs.lift _).andThen
  intro directory _
  dsimp only
  split
  · exact Performs.bind_error (.throw _)
  · exact .pure _

/-- A target that does not fit is refused, and where it is found to be a directory, for that
reason. -/
theorem Task.changeDirectory_crowded {mounted : Mounted} {task : Task} {path target : List Char}
    (joined : task.resolve path = .ok target) (crowded : capacity < Text.utf8Length target)
    (host : Host) :
    ∃ failure, outcome (task.changeDirectory mounted path) host = .error failure ∧
      ∀ resolved, outcome (mounted.lookup target) host = .ok resolved →
        resolved.isDirectory = true → failure = .pathTooLong := by
  rw [changeDirectory_eq, joined]
  change ∃ failure, outcome (mounted.lookup target >>= _) host = _ ∧ _
  cases found : outcome (mounted.lookup target) host with
  | error failure => exact ⟨failure, outcome_bind_error found, by simp⟩
  | ok resolved =>
    rw [outcome_bind_ok found]
    cases opened : resolved.directory with
    | error failure =>
      refine ⟨failure, rfl, ?_⟩
      rintro _ ⟨⟩ opens
      rw [Resolved.directory, if_pos opens] at opened
      cases opened
    | ok directory =>
      refine ⟨.pathTooLong, ?_, fun _ _ _ => rfl⟩
      have entered (between : Host) :
          outcome (liftM (.ok directory : Except Failure Directory) : HostM Directory) between =
            .ok directory := outcome_lift _ _
      rw [outcome_bind_ok (entered _)]
      dsimp only
      rw [if_pos crowded]
      rfl

/-! ## Sessions -/

/-- Tasks that share a host. -/
structure Session where
  host : Host
  /-- The tasks by number; each starts at the root. -/
  tasks : Nat → Task := fun _ => {}

/-- What tasks ask for. -/
inductive Call where
  | changeDirectory (task : Nat) (path : List Char)
  | makeDirectory (path : List Char)

namespace Session

/-- One of the tasks, together with the host that all of them share. -/
def standing (session : Session) (number : Nat) : TaskHost where
  task := session.tasks number
  host := session.host

variable (mounted : Mounted)

/-- What a call makes of a session, whether it succeeds or fails. -/
def perform (session : Session) : Call → Session
  | .changeDirectory number path =>
    let state := afterwards (Task.enterDirectory mounted path) (session.standing number)
    { host := state.host, tasks := Function.update session.tasks number state.task }
  | .makeDirectory path =>
    { session with host := afterwards (mounted.makeDirectory path) session.host }

/-- What calls make of a session, one after the other. -/
def performAll (calls : List Call) (session : Session) : Session :=
  calls.foldl (perform mounted) session

end Session

namespace Session

variable {mounted : Mounted} {session : Session}

/-- A call to change the directory leaves the host that the change of directory itself
leaves, whether it succeeds or fails. -/
theorem perform_host (number : Nat) (path : List Char) :
    (session.perform mounted (.changeDirectory number path)).host =
      afterwards ((session.tasks number).changeDirectory mounted path) session.host := by
  rw [perform, standing, afterwards, afterwards, Task.enterDirectory_eq]
  cases (session.tasks number).changeDirectory mounted path session.host <;> rfl

/-- When a task enters a directory, that task is replaced by the one that stands there,
and no other task of the session is touched. -/
theorem perform_entered {number : Nat} {path : List Char} {entered : Task}
    (ended : outcome ((session.tasks number).changeDirectory mounted path) session.host =
      .ok entered) :
    (session.perform mounted (.changeDirectory number path)).tasks =
      Function.update session.tasks number entered := by
  rw [perform, standing, afterwards, Task.enterDirectory_eq, ran_ok_iff.mpr ⟨ended, rfl⟩]

/-- Entering a directory in the state of a task succeeds where the change of directory
does, and fails with the same failure otherwise. -/
theorem standing_outcome (number : Nat) (path : List Char) :
    outcome (Task.enterDirectory mounted path) (session.standing number) =
      (outcome ((session.tasks number).changeDirectory mounted path) session.host).map
        fun _ => () := by
  rw [standing, outcome, outcome, Task.enterDirectory_eq]
  cases (session.tasks number).changeDirectory mounted path session.host <;> rfl

/-- A task whose call is refused ends as the one that it was, whatever the reason, and no
other task of the session is touched. -/
theorem perform_refused {number : Nat} {path : List Char} {failure : Failure}
    (ended : outcome (Task.enterDirectory mounted path) (session.standing number) =
      .error failure) :
    (session.perform mounted (.changeDirectory number path)).tasks = session.tasks := by
  rw [standing_outcome] at ended
  cases refused : outcome ((session.tasks number).changeDirectory mounted path) session.host with
  | ok entered =>
    rw [refused] at ended
    cases ended
  | error cause =>
    rw [perform, standing, afterwards, Task.enterDirectory_eq, ran_error_iff.mpr ⟨refused, rfl⟩]
    exact Function.update_eq_self number session.tasks

/-- A call of any task leaves a consistent medium on which every path that named something
still does. -/
theorem perform_stillFinds (consistent : session.host.medium.Consistent mounted.volume)
    (call : Call) :
    session.host.medium.StillFinds (session.perform mounted call).host.medium mounted.volume := by
  cases call with
  | changeDirectory number path =>
    have changed : (afterwards ((session.tasks number).changeDirectory mounted path)
        session.host).medium = session.host.medium :=
      ((session.tasks number).changeDirectory_reads path).unchanged rfl
    rw [perform_host, changed]
    exact .refl consistent
  | makeDirectory path =>
    obtain ⟨_, _, performs, makes⟩ := mounted.makeDirectory_performs session.host.medium path
    obtain ⟨done, begun, changed⟩ := (performs session.host rfl).leaves
    change Medium.StillFinds _ (afterwards _ session.host).medium _
    rw [changed]
    exact makes.stillFinds consistent begun

/-- After any calls of any tasks, in any order and whatever was refused, every path that
named something at first still does. -/
theorem performAll_stillFinds (consistent : session.host.medium.Consistent mounted.volume)
    (calls : List Call) :
    session.host.medium.StillFinds (session.performAll mounted calls).host.medium
      mounted.volume := by
  induction calls generalizing session with
  | nil => exact .refl consistent
  | cons call rest inductionHypothesis =>
    have first := perform_stillFinds consistent call
    exact first.trans (inductionHypothesis first.consistent)

/-- A call of any task leaves all tasks housed by the medium, the one that called and all
others. -/
theorem perform_houses (consistent : session.host.medium.Consistent mounted.volume)
    (housed : ∀ number, session.host.medium.Houses mounted.volume (session.tasks number))
    (call : Call) (number : Nat) :
    (session.perform mounted call).host.medium.Houses mounted.volume
      ((session.perform mounted call).tasks number) := by
  have finds := perform_stillFinds consistent call
  cases call with
  | makeDirectory path => exact finds.houses (housed number)
  | changeDirectory moving path =>
    cases ended : outcome ((session.tasks moving).changeDirectory mounted path) session.host with
    | error failure =>
      rw [perform_refused (by rw [standing_outcome, ended]; rfl)]
      exact finds.houses (housed number)
    | ok entered =>
      rw [perform_entered ended]
      by_cases same : number = moving
      · subst same
        rw [Function.update_self]
        exact finds.houses (Medium.changeDirectory_ok
          ((Task.changeDirectory_reads _ path).intended_of_ok rfl ended))
      · rw [Function.update_of_ne same]
        exact finds.houses (housed number)

/-- Every task of a session is housed by its medium after any calls, whatever has been
asked for and refused in between. -/
theorem performAll_houses (consistent : session.host.medium.Consistent mounted.volume)
    (housed : ∀ number, session.host.medium.Houses mounted.volume (session.tasks number))
    (calls : List Call) (number : Nat) :
    (session.performAll mounted calls).host.medium.Houses mounted.volume
      ((session.performAll mounted calls).tasks number) := by
  induction calls generalizing session with
  | nil => exact housed number
  | cons call rest inductionHypothesis =>
    exact inductionHypothesis (perform_stillFinds consistent call).consistent
      (perform_houses consistent housed call)

/-- What is true of the tasks of a session that begins on a host. -/
structure KeepsTasks (mounted : Mounted) (host : Host) : Prop where
  /-- After any calls, each current directory is canonical and fits, and names one directory now
  and after any further calls. -/
  stands : ∀ (done : List Call) (number : Nat),
    let session := performAll mounted done { host }
    let path := (session.tasks number).directory
    Path.Canonical path ∧ Text.utf8Length path ≤ 128 ∧
      ∃ resolved : Resolved, resolved.isDirectory = true ∧
        ∀ (later : List Call) (healthy : Host), healthy.Serves mounted.volume →
          healthy.medium = (session.performAll mounted later).host.medium →
            outcome (mounted.lookup path) healthy = .ok resolved
  /-- A change of directory that fails leaves every task where it is. -/
  refused : ∀ (done : List Call) (number : Nat) (path : List Char) (failure : Failure),
    let session := performAll mounted done { host }
    outcome (Task.enterDirectory mounted path) (session.standing number) = .error failure →
      (session.perform mounted (.changeDirectory number path)).tasks = session.tasks
  /-- A target that does not fit is refused, and where it is found to be a directory, for that
  reason. -/
  crowded : ∀ (done : List Call) (number : Nat) (path target : List Char),
    let session := performAll mounted done { host }
    (session.tasks number).resolve path = .ok target → 128 < Text.utf8Length target →
      ∃ failure,
        outcome (Task.enterDirectory mounted path) (session.standing number) = .error failure ∧
        ∀ resolved, outcome (mounted.lookup target) session.host = .ok resolved →
          resolved.isDirectory = true → failure = .pathTooLong

/-- On a consistent volume each task stands in the directory that it entered, whatever tasks
call in whatever order, and whatever the disk refuses. -/
theorem keepsTasks (mounted : Mounted) (host : Host)
    (consistent : host.medium.Consistent mounted.volume) : KeepsTasks mounted host := by
  let start : Session := { host }
  have begun (number : Nat) : start.host.medium.Houses mounted.volume (start.tasks number) :=
    Medium.houses_begun _ _
  constructor
  case stands =>
    intro done number session path
    obtain ⟨canonical, fits, resolved, found, opens⟩ : session.host.medium.Houses mounted.volume
        (session.tasks number) := performAll_houses consistent begun done number
    have finds : start.host.medium.StillFinds session.host.medium mounted.volume :=
      performAll_stillFinds consistent done
    refine ⟨canonical, fits, resolved, opens, fun later healthy serves same => ?_⟩
    rw [(Mounted.lookup_answers path healthy same serves).1]
    exact (performAll_stillFinds finds.consistent later).lookup path resolved found
  case refused =>
    intro done number path failure session failed
    exact perform_refused failed
  case crowded =>
    intro done number path target session joined crowded
    obtain ⟨failure, refused, told⟩ := Task.changeDirectory_crowded joined crowded session.host
    exact ⟨failure, by rw [standing_outcome, refused]; rfl, told⟩

/-- A task enters a directory that is made on an untouched disk, and stays there while another
one is made in part. -/
theorem keepsTasks_untouched :
    let mounted : Mounted := ⟨0, .small, ⟨0, 20, 4⟩⟩
    let host := Host.untouched 20 4096 { writesLeft := some 8 }
    let calls : List Call :=
      [.makeDirectory ['/', 'a'], .changeDirectory 0 ['a'], .makeDirectory ['/', 'b']]
    host.medium.Consistent .small ∧ KeepsTasks mounted host ∧
      ((performAll mounted calls { host }).tasks 0).directory = ['/', 'a'] := by
  intro mounted host calls
  have consistent : host.medium.Consistent mounted.volume :=
    Host.untouched_blankRoot.orderly.toConsistent
  exact ⟨consistent, keepsTasks mounted host consistent, by decide +kernel⟩

end Session

end FatVolume
