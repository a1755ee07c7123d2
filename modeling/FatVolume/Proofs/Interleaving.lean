import FatVolume.Proofs.Formatted
import FatVolume.Proofs.Repetition
import FatVolume.Proofs.Standing

/-!
# Listing a directory while directories are created

A cursor is asked for entries, and between its requests directories are created anywhere in
the tree, also in the directory that it lists. It yields each entry that the directory had
when it was started, once and in order, and it fails at no request. What it yields besides
has been created in the directory meanwhile. Whether it meets a new entry is left open: it
may have passed the slot, or keep the sector as it was.

The invariant compares what has been told with the slots that have been passed, as they were
at the start. No creation changes it.
-/

namespace FatVolume

namespace Cursor

variable {origin medium later : Medium} {volume : Volume} {directory : Directory}
  {told : List Entry} {cursor : Cursor}

/-! ## What has been told -/

/-- Entries have been told of a directory of which so many slots have been passed. Those that
it had on a former medium are the ones that stood among these slots, and all of them stand
there now. -/
structure Told (origin medium : Medium) (volume : Volume) (directory : Directory) (passed : Nat)
    (told : List Entry) : Prop where
  met : told.filter (· ∈ origin.inventory volume directory) =
    entriesIn ((origin.slots volume directory).items.take passed)
  among : told.Sublist (entriesIn ((medium.slots volume directory).items.take passed))

/-- Entries have been told by a cursor that was started on a former medium: it stands behind
the slots that it has passed, with a sector of some medium since then, or it is done and has
told of all former entries. -/
inductive Browses (origin medium : Medium) (volume : Volume) (directory : Directory)
    (told : List Entry) (cursor : Cursor) : Prop
  | underway {former : Medium} {passed : Nat} (before : origin.Onward former volume directory)
      (onward : former.Onward medium volume directory)
      (stands : cursor.Stands former volume directory passed)
      (tells : Told origin medium volume directory passed told) :
      Browses origin medium volume directory told cursor
  | finished (done : cursor.done = true)
      (met : told.filter (· ∈ origin.inventory volume directory) =
        origin.inventory volume directory)
      (among : told.Sublist (medium.inventory volume directory)) :
      Browses origin medium volume directory told cursor

namespace Browses

/-- A cursor that has just been started over a directory of a consistent medium browses
it, and has told nothing so far. -/
theorem start (consistent : origin.Consistent volume)
    (reachable : origin.Reachable volume directory)
    (started : start volume directory = .ok cursor) :
    Browses origin origin volume directory [] cursor :=
  .underway (.refl consistent reachable) (.refl consistent reachable)
    (start_stands consistent reachable started) ⟨rfl, List.nil_sublist _⟩

/-- That a directory gains entries does not change what a cursor has told of it: the
cursor browses it on the later medium as well. -/
theorem onward (browses : Browses origin medium volume directory told cursor)
    (now : origin.Onward medium volume directory)
    (onward : medium.Onward later volume directory) :
    Browses origin later volume directory told cursor := by
  cases browses with
  | @underway former passed before between stands tells =>
    exact .underway before (between.trans onward) stands
      ⟨tells.met, tells.among.trans (onward.slots.take passed).sublist⟩
  | finished done met among =>
    refine .finished done met (among.trans ?_)
    rw [now.consistent.inventory_eq now.reachable, onward.consistent.inventory_eq onward.reachable]
    exact onward.slots.sublist

/-- Of the entries that a directory had at the start, those that have been told are the
first ones, each told once and in their order. -/
theorem met (browses : Browses origin medium volume directory told cursor)
    (consistent : origin.Consistent volume) (reachable : origin.Reachable volume directory) :
    told.filter (· ∈ origin.inventory volume directory) <+: origin.inventory volume directory := by
  cases browses with
  | underway before onward stands tells =>
    rw [tells.met]
    conv_rhs => rw [consistent.inventory_eq reachable]
    exact (List.take_prefix _ _).filterMap _
  | finished done met among => exact ⟨[], (List.append_nil _).trans met⟩

/-- A cursor that is done has told of all entries that the directory had at the start,
each once and in their order. -/
theorem all_met (browses : Browses origin medium volume directory told cursor)
    (done : cursor.done = true) :
    told.filter (· ∈ origin.inventory volume directory) = origin.inventory volume directory := by
  cases browses with
  | underway before onward stands tells =>
    rw [stands.unfinished] at done
    cases done
  | finished _ met among => exact met

/-- All entries that have been told stand in the directory now, in the order in which they
were told. -/
theorem among (browses : Browses origin medium volume directory told cursor)
    (now : origin.Onward medium volume directory) :
    told.Sublist (medium.inventory volume directory) := by
  cases browses with
  | @underway former passed before onward stands tells =>
    rw [now.consistent.inventory_eq now.reachable]
    exact tells.among.trans ((List.take_sublist passed _).filterMap _)
  | finished done met among => exact among

end Browses

/-! ## One request -/

section Asking

variable (consistent : origin.Consistent volume) (reachable : origin.Reachable volume directory)
include consistent reachable

/-- When a slot is passed, its entry is told as the slot is seen on some medium since the
start, and what has been told is so for one slot more. -/
theorem Told.passing {seen : Medium} {passed : Nat} {item : SlotPosition × Slot}
    (tells : Told origin medium volume directory passed told)
    (before : origin.Onward seen volume directory) (onward : seen.Onward medium volume directory)
    (stood : (seen.slots volume directory).items[passed]? = some item) :
    Told origin medium volume directory (passed + 1) (told ++ item.2.asEntry.toList) where
  met := by
    rw [← before.entries_take consistent reachable, entriesIn_take_succ stood, List.filter_append,
      List.filter_append, before.entries_take consistent reachable, tells.met]
  among := by
    obtain ⟨position, slot⟩ := item
    obtain ⟨now, stays, kept⟩ := onward.slots passed position slot stood
    rw [entriesIn_take_succ stays]
    refine tells.among.append ?_
    cases slot with
    | live entry => exact (kept rfl) ▸ List.Sublist.refl _
    | endMarker | erased | longName | volumeLabel => exact List.nil_sublist _

/-- Where no slot of the directory is left to pass, all entries that it had at the start
have been told. -/
theorem Told.whole {passed : Nat} (tells : Told origin medium volume directory passed told)
    (now : origin.Onward medium volume directory)
    (all : (medium.slots volume directory).items.length ≤ passed) :
    told.filter (· ∈ origin.inventory volume directory) = origin.inventory volume directory := by
  rw [tells.met, ← now.entries_take consistent reachable, List.take_of_length_le all,
    ← now.consistent.inventory_eq now.reachable, now.kept]

/-- Where an end marker was seen on any medium since the start, all entries that the
directory had at the start have been told. -/
theorem Told.whole_of_endMarker {seen : Medium} {passed : Nat} {position : SlotPosition}
    (tells : Told origin medium volume directory passed told)
    (before : origin.Onward seen volume directory)
    (stood : (seen.slots volume directory).items[passed]? = some (position, .endMarker)) :
    told.filter (· ∈ origin.inventory volume directory) = origin.inventory volume directory := by
  have blank := (before.consistent.ended directory before.reachable).entries_behind stood
  have whole := entriesIn_take_drop (seen.slots volume directory).items passed
  rw [blank, List.append_nil] at whole
  rw [tells.met, ← before.entries_take consistent reachable, whole,
    ← before.consistent.inventory_eq before.reachable, before.kept]

/-- The search for the next entry passes slots until it can tell an entry, or until all
that stood there at the start have been told. -/
theorem Stands.next_browses {cursor : Cursor} {told : List Entry} {former : Medium} {passed : Nat}
    (stands : cursor.Stands former volume directory passed)
    (now : origin.Onward medium volume directory)
    (before : origin.Onward former volume directory)
    (onward : former.Onward medium volume directory)
    (tells : Told origin medium volume directory passed told) :
    ∃ answer moved, Reads (cursor.alongside (next volume)) medium (.ok (answer, moved)) ∧
      Browses origin medium volume directory (told ++ answer.toList) moved ∧
      (answer = none → moved.done = true) := by
  have among : told.Sublist (medium.inventory volume directory) := by
    rw [now.consistent.inventory_eq now.reachable]
    exact tells.among.trans ((List.take_sublist passed _).filterMap _)
  obtain ⟨slot, moved, asked, advances⟩ :=
    nextSlot_advances before.consistent before.reachable onward stands
  rw [next_eq]
  cases advances with
  | ended done all =>
    refine ⟨none, moved, .walk asked (.pure _), ?_, fun _ => done⟩
    rw [Option.toList_none, List.append_nil]
    exact .finished done (tells.whole consistent reachable now all) among
  | @yielded seen item _ either stood further =>
    -- The slot was seen on the former medium or on the present one, and either came after the
    -- start.
    have since : origin.Onward seen volume directory ∧ seen.Onward medium volume directory := by
      rcases either with rfl | rfl
      · exact ⟨before, onward⟩
      · exact ⟨now, .refl now.consistent now.reachable⟩
    have passing := tells.passing consistent reachable since.1 since.2 stood
    obtain ⟨position, slot⟩ := item
    obtain ⟨_, stays, _⟩ := since.2.slots passed position slot stood
    have bounded := (List.getElem?_eq_some_iff.mp stays).1
    cases slot with
    | endMarker =>
      refine ⟨none, { moved with done := true },
        .walk asked (.walk (Performs.pure _) (.pure _)), ?_, fun _ => rfl⟩
      rw [Option.toList_none, List.append_nil]
      exact .finished rfl (tells.whole_of_endMarker consistent reachable since.1 stood) among
    | live entry =>
      exact ⟨some entry, moved, .walk asked (.pure _), .underway since.1 since.2 further passing,
        by simp⟩
    -- Such a slot is passed, and fewer slots are left behind it.
    | erased | longName | volumeLabel =>
      have skipped : told ++ Option.toList (none : Option Entry) = told := List.append_nil told
      obtain ⟨answer, stopped, searched, browses⟩ :=
        further.next_browses now since.1 since.2 (skipped ▸ passing)
      exact ⟨answer, stopped, .walk asked searched, browses⟩
termination_by (medium.slots volume directory).items.length - passed

/-- A request for an entry does not fail while directories are created: it tells one more
entry, or that there are no more. -/
theorem Browses.next (now : origin.Onward medium volume directory)
    (browses : Browses origin medium volume directory told cursor) :
    ∃ answer moved, Reads (cursor.alongside (next volume)) medium (.ok (answer, moved)) ∧
      Browses origin medium volume directory (told ++ answer.toList) moved ∧
      (answer = none → moved.done = true) ∧ (cursor.done = true → answer = none) := by
  cases browses with
  | finished done met among =>
    have asked : Reads (cursor.alongside (nextSlot volume)) medium (.ok (none, cursor)) :=
      .walk_get fun host => by rw [if_pos done]; exact Performs.pure _
    rw [next_eq]
    refine ⟨none, cursor, .walk asked (.pure _), ?_, fun _ => done, fun _ => rfl⟩
    rw [Option.toList_none, List.append_nil]
    exact .finished done met among
  | underway before onward stands tells =>
    obtain ⟨answer, moved, asked, browses, ends⟩ :=
      stands.next_browses consistent reachable now before onward tells
    refine ⟨answer, moved, asked, browses, ends, fun done => ?_⟩
    rw [stands.unfinished] at done
    cases done

end Asking

/-! ## Requests and creations -/

/-- What can be done with a cursor and its volume: ask for the next entry, or create a
directory, which the cursor is not told of. -/
inductive Action
  | next
  | create (path : List Char)

/-- Carry out an action. A request for an entry is answered; how a creation ends is not
looked at. -/
def Action.perform (volume : Volume) :
    Action → WalkM (List (Except Failure (Option Entry)))
  | .next => do
    let answer ← observe (Cursor.next volume)
    return [answer]
  | .create path => do
    let _ ← observe (liftM (volume.createDirectory path) : WalkM Nat)
    return []

/-- Carry out some actions, and collect the answers to the requests. -/
def interleave (volume : Volume) : List Action → WalkM (List (Except Failure (Option Entry)))
  | [] => pure []
  | action :: actions => do
    let answers ← action.perform volume
    let further ← interleave volume actions
    return answers ++ further

variable {walk : Walk} {path : List Char} {action : Action} {actions : List Action}

/-- As an action, a request for an entry gives its answer, be it an entry or a failure,
and leaves what the request leaves. -/
theorem perform_next (volume : Volume) (walk : Walk) :
    outcome (Action.perform volume .next) walk = .ok [outcome (next volume) walk] ∧
      afterwards (Action.perform volume .next) walk = afterwards (next volume) walk := by
  have asked := outcome_observe (next volume) walk
  rw [Action.perform, outcome_bind_ok asked, afterwards_bind_ok asked, afterwards_observe]
  exact ⟨rfl, rfl⟩

/-- As an action, a creation gives no answer, however it has ended, and leaves the cursor
as it was on the host that the creation leaves. -/
theorem perform_create (volume : Volume) (path : List Char) (walk : Walk) :
    outcome (Action.perform volume (.create path)) walk = .ok [] ∧
      afterwards (Action.perform volume (.create path)) walk =
        { walk with host := afterwards (volume.createDirectory path) walk.host } := by
  have tried := outcome_observe (liftM (volume.createDirectory path) : WalkM Nat) walk
  rw [Action.perform, outcome_bind_ok tried, afterwards_bind_ok tried, afterwards_observe,
    afterwards_liftWalk]
  exact ⟨rfl, rfl⟩

/-- No action fails: the failure of a request for an entry is one of its answers, and that
of a creation is not looked at. -/
theorem perform_answered (volume : Volume) (action : Action) (walk : Walk) :
    ∃ answers, outcome (action.perform volume) walk = .ok answers := by
  cases action with
  | next => exact ⟨_, (perform_next volume walk).1⟩
  | create path => exact ⟨_, (perform_create volume path walk).1⟩

/-- The actions behind the first one start where that one has ended, with the cursor and
the host that it has left. -/
theorem afterwards_interleave_cons (volume : Volume) (action : Action) (actions : List Action)
    (walk : Walk) :
    afterwards (interleave volume (action :: actions)) walk =
      afterwards (interleave volume actions) (afterwards (action.perform volume) walk) := by
  obtain ⟨answers, answered⟩ := perform_answered volume action walk
  rw [interleave, afterwards_bind_ok answered]
  generalize afterwards (action.perform volume) walk = between
  cases ended : outcome (interleave volume actions) between with
  | ok further =>
    rw [afterwards_bind_ok ended]
    rfl
  | error failure => rw [afterwards_bind_error ended]

/-- The answers of some actions are those of the first one, followed by those that the
others give where it has ended. -/
theorem outcome_interleave_cons {answers further : List (Except Failure (Option Entry))}
    (first : outcome (action.perform volume) walk = .ok answers)
    (others : outcome (interleave volume actions) (afterwards (action.perform volume) walk) =
      .ok further) :
    outcome (interleave volume (action :: actions)) walk = .ok (answers ++ further) := by
  rw [interleave, outcome_bind_ok first, outcome_bind_ok others]
  rfl

/-- Among the actions, a creation has put the entry into the directory. -/
def Puts (volume : Volume) (directory : Directory) (walk : Walk) (actions : List Action)
    (entry : Entry) : Prop :=
  ∃ front path rear name cluster, actions = front ++ .create path :: rear ∧
    let before := (afterwards (interleave volume front) walk).host
    let after := afterwards (volume.createDirectory path) before
    outcome (volume.createDirectory path) before = .ok cluster ∧
      (Path.names path).getLast? = some (.ok name) ∧ entry = Entry.directory name cluster ∧
      Medium.Joins (before.medium.inventory volume directory)
        (after.medium.inventory volume directory) entry

/-- An entry that one of some actions puts into the directory is put there by one of them
also when another action comes first. -/
theorem Puts.behind {entry : Entry}
    (puts : Puts volume directory (afterwards (action.perform volume) walk) actions entry) :
    Puts volume directory walk (action :: actions) entry := by
  obtain ⟨front, path, rear, name, cluster, rfl, made⟩ := puts
  refine ⟨action :: front, path, rear, name, cluster, rfl, ?_⟩
  rw [afterwards_interleave_cons]
  exact made

/-- An entry that one of some actions puts into the directory is put there by one of them
also when more actions follow. -/
theorem Puts.extended {entry : Entry} (puts : Puts volume directory walk actions entry)
    (more : List Action) : Puts volume directory walk (actions ++ more) entry := by
  obtain ⟨front, path, rear, name, cluster, rfl, made⟩ := puts
  exact ⟨front, path, rear ++ more, name, cluster, List.append_assoc .., made⟩

/-! ## What actions add to the trace -/

/-- The creation of a directory only adds events to the trace of the host, and takes none
from it. -/
theorem createDirectory_onlyAdds (volume : Volume) (path : List Char) :
    OnlyAdds (liftM (volume.createDirectory path) : WalkM Nat) :=
  .lift fun medium => by
    obtain ⟨result, writes, performs, _⟩ := volume.createDirectory_performs medium path
    exact ⟨result, writes, performs⟩

/-- An action only adds events to the trace of the host, be it a request for an entry or a
creation. -/
theorem perform_onlyAdds (volume : Volume) (action : Action) :
    OnlyAdds (action.perform volume) := by
  cases action with
  | next => exact (next_onlyAdds volume).observe.bind fun _ => .pure _
  | create path => exact (createDirectory_onlyAdds volume path).observe.bind fun _ => .pure _

/-- Actions in any order only add events to the trace of the host, so that a refusal in
one of them is still seen at the end. -/
theorem interleave_onlyAdds (volume : Volume) (actions : List Action) :
    OnlyAdds (interleave volume actions) := by
  induction actions with
  | nil => exact .pure _
  | cons action actions inductionHypothesis =>
    exact (perform_onlyAdds volume action).bind fun _ =>
      inductionHypothesis.bind fun _ => .pure _

/-! ## Runs -/

/-- Where nothing is refused, an operation that only reads ends as it does on the medium,
moves the cursor so, and leaves the medium as it is. -/
theorem carriedOut {α : Type} {operation : WalkM α} {value : α} {moved : Cursor}
    (reads : Reads (walk.cursor.alongside operation) walk.host.medium (.ok (value, moved)))
    (sized : walk.host.disk.sectorSize = 512)
    (undisturbed : walk.host.Undisturbed (afterwards operation walk).host) :
    outcome operation walk = .ok value ∧ (afterwards operation walk).cursor = moved ∧
      (afterwards operation walk).host.medium = walk.host.medium ∧
      (afterwards operation walk).host.disk.sectorSize = 512 := by
  have performs := reads walk.host rfl
  obtain ⟨_, _, _, device, _⟩ := reads walk.host rfl
  rw [← afterwards_alongside] at undisturbed
  obtain ⟨ended, unchanged⟩ := performs.carriedOut sized undisturbed
  rw [afterwards_alongside] at unchanged device
  rw [outcome_alongside] at ended
  cases ran : outcome operation walk with
  | ok answer =>
    rw [show outcome operation ⟨walk.cursor, walk.host⟩ = .ok answer from ran] at ended
    cases ended
    exact ⟨rfl, rfl, unchanged, device.sectorSize.trans sized⟩
  | error failure =>
    rw [show outcome operation ⟨walk.cursor, walk.host⟩ = .error failure from ran] at ended
    cases ended

/-- Entries have been told of a directory that may have gained others since a former medium,
each of them different and of some origin. -/
structure Browsing (origin : Medium) (volume : Volume) (directory : Directory)
    (made : Entry → Prop) (told : List Entry) (walk : Walk) : Prop where
  sized : walk.host.disk.sectorSize = 512
  now : origin.Onward walk.host.medium volume directory
  browses : Browses origin walk.host.medium volume directory told walk.cursor
  once : ((walk.host.medium.inventory volume directory).filter
    (· ∉ origin.inventory volume directory)).Nodup
  gained : ∀ entry ∈ walk.host.medium.inventory volume directory,
    entry ∉ origin.inventory volume directory → made entry

/-- What is known of a listing stays known when less is said of the entries that have been
made meanwhile. -/
theorem Browsing.of_made {made other : Entry → Prop}
    (browsing : Browsing origin volume directory made told walk)
    (implied : ∀ entry, made entry → other entry) :
    Browsing origin volume directory other told walk :=
  { browsing with
    gained := fun entry member fresh => implied entry (browsing.gained entry member fresh) }

/-- The answers that yield some entries, and tell so many times that there are no more. -/
def spoken (yielded : List Entry) (ended : Nat) : List (Except Failure (Option Entry)) :=
  yielded.map (fun entry => .ok (some entry)) ++ List.replicate ended (.ok none)

/-- Answers that yield entries and then tell of the end are followed by more answers in
the same manner, if no entry comes behind an end. -/
theorem spoken_append {first second : List Entry} {ended more : Nat}
    (closed : 0 < ended → second = []) :
    spoken first ended ++ spoken second more = spoken (first ++ second) (ended + more) := by
  cases ended with
  | zero =>
    rw [spoken, spoken, spoken, List.replicate_zero, List.append_nil, Nat.zero_add, List.map_append,
      List.append_assoc]
  | succ ended =>
    rw [closed (Nat.succ_pos ended), List.append_nil]
    simp only [spoken, List.map_nil, List.nil_append, List.append_assoc,
      List.replicate_append_replicate]

/-- What some actions do while nothing is refused: the answers yield further entries and then
tell that there are no more, and what comes to the directory is put there by a creation. -/
def Continues (origin : Medium) (volume : Volume) (directory : Directory) (made : Entry → Prop)
    (told : List Entry) (walk after : Walk) (puts : Entry → Prop)
    (answers : Except Failure (List (Except Failure (Option Entry)))) : Prop :=
  ∃ yielded ended, answers = .ok (spoken yielded ended) ∧
    Browsing origin volume directory (fun entry => made entry ∨ puts entry)
      (told ++ yielded) after ∧
    (0 < ended → after.cursor.done = true) ∧
    (walk.cursor.done = true → yielded = [] ∧ after.cursor.done = true)

section Running

variable {made : Entry → Prop} (consistent : origin.Consistent volume)
  (reachable : origin.Reachable volume directory)
include consistent reachable

/-- A request continues a listing: it yields a further entry, or tells that there are no
more, and never fails. -/
theorem Browsing.next (browsing : Browsing origin volume directory made told walk)
    (undisturbed : walk.host.Undisturbed (afterwards (next volume) walk).host) :
    Continues origin volume directory made told walk (afterwards (next volume) walk)
      (fun _ => False) (.ok [outcome (Cursor.next volume) walk]) := by
  obtain ⟨answer, moved, asked, browses, ends, stays⟩ :=
    browsing.browses.next consistent reachable browsing.now
  obtain ⟨answered, rfl, unchanged, sized⟩ := carriedOut asked browsing.sized undisturbed
  have further : Browsing origin volume directory (fun entry => made entry ∨ False)
      (told ++ answer.toList) (afterwards (Cursor.next volume) walk) :=
    { sized
      now := unchanged ▸ browsing.now
      browses := by rw [unchanged]; exact browses
      once := by rw [unchanged]; exact browsing.once
      gained := by
        rw [unchanged]
        exact fun entry member fresh => .inl (browsing.gained entry member fresh) }
  rw [answered]
  cases answer with
  | none =>
    exact ⟨[], 1, rfl, further, fun _ => ends rfl, fun _ => ⟨rfl, ends rfl⟩⟩
  | some entry =>
    refine ⟨[entry], 0, rfl, further, fun impossible => absurd impossible (Nat.lt_irrefl 0),
      fun done => ?_⟩
    cases stays done

omit consistent reachable in
/-- A creation continues a listing, of which it yields nothing: the cursor is where it
was, and at most one entry has joined the directory. -/
theorem Browsing.create (browsing : Browsing origin volume directory made told walk)
    (undisturbed : walk.host.Undisturbed (afterwards (volume.createDirectory path) walk.host)) :
    Continues origin volume directory made told walk
      { walk with host := afterwards (volume.createDirectory path) walk.host }
      (Puts volume directory walk [.create path]) (.ok []) := by
  obtain ⟨result, writes, performs, creates⟩ :=
    volume.createDirectory_performs walk.host.medium path
  obtain ⟨ended, changed⟩ := (performs walk.host rfl).carriedOut browsing.sized undisturbed
  obtain ⟨_, _, _, device, _⟩ := performs walk.host rfl
  obtain ⟨onward, gains⟩ := creates.onward browsing.now.consistent browsing.now.reachable
  rw [← changed] at onward gains
  refine ⟨[], 0, rfl, ?_, fun impossible => absurd impossible (Nat.lt_irrefl 0),
    fun done => ⟨rfl, done⟩⟩
  rw [List.append_nil]
  refine ⟨device.sectorSize.trans browsing.sized, browsing.now.trans onward,
    browsing.browses.onward browsing.now onward, ?_, fun entry member fresh => ?_⟩
  · dsimp only
    rcases gains with same | ⟨_, _, _, _, joins⟩
    · rw [same]
      exact browsing.once
    · exact joins.once browsing.once
  · by_cases old : entry ∈ walk.host.medium.inventory volume directory
    · exact .inl (browsing.gained entry old fresh)
    dsimp only at member
    rcases gains with same | ⟨name, cluster, succeeded, last, joins⟩
    · rw [same] at member
      exact absurd member old
    · obtain rfl := joins.eq_of_mem member old
      rw [succeeded] at ended
      exact .inr ⟨[], path, [], name, cluster, rfl, ended, last, rfl, joins⟩

/-- Each action continues a listing, be it a request for an entry or a creation, and
however the creation ends. -/
theorem Browsing.perform (browsing : Browsing origin volume directory made told walk)
    (action : Action)
    (undisturbed : walk.host.Undisturbed (afterwards (action.perform volume) walk).host) :
    Continues origin volume directory made told walk (afterwards (action.perform volume) walk)
      (Puts volume directory walk [action]) (outcome (action.perform volume) walk) := by
  cases action with
  | next =>
    obtain ⟨answered, left⟩ := perform_next volume walk
    rw [left] at undisturbed
    obtain ⟨yielded, ended, spoke, further, closed, stays⟩ :=
      browsing.next consistent reachable undisturbed
    rw [answered, left]
    exact ⟨yielded, ended, spoke, further.of_made fun _ => Or.imp_right False.elim, closed, stays⟩
  | create path =>
    obtain ⟨answered, left⟩ := perform_create volume path walk
    rw [left] at undisturbed
    rw [answered, left]
    exact browsing.create undisturbed

/-- Actions in any order and of any number continue a listing, if nothing is refused in
the run of them. -/
theorem Browsing.interleave (actions : List Action)
    (browsing : Browsing origin volume directory made told walk)
    (undisturbed : walk.host.Undisturbed (afterwards (interleave volume actions) walk).host) :
    Continues origin volume directory made told walk
      (afterwards (Cursor.interleave volume actions) walk) (Puts volume directory walk actions)
      (outcome (Cursor.interleave volume actions) walk) := by
  -- Action by action: what the first one has told is carried on, and what it has put there is
  -- remembered.
  induction actions generalizing walk told made with
  | nil =>
    refine ⟨[], 0, rfl, ?_, fun impossible => absurd impossible (Nat.lt_irrefl 0),
      fun done => ⟨rfl, done⟩⟩
    rw [List.append_nil]
    exact browsing.of_made fun _ => Or.inl
  | cons action actions inductionHypothesis =>
    rw [afterwards_interleave_cons] at undisturbed ⊢
    obtain ⟨first, others⟩ := undisturbed.divide (perform_onlyAdds volume action walk)
      (interleave_onlyAdds volume actions _)
    obtain ⟨yielded, ended, spoke, between, closed, stays⟩ :=
      browsing.perform consistent reachable action first
    obtain ⟨further, more, goesOn, behind, closes, remains⟩ := inductionHypothesis between others
    refine ⟨yielded ++ further, ended + more, ?_, ?_, fun positive => ?_, fun done => ?_⟩
    · rw [outcome_interleave_cons spoke goesOn,
        spoken_append fun told => (remains (closed told)).1]
    · rw [← List.append_assoc]
      refine behind.of_made fun entry origins => ?_
      rcases origins with (old | puts) | puts
      · exact .inl old
      · exact .inr (puts.extended actions)
      · exact .inr puts.behind
    · by_cases here : 0 < ended
      · exact (remains (closed here)).2
      · exact closes (by omega)
    · obtain ⟨none, still⟩ := stays done
      obtain ⟨noneBehind, last⟩ := remains still
      rw [none, noneBehind]
      exact ⟨rfl, last⟩

end Running

/-- A listing of a directory, among creations anywhere in the tree, never fails. Of the entries
that the directory had at the start it yields the first ones, and all of them once it has told
that there are no more. Every other entry that it yields has been put into the directory by one
of the creations, and is yielded once. All of them stand in the directory at the end, in the
order in which they are yielded. -/
theorem start_interleave {host : Host} (sized : host.disk.sectorSize = 512)
    (consistent : host.medium.Consistent volume)
    (reachable : host.medium.Reachable volume directory)
    (started : start volume directory = .ok cursor) (actions : List Action)
    (undisturbed : host.Undisturbed (afterwards (interleave volume actions) ⟨cursor, host⟩).host) :
    let held := host.medium.inventory volume directory
    let after := (afterwards (interleave volume actions) ⟨cursor, host⟩).host
    ∃ (yielded : List Entry) (ended : Nat),
      outcome (interleave volume actions) ⟨cursor, host⟩ =
        .ok (yielded.map (fun entry => .ok (some entry)) ++ List.replicate ended (.ok none)) ∧
      yielded.filter (· ∈ held) <+: held ∧
      (0 < ended → yielded.filter (· ∈ held) = held) ∧
      (yielded.filter (· ∉ held)).Nodup ∧
      (∀ entry ∈ yielded, entry ∉ held → Puts volume directory ⟨cursor, host⟩ actions entry) ∧
      yielded.Sublist (after.medium.inventory volume directory) := by
  have none : (host.medium.inventory volume directory).filter
      (· ∉ host.medium.inventory volume directory) = [] :=
    List.filter_eq_nil_iff.mpr fun entry member => by simpa using member
  have begun : Browsing host.medium volume directory (fun _ => False) [] ⟨cursor, host⟩ :=
    { sized
      now := .refl consistent reachable
      browses := .start consistent reachable started
      once := by rw [none]; exact List.nodup_nil
      gained := fun entry member fresh => absurd member fresh }
  obtain ⟨yielded, ended, answered, browsing, closed, _⟩ :=
    begun.interleave consistent reachable actions undisturbed
  have among := browsing.browses.among browsing.now
  rw [List.nil_append] at browsing among
  refine ⟨yielded, ended, answered, browsing.browses.met consistent reachable,
    fun positive => browsing.browses.all_met (closed positive),
    browsing.once.sublist (among.filter _), fun entry member fresh => ?_, among⟩
  exact (browsing.gained entry (among.subset member) fresh).resolve_left id

/-- The host of a small volume whose root has one directory. -/
def settledHost : Host :=
  afterwards (Volume.small.createDirectory ['A']) (Host.untouched 20 4096 {})

/-- The entry of a directory with a name of one letter. -/
def lettered (letter : UInt8) (cluster : Nat) : Entry :=
  Entry.directory (Vector.ofFn fun place => if place.val = 0 then letter else 0x20) cluster

/-- The root is listed, with a directory created in front of the first request and another one
between the requests. -/
def letters : List Action := [.create ['B'], .next, .next, .create ['C'], .next]

/-- The disk on which one directory has been created is consistent, and its sectors are of
the expected size. -/
theorem settledHost_consistent :
    settledHost.disk.sectorSize = 512 ∧ settledHost.medium.Consistent .small := by
  have before : (Host.untouched 20 4096 {}).medium.Consistent .small :=
    Host.untouched_blankRoot.orderly.toConsistent
  obtain ⟨_, _, performs, creates⟩ :=
    Volume.small.createDirectory_performs (Host.untouched 20 4096 {}).medium ['A']
  obtain ⟨_, _, _, device, _⟩ := performs _ rfl
  obtain ⟨done, begun, left⟩ := (performs _ rfl).leaves
  refine ⟨device.sectorSize, ?_⟩
  rw [settledHost, left]
  rcases creates.states before begun with partway | ⟨_, _, _, completed⟩
  · exact partway.consistent_after before
  · exact completed.consistent_after before

/-- On the disk with one directory nothing is refused to the actions, and they are told of
both directories that stand there in time, and then of the end. -/
theorem letters_ran :
    (∀ event ∈ (afterwards (interleave .small letters)
        ⟨{ place := .root 0 }, settledHost⟩).host.trace, ¬ event.IsRefusal) ∧
      outcome (interleave .small letters) ⟨{ place := .root 0 }, settledHost⟩ =
        .ok [.ok (some (lettered 0x41 2)), .ok (some (lettered 0x42 3)), .ok none] := by
  decide +kernel

/-- The first of them is met, and the second one is not, since it came to a sector that the
cursor kept. -/
theorem start_interleave_small :
    settledHost.disk.sectorSize = 512 ∧ settledHost.medium.Consistent .small ∧
      settledHost.medium.Reachable .small .root ∧ start .small .root = .ok { place := .root 0 } ∧
      settledHost.Undisturbed
        (afterwards (interleave .small letters) ⟨{ place := .root 0 }, settledHost⟩).host ∧
      settledHost.medium.inventory .small .root = [lettered 0x41 2] ∧
      outcome (interleave .small letters) ⟨{ place := .root 0 }, settledHost⟩ =
        .ok [.ok (some (lettered 0x41 2)), .ok (some (lettered 0x42 3)), .ok none] ∧
      Puts .small .root ⟨{ place := .root 0 }, settledHost⟩ letters (lettered 0x42 3) := by
  obtain ⟨sized, consistent⟩ := settledHost_consistent
  obtain ⟨granted, spoke⟩ := letters_ran
  have undisturbed : settledHost.Undisturbed
      (afterwards (interleave .small letters) ⟨{ place := .root 0 }, settledHost⟩).host :=
    Host.Spared.of_trace (interleave_onlyAdds .small letters _) granted
  have held : settledHost.medium.inventory .small .root = [lettered 0x41 2] := by decide +kernel
  obtain ⟨yielded, ended, answered, _, _, _, gained, _⟩ :=
    start_interleave sized consistent .root rfl letters undisturbed
  refine ⟨sized, consistent, .root, rfl, undisturbed, held, spoke, gained _ ?_ ?_⟩
  · rw [spoke] at answered
    have told : .ok (some (lettered 0x42 3)) ∈
        yielded.map (fun entry => (.ok (some entry) : Except Failure (Option Entry))) ++
          List.replicate ended (.ok none) := by
      rw [← Except.ok.inj answered]
      simp
    simpa using told
  · rw [held]
    decide +kernel

end Cursor

end FatVolume
