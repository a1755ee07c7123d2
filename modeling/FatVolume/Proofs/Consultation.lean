import FatVolume.Proofs.Outcome
import FatVolume.RootSearch

/-!
# What a search for the root volume asks

The controller of a search may be anything: what it answers may depend on all that it was
asked before. A search is therefore told by its exchanges with the controller. A watched
controller answers as before and notes each exchange, so that the notes of a watched search
are the exchanges of the search itself.

A search for a partition passes over channels until one opens and holds the partition. The
induction is on the channels that are left: each is either passed over, which costs one
exchange or two and leaves the rest of the search to the channels behind it, or decides the
search. The exchanges of the controller are given with their answers, so that the statements
assume nothing about them.
-/

namespace FatVolume

variable {σ α β : Type}

/-! ## Watching a controller -/

/-- A question to a controller with its answer. -/
inductive Exchange where
  | openChannel (channel : Nat) (answer : Except Failure Disk)
  | firstCandidate (disk : Disk) (answer : Except Failure (Disk × Partition))
  | findPartition (disk : Disk) (uuid : List Char) (answer : Except Failure (Disk × Partition))

namespace Exchange

/-- The channel that was asked for. -/
def channel : Exchange → Option Nat
  | openChannel channel _ => some channel
  | _ => none

/-- The disk that was opened. -/
def opened : Exchange → Option Disk
  | openChannel _ (.ok disk) => some disk
  | _ => none

/-- The disk on which a partition was looked for, and the identity of the partition. -/
def sought : Exchange → Option (Disk × List Char)
  | findPartition disk uuid _ => some (disk, uuid)
  | _ => none

end Exchange

/-- An operation of a controller that notes its exchange, newest first. -/
def noting (note : Except Failure α → Exchange) (operation : EStateM Failure σ α) :
    EStateM Failure (σ × List Exchange) α := fun (state, notes) =>
  match operation state with
  | .ok value after => .ok value (after, note (.ok value) :: notes)
  | .error failure after => .error failure (after, note (.error failure) :: notes)

/-- The controller that notes its exchanges. -/
def Controller.watched (controller : Controller σ) : Controller (σ × List Exchange) where
  channels := controller.channels
  openChannel channel := noting (.openChannel channel) (controller.openChannel channel)
  firstCandidate disk := noting (.firstCandidate disk) (controller.firstCandidate disk)
  findPartition disk uuid := noting (.findPartition disk uuid) (controller.findPartition disk uuid)

/-- Watching an operation does not change how it ends: with notes taken, it gives the
value or the failure that it gives without them. -/
@[simp] theorem outcome_noting (note : Except Failure α → Exchange)
    (operation : EStateM Failure σ α) (state : σ) (notes : List Exchange) :
    outcome (noting note operation) (state, notes) = outcome operation state := by
  simp only [outcome, noting]
  cases operation state <;> rfl

/-- A watched operation leaves the state that it leaves when it is not watched, and takes
one note, of how it has ended, in front of the earlier ones. -/
@[simp] theorem afterwards_noting (note : Except Failure α → Exchange)
    (operation : EStateM Failure σ α) (state : σ) (notes : List Exchange) :
    afterwards (noting note operation) (state, notes) =
      (afterwards operation state, note (outcome operation state) :: notes) := by
  simp only [outcome, afterwards, noting]
  cases operation state <;> rfl

namespace RootSearch

/-- A search whose controller has taken notes. -/
def noted (search : RootSearch σ) (notes : List Exchange) : RootSearch (σ × List Exchange) :=
  { controller := (search.controller, notes), largestBlock := search.largestBlock
    trace := search.trace }

/-- The exchanges of a search for the root volume, in order. -/
def exchanges (controller : Controller σ) (text : List Char) (search : RootSearch σ) :
    List Exchange :=
  (afterwards (mountRoot controller.watched text) (search.noted [])).controller.2.reverse

/-- Watched or not, a search ends so, and when watched it notes these exchanges. -/
structure Runs (watched : RootSearchM (σ × List Exchange) α) (plain : RootSearchM σ α)
    (search : RootSearch σ) (exchanges : List Exchange) (result : Except Failure α) : Prop where
  ended : outcome plain search = result
  alike : ∀ notes, outcome watched (search.noted notes) = result
  noted : ∀ notes,
    (afterwards watched (search.noted notes)).controller.2 = exchanges.reverse ++ notes

/-! ## Steps of a search -/

/-- How the mounting of a partition ends, as the end of a search. -/
def mounting (channel : Nat) (disk : Disk) (partition : Partition) (largestBlock : Nat)
    (trace : List Event) : Except Failure (Mounted × Host) :=
  let host : Host := { disk, largestBlock, trace }
  (outcome (Mounted.mount channel partition) host).map fun mounted =>
    (mounted, afterwards (Mounted.mount channel partition) host)

/-- The search after a question, of which only the controller takes notice. -/
def asked (question : EStateM Failure σ α) (search : RootSearch σ) : RootSearch σ :=
  { search with controller := afterwards question search.controller }

/-- A question that is asked within a search ends as the question itself does in the state
of the controller. -/
@[simp] theorem outcome_ask (question : EStateM Failure σ α) (search : RootSearch σ) :
    outcome (ask question) search = outcome question search.controller := by
  simp only [outcome, ask]
  cases question search.controller <;> rfl

/-- A question that is asked within a search leaves the search with the controller in the
state that the question has brought it to. -/
@[simp] theorem afterwards_ask (question : EStateM Failure σ α) (search : RootSearch σ) :
    afterwards (ask question) search = search.asked question := by
  simp only [afterwards, ask, asked]
  cases question search.controller <;> rfl

/-- Asking a watched question leaves the search that asking the question itself leaves,
with one more note of its answer. -/
theorem asked_noting (note : Except Failure α → Exchange) (question : EStateM Failure σ α)
    (search : RootSearch σ) (notes : List Exchange) :
    (search.noted notes).asked (noting note question) =
      (search.asked question).noted (note (outcome question search.controller) :: notes) := by
  simp only [asked, noted, afterwards_noting]

/-- Mounting on a channel within a search ends as mounting does on a host with that disk,
and takes the events traced so far along. -/
theorem outcome_mountOn (channel : Nat) (disk : Disk) (partition : Partition)
    (search : RootSearch σ) :
    outcome (mountOn channel disk partition) search =
      mounting channel disk partition search.largestBlock search.trace := by
  simp only [outcome, mountOn, mounting, afterwards]
  cases Mounted.mount channel partition
    { disk, largestBlock := search.largestBlock, trace := search.trace } <;> rfl

/-- Mounting on a channel asks the controller nothing, so that its state is the one in
which the disk was handed over. -/
theorem controller_mountOn (channel : Nat) (disk : Disk) (partition : Partition)
    (search : RootSearch σ) :
    (afterwards (mountOn channel disk partition) search).controller = search.controller := by
  simp only [afterwards, mountOn]
  cases Mounted.mount channel partition
    { disk, largestBlock := search.largestBlock, trace := search.trace } <;> rfl

/-! ## Channels that are passed over -/

/-- Why a channel was passed over. -/
inductive Passed where
  /-- It did not open. -/
  | closed (failure : Failure)
  /-- Its disk was not found to hold the partition. -/
  | lacking (disk : Disk) (failure : Failure)

/-- The exchanges on a channel that was passed over. -/
def Passed.exchanges (uuid : List Char) (channel : Nat) : Passed → List Exchange
  | closed failure => [.openChannel channel (.error failure)]
  | lacking disk failure =>
    [.openChannel channel (.ok disk), .findPartition disk uuid (.error failure)]

/-- The exchanges on channels that were passed over, numbered from `first` on. -/
def passing (uuid : List Char) : Nat → List Passed → List Exchange
  | _, [] => []
  | first, passed :: more => passed.exchanges uuid first ++ passing uuid (first + 1) more

/-- The exchanges on a channel that holds the partition. -/
def holding (uuid : List Char) (channel : Nat) (disk left : Disk) (partition : Partition) :
    List Exchange :=
  [.openChannel channel (.ok disk), .findPartition disk uuid (.ok (left, partition))]

/-! ## Watched and unwatched searches -/

/-- Watched or not, a search goes on as another in another state, and when watched it has
noted these exchanges by then. -/
structure GoesOver (watched later : RootSearchM (σ × List Exchange) α)
    (plain plainLater : RootSearchM σ α) (search next : RootSearch σ) (made : List Exchange) :
    Prop where
  unwatched : plain search = plainLater next
  alike : ∀ notes, watched (search.noted notes) = later (next.noted (made.reverse ++ notes))

namespace GoesOver

section Sequence

variable {watched between later : RootSearchM (σ × List Exchange) α}
  {plain plainBetween plainLater : RootSearchM σ α} {search middle next : RootSearch σ}
  {made more : List Exchange}

/-- A search that goes over into a second, which itself goes over into a third, goes over
into the third with the exchanges of both in turn. -/
theorem trans (first : GoesOver watched between plain plainBetween search middle made)
    (second : GoesOver between later plainBetween plainLater middle next more) :
    GoesOver watched later plain plainLater search next (made ++ more) where
  unwatched := first.unwatched.trans second.unwatched
  alike notes := by
    rw [first.alike, second.alike, List.reverse_append, List.append_assoc]

end Sequence

section Question

variable {question : EStateM Failure σ β} {note : Except Failure β → Exchange}
  {search : RootSearch σ}

/-- A question whose answer is looked at goes over into what is done with that answer, be
it a value or a failure, with the exchange that was made. -/
theorem observed (watchedNext : Except Failure β → RootSearchM (σ × List Exchange) α)
    (next : Except Failure β → RootSearchM σ α) {answer : Except Failure β}
    (answered : outcome question search.controller = answer) :
    GoesOver (observe (ask (noting note question)) >>= watchedNext) (watchedNext answer)
      (observe (ask question) >>= next) (next answer) search (search.asked question)
      [note answer] where
  unwatched := by
    rw [bind_of_ok (outcome_observe _ _), outcome_ask, afterwards_observe, afterwards_ask, answered]
  alike notes := by
    rw [bind_of_ok (outcome_observe _ _), outcome_ask, afterwards_observe, afterwards_ask,
      asked_noting, answered]
    exact congrArg (watchedNext · _) ((outcome_noting ..).trans answered)

/-- A question whose failure would end the search goes over into what is done with its
value, where it succeeds. -/
theorem answered (watchedNext : β → RootSearchM (σ × List Exchange) α)
    (next : β → RootSearchM σ α) {answer : β}
    (succeeded : outcome question search.controller = .ok answer) :
    GoesOver (ask (noting note question) >>= watchedNext) (watchedNext answer)
      (ask question >>= next) (next answer) search (search.asked question)
      [note (.ok answer)] where
  unwatched := by
    rw [bind_of_ok ((outcome_ask ..).trans succeeded), afterwards_ask]
  alike notes := by
    rw [bind_of_ok ((outcome_ask ..).trans ((outcome_noting ..).trans succeeded)), afterwards_ask,
      asked_noting, succeeded]
    rfl

/-- A question whose failure ends the search goes over into that failure, where it fails;
the exchange is noted all the same. -/
theorem failed (watchedNext : β → RootSearchM (σ × List Exchange) α)
    (next : β → RootSearchM σ α) {failure : Failure}
    (refused : outcome question search.controller = .error failure) :
    GoesOver (ask (noting note question) >>= watchedNext) (throw failure)
      (ask question >>= next) (throw failure) search (search.asked question)
      [note (.error failure)] where
  unwatched := by
    rw [bind_of_error ((outcome_ask ..).trans refused), afterwards_ask]
    rfl
  alike notes := by
    rw [bind_of_error ((outcome_ask ..).trans ((outcome_noting ..).trans refused)),
      afterwards_ask, asked_noting, refused]
    rfl

end Question

/-- A search that begins with a notice goes over into the rest of it, with the notice
traced and without any exchange. -/
theorem announced (notice : Notice) (watched : RootSearchM (σ × List Exchange) α)
    (plain : RootSearchM σ α) (search : RootSearch σ) :
    GoesOver (announce notice >>= fun _ => watched) watched (announce notice >>= fun _ => plain)
      plain search { search with trace := .notice notice :: search.trace } [] :=
  ⟨rfl, fun _ => rfl⟩

end GoesOver

/-- A search that goes over into another one ends as the other does, and its exchanges are
those made on the way and then those of the other. -/
theorem Runs.of_goesOver {watched later : RootSearchM (σ × List Exchange) α}
    {plain plainLater : RootSearchM σ α} {search next : RootSearch σ}
    {made more : List Exchange} {result : Except Failure α}
    (rest : Runs later plainLater next more result)
    (goes : GoesOver watched later plain plainLater search next made) :
    Runs watched plain search (made ++ more) result where
  ended := by
    rw [outcome, goes.unwatched]
    exact rest.ended
  alike notes := by
    rw [outcome, goes.alike]
    exact rest.alike _
  noted notes := by
    rw [afterwards, goes.alike]
    refine (rest.noted _).trans ?_
    rw [List.reverse_append, List.append_assoc]

/-- Mounting on a channel ends alike whether the controller is watched or not, and makes
no exchange with it. -/
theorem Runs.mountOn (channel : Nat) (disk : Disk) (partition : Partition)
    (search : RootSearch σ) :
    Runs (mountOn channel disk partition) (mountOn channel disk partition) search []
      (mounting channel disk partition search.largestBlock search.trace) where
  ended := outcome_mountOn ..
  alike notes := outcome_mountOn channel disk partition (search.noted notes)
  noted notes := by
    rw [controller_mountOn]
    rfl

/-- The exchanges of a search for the root volume are those that its watched run has
noted, which is how they are defined. -/
theorem Runs.exchanges_eq {controller : Controller σ} {text : List Char} {search : RootSearch σ}
    {made : List Exchange} {result : Except Failure (Mounted × Host)}
    (runs : Runs (mountRoot controller.watched text) (mountRoot controller text) search made
      result) :
    exchanges controller text search = made := by
  rw [exchanges, runs.noted, List.append_nil, List.reverse_reverse]

section Scan

variable (controller : Controller σ) (uuid : List Char)

/-- Looking for a partition, a channel is either passed over, whereupon the channels
behind it decide, or it decides itself how the search ends. -/
theorem mountPartition_step (channel : Nat) (later : List Nat) (search : RootSearch σ) :
    (∃ (passed : Passed) (next : RootSearch σ),
      next.largestBlock = search.largestBlock ∧ next.trace = search.trace ∧
      GoesOver (mountPartition controller.watched uuid (channel :: later))
        (mountPartition controller.watched uuid later)
        (mountPartition controller uuid (channel :: later))
        (mountPartition controller uuid later) search next (passed.exchanges uuid channel)) ∨
    ∃ (disk left : Disk) (partition : Partition) (next : RootSearch σ),
      next.largestBlock = search.largestBlock ∧
      next.trace = .notice (.rootFound uuid channel) :: search.trace ∧
      GoesOver (mountPartition controller.watched uuid (channel :: later))
        (mountOn channel left partition)
        (mountPartition controller uuid (channel :: later))
        (mountOn channel left partition) search next
        (holding uuid channel disk left partition) := by
  let afterOpening := search.asked (controller.openChannel channel)
  let afterSeeking (disk : Disk) := afterOpening.asked (controller.findPartition disk uuid)
  cases opened : outcome (controller.openChannel channel) search.controller with
  | error failure =>
    exact .inl ⟨.closed failure, afterOpening, rfl, rfl, .observed _ _ opened⟩
  | ok disk =>
    have opening : GoesOver (mountPartition controller.watched uuid (channel :: later)) _
        (mountPartition controller uuid (channel :: later)) _ search afterOpening
        [.openChannel channel (.ok disk)] := .observed _ _ opened
    -- The channel has opened, and whether the partition is found on its disk decides between the
    -- two ends.
    cases found : outcome (controller.findPartition disk uuid) afterOpening.controller with
    | error failure =>
      exact .inl ⟨.lacking disk failure, afterSeeking disk, rfl, rfl,
        opening.trans (.observed _ _ found)⟩
    | ok answer =>
      obtain ⟨left, partition⟩ := answer
      have seeking := opening.trans (.observed _ _ found)
      refine .inr ⟨disk, left, partition, _, ?heap, ?trace,
        seeking.trans (.announced (.rootFound uuid channel) _ _ _)⟩
      case heap => rfl
      case trace => rfl

/-- A search of so many channels passes over channels until one of them holds the partition,
or over all. -/
theorem mountPartition_runs (first count : Nat) (search : RootSearch σ) :
    ∃ passed : List Passed,
      (passed.length = count ∧
        Runs (mountPartition controller.watched uuid (List.range' first count))
          (mountPartition controller uuid (List.range' first count)) search
          (passing uuid first passed) (.error .notFound)) ∨
      ∃ disk left partition, passed.length < count ∧
        Runs (mountPartition controller.watched uuid (List.range' first count))
          (mountPartition controller uuid (List.range' first count)) search
          (passing uuid first passed ++ holding uuid (first + passed.length) disk left partition)
          (mounting (first + passed.length) left partition search.largestBlock
            (.notice (.rootFound uuid (first + passed.length)) :: search.trace)) := by
  -- Along the channels that are left: each step passes one over or decides, and the channels
  -- behind it are searched from the state that it has left.
  induction count generalizing first search with
  | zero => exact ⟨[], .inl ⟨rfl, rfl, fun _ => rfl, fun _ => rfl⟩⟩
  | succ count inductionHypothesis =>
    rw [List.range'_succ]
    obtain ⟨skipped, next, heap, trace, goes⟩ | ⟨disk, left, partition, next, heap, trace, goes⟩ :=
      mountPartition_step controller uuid first (List.range' (first + 1) count) search
    · obtain ⟨passed, ⟨all, rest⟩ | ⟨disk, left, partition, some, rest⟩⟩ :=
        inductionHypothesis (first + 1) next
      · exact ⟨skipped :: passed, .inl ⟨congrArg Nat.succ all, rest.of_goesOver goes⟩⟩
      · refine ⟨skipped :: passed, .inr ⟨disk, left, partition, Nat.succ_lt_succ some, ?_⟩⟩
        have channel : first + 1 + passed.length = first + (skipped :: passed).length := by
          rw [List.length_cons]
          omega
        rw [channel, heap, trace] at rest
        have runs := rest.of_goesOver goes
        rw [← List.append_assoc] at runs
        exact runs
    · have runs := (Runs.mountOn first left partition next).of_goesOver goes
      rw [List.append_nil, heap, trace] at runs
      exact ⟨[], .inr ⟨disk, left, partition, count.succ_pos, runs⟩⟩

end Scan

/-! ## The first candidate -/

/-- A search that fails at once does so whether the controller is watched or not, and
makes no exchange with it. -/
theorem Runs.throw (failure : Failure) (search : RootSearch σ) :
    Runs (throw failure) (throw failure : RootSearchM σ α) search [] (.error failure) :=
  ⟨rfl, fun _ => rfl, fun _ => rfl⟩

/-- The first channel alone decides the search for a first candidate, and a failure there is
the failure of the search. -/
theorem mountFirstCandidate_runs (controller : Controller σ) (search : RootSearch σ) :
    (∃ failure, Runs (mountFirstCandidate controller.watched) (mountFirstCandidate controller)
      search [.openChannel 0 (.error failure)] (.error failure)) ∨
    (∃ disk failure, Runs (mountFirstCandidate controller.watched)
      (mountFirstCandidate controller) search
      [.openChannel 0 (.ok disk), .firstCandidate disk (.error failure)] (.error failure)) ∨
    ∃ disk left partition, Runs (mountFirstCandidate controller.watched)
      (mountFirstCandidate controller) search
      [.openChannel 0 (.ok disk), .firstCandidate disk (.ok (left, partition))]
      (mounting 0 left partition search.largestBlock search.trace) := by
  let afterOpening := search.asked (controller.openChannel 0)
  cases opened : outcome (controller.openChannel 0) search.controller with
  | error failure =>
    exact .inl ⟨failure, (Runs.throw failure afterOpening).of_goesOver (.failed _ _ opened)⟩
  | ok disk =>
    have opening : GoesOver (mountFirstCandidate controller.watched) _
        (mountFirstCandidate controller) _ search afterOpening
        [.openChannel 0 (.ok disk)] := .answered _ _ opened
    cases found : outcome (controller.firstCandidate disk) afterOpening.controller with
    | error failure =>
      exact .inr (.inl ⟨disk, failure, (Runs.throw failure _).of_goesOver
        (opening.trans (.failed _ _ found))⟩)
    | ok answer =>
      obtain ⟨left, partition⟩ := answer
      exact .inr (.inr ⟨disk, left, partition, (Runs.mountOn 0 left partition _).of_goesOver
        (opening.trans (.answered _ _ found))⟩)

/-! ## The whole search -/

/-- On the channels that are passed over, each is asked for exactly once, in ascending
order and without a gap. -/
theorem filterMap_channel_passing (uuid : List Char) (first : Nat) (passed : List Passed) :
    (passing uuid first passed).filterMap Exchange.channel = List.range' first passed.length := by
  induction passed generalizing first with
  | nil => rfl
  | cons skipped passed inductionHypothesis =>
    rw [passing, List.filterMap_append, inductionHypothesis, List.length_cons, List.range'_succ]
    cases skipped <;> rfl

/-- On the channels that are passed over, the partition is looked for exactly once on each
disk that has opened, in the same order. -/
theorem filterMap_sought_passing (uuid : List Char) (first : Nat) (passed : List Passed) :
    (passing uuid first passed).filterMap Exchange.sought =
      ((passing uuid first passed).filterMap Exchange.opened).map (·, uuid) := by
  induction passed generalizing first with
  | nil => rfl
  | cons skipped passed inductionHypothesis =>
    rw [passing, List.filterMap_append, List.filterMap_append, List.map_append,
      inductionHypothesis]
    cases skipped <;> rfl

/-- Where a search makes certain exchanges behind a notice, the search that begins with
that notice makes the same ones and ends alike. -/
theorem Runs.after_notice {notice : Notice} {watched : RootSearchM (σ × List Exchange) α}
    {plain : RootSearchM σ α} {search : RootSearch σ} {made : List Exchange}
    {result : Except Failure α}
    (runs : Runs watched plain { search with trace := .notice notice :: search.trace } made
      result) :
    Runs (announce notice >>= fun _ => watched) (announce notice >>= fun _ => plain) search made
      result :=
  runs.of_goesOver (.announced notice watched plain search)

end RootSearch

namespace RootSpec

/-- An empty text and the word for the system partition both stand for the first candidate
on the first channel. -/
theorem parse_firstCandidate {text : List Char} (named : text = [] ∨ text = "esp".toList) :
    parse text = .ok .firstCandidate := by
  rw [parse, if_pos named]

/-- What follows the marker of a partition is its identity, whatever it is: nothing of it
is checked while the text is parsed. -/
theorem parse_marker (uuid : List Char) : parse (marker ++ uuid) = .ok (.partition uuid) := by
  have unnamed : ¬(marker ++ uuid = [] ∨ marker ++ uuid = "esp".toList) := by
    rintro (empty | esp)
    · cases empty
    · exact absurd (Option.some.inj (congrArg List.head? esp) : 'p' = 'e') (by decide)
  rw [parse, if_neg unnamed, if_pos (List.isPrefixOf_iff_prefix.mpr (List.prefix_append _ _)),
    List.drop_left]

/-- A text that is neither one of the words for the first candidate nor begins with the
marker of a partition is refused as unsupported. -/
theorem parse_unsupported {text : List Char} (unnamed : ¬(text = [] ∨ text = "esp".toList))
    (unmarked : ∀ uuid, text ≠ marker ++ uuid) : parse text = .error .unsupportedRoot := by
  have noPrefix : ¬marker.isPrefixOf text = true := by
    intro marked
    obtain ⟨uuid, rest⟩ := List.isPrefixOf_iff_prefix.mp marked
    exact unmarked uuid rest.symm
  rw [parse, if_neg unnamed, if_neg noPrefix]

end RootSpec

namespace RootSearch

section Text

variable {controller : Controller σ} {search : RootSearch σ} {made : List Exchange}
  {result : Except Failure (Mounted × Host)}

/-- The search for a text with the marker ends as looking for that partition on all
channels from the first one on, with the same exchanges. -/
theorem Runs.of_marked {uuid : List Char}
    (runs : Runs (mountPartition controller.watched uuid (List.range' 0 controller.channels))
      (mountPartition controller uuid (List.range' 0 controller.channels)) search made result) :
    Runs (mountRoot controller.watched (RootSpec.marker ++ uuid))
      (mountRoot controller (RootSpec.marker ++ uuid)) search made result := by
  rw [mountRoot, mountRoot, RootSpec.parse_marker]
  dsimp only
  rw [List.range_eq_range', List.range_eq_range']
  exact runs

/-- The search for a text that stands for the first candidate ends as mounting that
candidate does behind the notice which says so, with the same exchanges. -/
theorem Runs.of_unnamed {text : List Char} (named : text = [] ∨ text = "esp".toList)
    (runs : Runs (mountFirstCandidate controller.watched) (mountFirstCandidate controller)
      { search with trace := .notice (.defaultRoot text) :: search.trace } made result) :
    Runs (mountRoot controller.watched text) (mountRoot controller text) search made result := by
  rw [mountRoot, mountRoot, RootSpec.parse_firstCandidate named]
  exact runs.after_notice

/-- The search for a text that stands for nothing fails at once, and the controller is
asked nothing. -/
theorem Runs.of_unsupported {text : List Char} (unnamed : ¬(text = [] ∨ text = "esp".toList))
    (unmarked : ∀ uuid, text ≠ RootSpec.marker ++ uuid) :
    Runs (mountRoot controller.watched text) (mountRoot controller text) search []
      (.error .unsupportedRoot) := by
  rw [mountRoot, mountRoot, RootSpec.parse_unsupported unnamed unmarked]
  exact (Runs.throw .unsupportedRoot _).after_notice

end Text

/-- Where a partition is named, the channels are asked for in ascending order, as far as to
the first that opens and holds the partition, whose mounting is the outcome of the search. Where
nothing is named, the first channel decides. No other text makes the controller asked. -/
theorem mountRoot_consults (controller : Controller σ) (text : List Char)
    (search : RootSearch σ) :
    let made := exchanges controller text search
    let result := outcome (mountRoot controller text) search
    (∀ uuid, text = RootSpec.marker ++ uuid →
      (∃ count ≤ controller.channels, made.filterMap Exchange.channel = List.range count) ∧
      made.filterMap Exchange.sought = (made.filterMap Exchange.opened).map (·, uuid) ∧
      ∃ passed : List Passed,
        (passed.length = controller.channels ∧ made = passing uuid 0 passed ∧
          result = .error .notFound) ∨
        ∃ disk left partition, passed.length < controller.channels ∧
          made = passing uuid 0 passed ++ holding uuid passed.length disk left partition ∧
          result = mounting passed.length left partition search.largestBlock
            (.notice (.rootFound uuid passed.length) :: search.trace)) ∧
    (text = [] ∨ text = "esp".toList →
      (∃ failure, made = [.openChannel 0 (.error failure)] ∧ result = .error failure) ∨
      (∃ disk failure, made = [.openChannel 0 (.ok disk), .firstCandidate disk (.error failure)] ∧
        result = .error failure) ∨
      ∃ disk left partition,
        made = [.openChannel 0 (.ok disk), .firstCandidate disk (.ok (left, partition))] ∧
        result = mounting 0 left partition search.largestBlock
          (.notice (.defaultRoot text) :: search.trace)) ∧
    (¬(text = [] ∨ text = "esp".toList) → (∀ uuid, text ≠ RootSpec.marker ++ uuid) →
      made = [] ∧ result = .error .unsupportedRoot) := by
  intro made result
  refine ⟨?partition, ?firstCandidate, ?unsupported⟩
  case partition =>
    rintro uuid rfl
    obtain ⟨passed, ⟨all, scan⟩ | ⟨disk, left, partition, some, scan⟩⟩ :=
      mountPartition_runs controller uuid 0 controller.channels search
    -- Every channel was passed over.
    · have runs := scan.of_marked
      have told : made = passing uuid 0 passed := runs.exchanges_eq
      refine ⟨⟨passed.length, Nat.le_of_eq all, ?_⟩, ?_, passed, .inl ⟨all, told, runs.ended⟩⟩
      · rw [told, filterMap_channel_passing, List.range_eq_range']
      · rw [told, filterMap_sought_passing]
    -- The channel behind those that were passed over holds the partition, and is the last that was
    -- asked for.
    · rw [Nat.zero_add] at scan
      have runs := scan.of_marked
      have told : made = passing uuid 0 passed ++ holding uuid passed.length disk left partition :=
        runs.exchanges_eq
      refine ⟨⟨passed.length + 1, some, ?_⟩, ?_, passed,
        .inr ⟨disk, left, partition, some, told, runs.ended⟩⟩
      · rw [told, List.filterMap_append, filterMap_channel_passing, List.range_succ,
          List.range_eq_range']
        rfl
      · rw [told, List.filterMap_append, List.filterMap_append, List.map_append,
          filterMap_sought_passing]
        rfl
  case firstCandidate =>
    intro named
    obtain ⟨failure, first⟩ | ⟨disk, failure, first⟩ | ⟨disk, left, partition, first⟩ :=
      mountFirstCandidate_runs controller
        { search with trace := .notice (.defaultRoot text) :: search.trace }
    · have runs := first.of_unnamed named
      exact .inl ⟨failure, runs.exchanges_eq, runs.ended⟩
    · have runs := first.of_unnamed named
      exact .inr (.inl ⟨disk, failure, runs.exchanges_eq, runs.ended⟩)
    · have runs := first.of_unnamed named
      exact .inr (.inr ⟨disk, left, partition, runs.exchanges_eq, runs.ended⟩)
  case unsupported =>
    intro unnamed unmarked
    have runs : Runs (mountRoot controller.watched text) (mountRoot controller text) search [] _ :=
      .of_unsupported unnamed unmarked
    exact ⟨runs.exchanges_eq, runs.ended⟩

/-- A controller of four channels that counts its questions. Channel 0 never opens, and no disk
is found to hold a partition before the fifth question. -/
def hesitant : Controller Nat where
  channels := 4
  openChannel channel := fun asked =>
    if channel = 0 then .error (.transfer .device) (asked + 1)
    else .ok { capacity := 0 } (asked + 1)
  firstCandidate _ := fun asked => .error .notFound (asked + 1)
  findPartition disk _ := fun asked =>
    if asked < 4 then .error .notFound (asked + 1) else .ok (disk, ⟨0, 20, 4⟩) (asked + 1)

/-- Channel 0 does not open, channel 1 is asked too early, and channel 2 decides, although its
disk is too small to be mounted. -/
theorem mountRoot_consults_hesitant :
    let search : RootSearch Nat := { controller := 0, largestBlock := 0 }
    let made := exchanges hesitant "partuuid=a".toList search
    let result := outcome (mountRoot hesitant "partuuid=a".toList) search
    "partuuid=a".toList = RootSpec.marker ++ ['a'] ∧
      made.filterMap Exchange.channel = [0, 1, 2] ∧
      result = .error (.transfer .outOfRange) ∧
      (∃ count ≤ hesitant.channels, made.filterMap Exchange.channel = List.range count) ∧
      exchanges hesitant "label=ROOT".toList search = [] := by
  intro search made result
  have consults := mountRoot_consults hesitant
  exact ⟨rfl, rfl, rfl, ((consults "partuuid=a".toList search).1 ['a'] rfl).1,
    ((consults "label=ROOT".toList search).2.2 (by decide)
      (fun uuid same => absurd (Option.some.inj (congrArg List.head? same) : 'l' = 'p')
        (by decide))).1⟩

end RootSearch

end FatVolume
