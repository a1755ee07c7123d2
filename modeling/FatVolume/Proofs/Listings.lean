import FatVolume.Proofs.Lookups
import FatVolume.Proofs.Records

/-!
# Listings that agree

A directory can be listed in four ways: a caller asks a cursor for entry after entry, a visitor
is handed them until it stops, a buffer of records is filled with them, and the system call does
the same for a task. All of them make the same requests one after the other, so what they tell
is decided by what these requests yield, on every disk and whatever it refuses.

Where a complete listing meets no failure, the requests have yielded the live entries in front
of the first end marker that are not those of the directory itself and its parent. What a listing
tells that a failure has ended is not compared with the medium here.
-/

namespace FatVolume

namespace Cursor

/-- An operation along a cursor ends as it does in a walk with that cursor on the same
host. -/
theorem outcome_along {α : Type} (cursor : Cursor) (operation : WalkM α) (host : Host) :
    outcome (cursor.along operation) host = outcome operation ⟨cursor, host⟩ := by
  simp only [outcome, along]
  cases operation ⟨cursor, host⟩ <;> rfl

/-- An operation along a cursor leaves the host that it leaves in a walk with that cursor
on the same host. -/
theorem afterwards_along {α : Type} (cursor : Cursor) (operation : WalkM α) (host : Host) :
    afterwards (cursor.along operation) host = (afterwards operation ⟨cursor, host⟩).host := by
  simp only [afterwards, along]
  cases operation ⟨cursor, host⟩ <;> rfl

/-- A search that finds nothing more leaves the cursor ready for the medium and done. -/
theorem Finds.done {medium : Medium} {volume : Volume} {wanted : Entry → Bool}
    {course : Course (SlotPosition × Entry)} {moved : Cursor}
    (finds : Finds medium volume wanted course (.ok (none, moved))) :
    moved.Ready medium volume ∧ moved.done = true := by
  generalize same : Except.ok (none, moved) = result at finds
  induction finds with
  | found => cases same
  | passed _ _ inductionHypothesis => exact inductionHypothesis same
  | ended ready done =>
    cases same
    exact ⟨ready, done⟩
  | failed => cases same

end Cursor

namespace Listing

variable {volume : Volume} {shown : Shown} {walk rest : Walk} {entries : List Entry}
  {ending : Option Failure} {σ : Type}

/-- What a listing comes to from a walk on: the entries that its requests yield, one after the
other, and the failure that ends them, if one does. -/
inductive Yields (volume : Volume) (shown : Shown) : Walk → List Entry → Option Failure → Prop
  | ended {walk rest : Walk} (asked : next volume shown walk = .ok none rest) :
      Yields volume shown walk [] none
  | failed {walk rest : Walk} {failure : Failure}
      (asked : next volume shown walk = .error failure rest) :
      Yields volume shown walk [] (some failure)
  | yielded {walk rest : Walk} {entry : Entry} {entries : List Entry} {ending : Option Failure}
      (asked : next volume shown walk = .ok (some entry) rest)
      (further : Yields volume shown rest entries ending) :
      Yields volume shown walk (entry :: entries) ending

/-- Every listing comes to some entries and to an end, no more of them than the cursor has
slots ahead. -/
theorem exists_yields (volume : Volume) (shown : Shown) (walk : Walk) :
    ∃ entries ending, Yields volume shown walk entries ending ∧
      entries.length ≤ walk.cursor.slotsLeft volume :=
  match asked : next volume shown walk with
  | .ok none rest => ⟨[], none, .ended asked, Nat.zero_le _⟩
  | .error failure rest => ⟨[], some failure, .failed asked, Nat.zero_le _⟩
  | .ok (some entry) rest =>
    have fewer := next_slotsLeft asked
    have ⟨entries, ending, further, bounded⟩ := exists_yields volume shown rest
    ⟨entry :: entries, ending, .yielded asked further, Nat.lt_of_le_of_lt bounded fewer⟩
termination_by walk.cursor.slotsLeft volume

/-- Whatever the visitor does with them, it is handed the entries that the listing comes
to, in turn and as far as it goes on. -/
theorem Yields.deliver (yields : Yields volume shown walk entries ending)
    (visit : σ → Entry → ForInStep σ) (state : σ) :
    outcome (deliver volume shown visit state) walk =
      .ok (handOver visit ending state entries) := by
  -- Entry by entry, from the state in which the visitor has gone on.
  induction yields generalizing state with
  | ended asked | failed asked =>
    simp only [outcome]
    rw [Listing.deliver, asked]
    rfl
  | @yielded walk rest entry entries ending asked further inductionHypothesis =>
    simp only [outcome] at inductionHypothesis ⊢
    rw [Listing.deliver, asked, handOver]
    dsimp only
    cases visit state entry with
    | done final => rfl
    | yield following => exact inductionHypothesis following

/-- An answer of a listing with a ready cursor is what the search finds on the medium, and
the medium stays as it is. -/
theorem next_finds {medium : Medium} {answer : Option Entry}
    (asked : next volume shown walk = .ok answer rest) (holds : walk.host.medium = medium)
    (ready : walk.cursor.Ready medium volume) :
    rest.host.medium = medium ∧
      Cursor.Finds medium volume shown.wanted (walk.cursor.ahead medium volume).entries
        (.ok (answer, rest.cursor)) := by
  obtain ⟨cursor, host⟩ := walk
  obtain ⟨result, reads, finds⟩ := Cursor.nextEntry_finds shown.wanted ready
  have searched : Cursor.nextEntry volume shown.wanted ⟨cursor, host⟩ = .ok answer rest := by
    simp only [next] at asked
    split at asked
    next found => rwa [← asked]
    next => cases asked
  obtain ⟨ended, left⟩ := ran_ok_iff.mp searched
  have ran : outcome (cursor.alongside (Cursor.nextEntry volume shown.wanted)) host =
      .ok (answer, rest.cursor) := by
    rw [Cursor.outcome_alongside, ended, left]
    rfl
  obtain rfl := reads.intended_of_ok holds ran
  have same := reads.unchanged holds
  rw [Cursor.afterwards_alongside, left] at same
  exact ⟨same, finds⟩

/-- A failure of a listing which is none of the disk is met only where all entries that
the listing shows have been told. -/
theorem next_fails {medium : Medium} {failure : Failure}
    (asked : next volume shown walk = .error failure rest) (served : ¬ failure.OfDisk)
    (holds : walk.host.medium = medium) (ready : walk.cursor.Ready medium volume) :
    ((walk.cursor.ahead medium volume).entries.items.map Prod.snd).filter shown.wanted = [] := by
  obtain ⟨cursor, host⟩ := walk
  obtain ⟨result, reads, finds⟩ := Cursor.nextEntry_finds shown.wanted ready
  have ran : outcome (cursor.alongside (Cursor.nextEntry volume shown.wanted)) host =
      .error failure := by
    rw [Cursor.outcome_alongside, outcome]
    simp only [next] at asked
    split at asked
    next => cases asked
    next failed =>
      cases asked
      rw [failed]
      rfl
  have spared : SparedByDisk
      (outcome (cursor.alongside (Cursor.nextEntry volume shown.wanted)) host) := by
    intro other same
    rw [ran] at same
    cases same
    exact served
  rw [← reads.intended_of_spared holds spared, ran] at finds
  exact finds.of_error.1

/-- A listing comes to the first of the shown entries that were ahead, and to all of them unless
a failure of the disk ends it. -/
theorem Yields.shown_ahead {medium : Medium} (yields : Yields volume shown walk entries ending)
    (holds : walk.host.medium = medium) (ready : walk.cursor.Ready medium volume) :
    ∃ missed, ((walk.cursor.ahead medium volume).entries.items.map Prod.snd).filter shown.wanted =
        entries ++ missed ∧
      ((∀ failure, ending = some failure → ¬ failure.OfDisk) → missed = []) := by
  -- Each answer is the first entry ahead that the listing shows, and leaves those behind it ahead.
  induction yields with
  | ended asked =>
    obtain ⟨_, finds⟩ := next_finds asked holds ready
    exact ⟨[], finds.of_none.1, fun _ => rfl⟩
  | failed asked =>
    exact ⟨_, rfl, fun served => next_fails asked (served _ rfl) holds ready⟩
  | yielded asked further inductionHypothesis =>
    obtain ⟨same, finds⟩ := next_finds asked holds ready
    obtain ⟨stillReady, behind, remains, _, shows⟩ := finds.of_some
    obtain ⟨missed, divided, none⟩ := inductionHypothesis same stillReady
    refine ⟨missed, ?_, none⟩
    rw [shows, List.cons_append, ← divided, remains]

/-- A listing that has told of its end tells of it again, and asks the disk for nothing. -/
theorem next_done (done : walk.cursor.done = true) : next volume shown walk = .ok none walk := by
  have slotless : Cursor.sweep volume (Cursor.visitEntry shown.wanted) walk = .ok none walk := by
    rw [Cursor.sweep, Cursor.nextSlot_done done]
  have entryless : Cursor.nextEntry volume shown.wanted walk = .ok none walk := by
    rw [Cursor.nextEntry, bind_of_ok (ran_ok_iff.mp slotless).1, (ran_ok_iff.mp slotless).2]
    rfl
  rw [next, entryless]

/-- The requests of a caller are answered with the entries that a listing comes to, and with
its end ever after. -/
theorem Yields.requests {medium : Medium} (yields : Yields volume shown walk entries ending)
    (whole : ending = none) (holds : walk.host.medium = medium)
    (ready : walk.cursor.Ready medium volume) (count : Nat) :
    outcome (Cursor.requests (next volume shown) count) walk =
      .ok (Course.told ⟨entries, none⟩ count) := by
  have ended {walk : Walk} (done : walk.cursor.done = true) (count : Nat) :
      outcome (Cursor.requests (next volume shown) count) walk =
        .ok (Course.told ⟨[], none⟩ count) := by
    have stopped : next volume shown walk = .ok none walk := next_done done
    obtain ⟨none, stays⟩ := ran_ok_iff.mp stopped
    -- Each request takes one entry from the listing, and behind the last each is told of the end.
    induction count with
    | zero => rfl
    | succ count inductionHypothesis =>
      rw [Course.told_ended, (Cursor.requests_succ _ count walk (stays.symm ▸ inductionHypothesis)).1,
        none]
  induction count generalizing walk entries with
  | zero => rw [Course.told_zero]; rfl
  | succ count inductionHypothesis =>
    cases yields with
    | ended asked =>
      obtain ⟨_, finds⟩ := next_finds asked holds ready
      obtain ⟨answered, left⟩ := ran_ok_iff.mp asked
      rw [Course.told_ended, (Cursor.requests_succ _ count walk
        (left.symm ▸ ended finds.done.2 count)).1, answered]
    | failed => cases whole
    | yielded asked further =>
      obtain ⟨same, finds⟩ := next_finds asked holds ready
      obtain ⟨answered, left⟩ := ran_ok_iff.mp asked
      rw [Course.told_cons, (Cursor.requests_succ _ count walk
        (left.symm ▸ inductionHypothesis further same finds.of_some.1)).1, answered]

/-! ## Visitors -/

/-- The state of a visitor behind some entries, if it goes on after each of them. -/
def through (visit : σ → Entry → ForInStep σ) : σ → List Entry → Option σ
  | state, [] => some state
  | state, entry :: rest =>
    match visit state entry with
    | .done _ => none
    | .yield following => through visit following rest

/-- Behind entries after which a visitor goes on, it is handed the next ones, in the state
in which it is by then. -/
theorem handOver_through {visit : σ → Entry → ForInStep σ} {state middle : σ}
    {earlier : List Entry} (goesOn : through visit state earlier = some middle)
    (ending : Option Failure) (later : List Entry) :
    handOver visit ending state (earlier ++ later) = handOver visit ending middle later := by
  fun_induction through visit state earlier with
  | case1 =>
    cases goesOn
    rfl
  | case2 => cases goesOn
  | case3 state entry rest following visited inductionHypothesis =>
    rw [List.cons_append, handOver, visited]
    exact inductionHypothesis goesOn

/-- A visitor that counts goes on after the same entries as without counting, and its
count grows by their number. -/
theorem through_counting {visit : σ → Entry → ForInStep σ} {state middle : σ}
    {earlier : List Entry} (goesOn : through visit state earlier = some middle) (count : Nat) :
    through (Mounted.counting visit) (state, count) earlier =
      some (middle, count + earlier.length) := by
  fun_induction through visit state earlier generalizing count with
  | case1 =>
    cases goesOn
    rfl
  | case2 => cases goesOn
  | case3 state entry rest following visited inductionHypothesis =>
    rw [through, Mounted.counting, visited]
    dsimp only
    rw [inductionHypothesis goesOn, List.length_cons, Nat.add_right_comm, Nat.add_assoc]

end Listing

/-! ## Records -/

namespace RecordBuffer

/-- A buffer with room for some more entries takes them into its next records in their
order, and leaves all other records as they are. -/
theorem through_add {buffer : RecordBuffer} {entries : List Entry}
    (room : buffer.filled + entries.length ≤ buffer.records.size) :
    ∃ after, Listing.through add buffer entries = some after ∧
      after.filled = buffer.filled + entries.length ∧
      after.records.size = buffer.records.size ∧
      ∀ number, after.records[number]? =
        if number < buffer.filled ∨ buffer.filled + entries.length ≤ number then
          buffer.records[number]?
        else entries[number - buffer.filled]?.map ListingRecord.ofEntry := by
  -- Entry by entry: each goes into the first record that is not filled.
  induction entries generalizing buffer with
  | nil =>
    refine ⟨buffer, rfl, rfl, rfl, fun number => ?_⟩
    rw [List.length_nil, if_pos (by omega)]
  | cons entry rest inductionHypothesis =>
    rw [List.length_cons] at room
    have free : buffer.filled < buffer.records.size := by omega
    have size : (buffer.records.setIfInBounds buffer.filled (ListingRecord.ofEntry entry)).size =
        buffer.records.size := Array.size_setIfInBounds
    obtain ⟨after, goesOn, counted, sized, stands⟩ := @inductionHypothesis
      ⟨buffer.records.setIfInBounds buffer.filled (ListingRecord.ofEntry entry), buffer.filled + 1⟩
      (by dsimp only; omega)
    dsimp only at counted sized stands
    refine ⟨after, ?_, by rw [counted, List.length_cons]; omega, sized.trans size,
      fun number => ?_⟩
    · rw [Listing.through, add, if_pos free]
      exact goesOn
    · rw [stands, List.length_cons, Array.getElem?_setIfInBounds]
      rcases Nat.lt_trichotomy number buffer.filled with before | rfl | behind
      · rw [if_pos (by omega), if_neg (by omega), if_pos (by omega)]
      · rw [if_pos (by omega), if_pos rfl, if_pos free, if_neg (by omega), Nat.sub_self]
        rfl
      · obtain ⟨more, same⟩ : ∃ more, number - buffer.filled = more + 1 :=
          ⟨number - buffer.filled - 1, by omega⟩
        have fewer : number - (buffer.filled + 1) = more := by omega
        rw [same, fewer, List.getElem?_cons_succ]
        split
        · rw [if_neg (by omega), if_pos (by omega)]
        · rw [if_neg (by omega)]

end RecordBuffer

/-- What records become when entries are put into them: the first ones tell of the entries, as
many as there are of both, and the others are left as they were. -/
structure Fills (entries : List Entry) (records filled : Array ListingRecord) (count : Nat) :
    Prop where
  counted : count = min records.size entries.length
  size : filled.size = records.size
  tells : ∀ (number : Nat) (entry : Entry), number < count → entries[number]? = some entry →
    ∃ record, filled[number]? = some record ∧
      record.nameBytes = Text.utf8 entry.displayName ∧ record.kind? = some entry.kind ∧
      record.size = if entry.isDirectory then 0 else entry.size
  left : ∀ number, count ≤ number → filled[number]? = records[number]?

namespace RecordBuffer

/-- Entries are put into records until there are no more of either. An ending is only reached
while there is room. -/
theorem handOver_add (records : Array ListingRecord) (entries : List Entry)
    (ending : Option Failure) :
    ∃ filled count, Listing.handOver (Mounted.counting add) ending ({ records }, 0) entries =
        ⟨(⟨filled, count⟩, count), if records.size < entries.length then none else ending⟩ ∧
      Fills entries records filled count := by
  have room : (RecordBuffer.mk records 0).filled + (entries.take records.size).length ≤
      records.size := by
    rw [List.length_take]
    dsimp only
    omega
  obtain ⟨⟨filled, count⟩, goesOn, counted, sized, stands⟩ := through_add room
  dsimp only at counted sized stands
  rw [Nat.zero_add, List.length_take] at counted
  refine ⟨filled, count, ?_, counted, sized, fun number entry inside stood => ?_,
    fun number behind => ?_⟩
  · have ahead := Listing.handOver_through (Listing.through_counting goesOn 0) ending
      (entries.drop records.size)
    rw [List.take_append_drop, Nat.zero_add, List.length_take, ← counted] at ahead
    rw [ahead]
    have left := List.length_drop (l := entries) (i := records.size)
    cases behind : entries.drop records.size with
    | nil =>
      rw [behind, List.length_nil] at left
      rw [Listing.handOver, if_neg (by omega)]
    | cons entry later =>
      rw [behind, List.length_cons] at left
      have full : ¬ count < filled.size := by omega
      rw [Listing.handOver, Mounted.counting, add, if_neg full, if_pos (by omega)]
  · refine ⟨ListingRecord.ofEntry entry, ?_, ListingRecord.ofEntry_tells entry⟩
    rw [stands, if_neg (by rw [List.length_take]; omega), Nat.sub_zero,
      List.getElem?_take_of_lt (by omega), stood]
    rfl
  · rw [stands, if_pos (by rw [List.length_take]; omega)]

end RecordBuffer

namespace Mounted

variable {mounted : Mounted} {host : Host} {path : List Char} {cursor : Cursor}
  {entries : List Entry} {ending : Option Failure} {σ : Type}

/-- Opening a directory only reads the disk, and undisturbed it ends with a cursor at the
directory that the path names on the medium. -/
theorem openDirectory_reads (medium : Medium) (path : List Char) :
    Reads (mounted.openDirectory path) medium (do
      let directory ← (← medium.lookup mounted.volume path).directory
      Cursor.start mounted.volume directory) :=
  (lookup_reads path).andThen fun _ _ => (Performs.lift _).andThen fun _ _ => .lift _

/-- A directory that has been opened is the one to which its path leads on the medium, and
the medium is as before. -/
theorem openDirectory_ok (opened : outcome (mounted.openDirectory path) host = .ok cursor) :
    ∃ directory,
      (host.medium.lookup mounted.volume path >>= Resolved.directory) = .ok directory ∧
      Cursor.start mounted.volume directory = .ok cursor ∧
      (afterwards (mounted.openDirectory path) host).medium = host.medium := by
  have led := (openDirectory_reads host.medium path).intended_of_ok rfl opened
  obtain ⟨resolved, looked, led⟩ := ok_of_bind led
  obtain ⟨directory, entered, started⟩ := ok_of_bind led
  refine ⟨directory, ?_, started, (openDirectory_reads host.medium path).unchanged rfl⟩
  rw [looked]
  exact entered

/-- A listing of an opened directory gives what its visitor has made of the entries, with
their count or the failure that ended them. -/
theorem listDirectory_yields (opened : outcome (mounted.openDirectory path) host = .ok cursor)
    (yields : Listing.Yields mounted.volume .named
      ⟨cursor, afterwards (mounted.openDirectory path) host⟩ entries ending)
    (visit : σ → Entry → ForInStep σ) (state : σ) :
    outcome (mounted.listDirectory path visit state) host =
      let delivery := Listing.handOver (counting visit) ending (state, 0) entries
      .ok (delivery.state.1,
        match delivery.failure with
        | some failure => .error failure
        | none => .ok delivery.state.2) := by
  have observed : outcome (observe (mounted.openDirectory path)) host = .ok (.ok cursor) := by
    rw [outcome_observe, opened]
  have delivered := yields.deliver (counting visit) (state, 0)
  rw [← Cursor.outcome_along] at delivered
  rw [listDirectory, outcome_bind_ok observed, afterwards_observe]
  dsimp only
  rw [handEntries, outcome_bind_ok delivered]
  cases (Listing.handOver (counting visit) ending (state, 0) entries).failure <;> rfl

/-- Where a directory cannot be opened, its listing hands nothing to the visitor and gives
the failure of the opening. -/
theorem listDirectory_unopened {failure : Failure}
    (failed : outcome (mounted.openDirectory path) host = .error failure)
    (visit : σ → Entry → ForInStep σ) (state : σ) :
    outcome (mounted.listDirectory path visit state) host = .ok (state, .error failure) := by
  have observed : outcome (observe (mounted.openDirectory path)) host = .ok (.error failure) := by
    rw [outcome_observe, failed]
  rw [listDirectory, outcome_bind_ok observed]
  rfl

/-- On every disk and whatever it refuses a listing ends, and where it ends in a count,
this fits a signed word of 32 bits. -/
theorem listDirectory_ends (path : List Char) (visit : σ → Entry → ForInStep σ) (state : σ)
    (host : Host) :
    ∃ final result, outcome (mounted.listDirectory path visit state) host = .ok (final, result) ∧
      ∀ count, result = .ok count → count < 2 ^ 31 := by
  have confined : Confined mounted.volume.toLayout AnyTransfer
      (mounted.listDirectory path visit state) _ :=
    listDirectory_confined (fun _ => trivial) path (fun _ => 0) (fun _ _ => Nat.zero_le 1) rfl
  have counted := (confined host).2
  cases opened : outcome (mounted.openDirectory path) host with
  | error failure =>
    exact ⟨state, .error failure, listDirectory_unopened opened visit state, by simp⟩
  | ok cursor =>
    obtain ⟨entries, ending, yields, _⟩ := Listing.exists_yields mounted.volume .named
      ⟨cursor, afterwards (mounted.openDirectory path) host⟩
    have listed := listDirectory_yields opened yields visit state
    exact ⟨_, _, listed, (counted _ listed).2⟩

/-- The interfaces through which a directory can be listed tell of the same entries. -/
structure Tells (mounted : Mounted) (path : List Char) (host : Host) (entries : List Entry) :
    Prop where
  /-- A caller who asks for entry after entry receives them, and is told ever after that there
  are no more. -/
  requests : ∀ count, outcome (do
      let cursor ← mounted.openDirectory path
      cursor.along (Cursor.requests (Listing.next mounted.volume .named) count)) host =
    .ok ((entries.take count).map (fun entry => .ok (some entry)) ++
      List.replicate (count - entries.length) (.ok none))
  /-- A visitor that stops at an entry has been handed it and the ones in front of it. -/
  stopped : ∀ {σ : Type} (visit : σ → Entry → ForInStep σ) (state middle final : σ)
    (earlier later : List Entry) (entry : Entry), entries = earlier ++ entry :: later →
      Listing.through visit state earlier = some middle → visit middle entry = .done final →
        outcome (mounted.listDirectory path visit state) host = .ok (final, .ok earlier.length)
  /-- A visitor that never stops has been handed all of them. -/
  whole : ∀ {σ : Type} (visit : σ → Entry → ForInStep σ) (state final : σ),
    Listing.through visit state entries = some final →
      outcome (mounted.listDirectory path visit state) host = .ok (final, .ok entries.length)
  /-- Records are filled with the first of them, and their number is told by both calls. -/
  records : ∀ (task : Task) (argument : Option (List Char)) (target : List Char)
    (records : Array ListingRecord), task.resolve (argument.getD []) = .ok target →
      Path.normalize target = Path.normalize path →
        ∃ filled count, Fills entries records filled count ∧
          outcome (mounted.listRecords task argument records) host = .ok (filled, .ok count) ∧
          outcome (mounted.systemList task argument records) host = .ok (filled, (count : Int))

/-- Paths with the same normal form are listed alike, whatever the visitor, since the
listing begins by normalizing its path. -/
theorem listDirectory_congr {target : List Char}
    (same : Path.normalize target = Path.normalize path) (visit : σ → Entry → ForInStep σ)
    (state : σ) :
    mounted.listDirectory target visit state = mounted.listDirectory path visit state := by
  simp only [listDirectory, openDirectory, lookup, same]

/-- The system call leaves the records that listing into them leaves, and gives its count,
or the code of its failure. -/
theorem systemList_outcome {task : Task} {argument : Option (List Char)}
    {records filled : Array ListingRecord} {result : Except Failure Nat}
    (listed : outcome (mounted.listRecords task argument records) host = .ok (filled, result)) :
    outcome (mounted.systemList task argument records) host =
      .ok (filled, match result with
        | .ok count => (count : Int)
        | .error failure => failure.code) := by
  rw [systemList, outcome_bind_ok listed]
  cases result <;> rfl

/-- Listing into records ends as listing the resolved path with a visitor that adds each
entry to a buffer of them. -/
theorem listRecords_outcome {task : Task} {argument : Option (List Char)} {target : List Char}
    {records : Array ListingRecord} {buffer : RecordBuffer} {result : Except Failure Nat}
    (resolved : task.resolve (argument.getD []) = .ok target)
    (listed : outcome (mounted.listDirectory target RecordBuffer.add { records }) host =
      .ok (buffer, result)) :
    outcome (mounted.listRecords task argument records) host = .ok (buffer.records, result) := by
  rw [listRecords, resolved]
  dsimp only
  rw [outcome_bind_ok listed]
  rfl

/-- A listing that comes to some entries and to no failure tells of them in every way:
entry by entry, to a visitor, in full and into records. -/
theorem tells_of_yields (opened : outcome (mounted.openDirectory path) host = .ok cursor)
    (yields : Listing.Yields mounted.volume .named
      ⟨cursor, afterwards (mounted.openDirectory path) host⟩ entries none) :
    mounted.Tells path host entries := by
  constructor
  case requests =>
    intro count
    obtain ⟨_, _, started, left⟩ := openDirectory_ok opened
    obtain ⟨ready, _⟩ := Cursor.start_ready host.medium started
    rw [outcome_bind_ok opened, Cursor.outcome_along, yields.requests rfl left ready, Course.told]
    cases count - entries.length <;> rfl
  case stopped =>
    intro σ visit state middle final earlier later entry divided goesOn stops
    have handed := Listing.handOver_through (Listing.through_counting goesOn 0) none
      (entry :: later)
    rw [Listing.handOver, counting, stops] at handed
    rw [listDirectory_yields opened yields, divided, handed, Nat.zero_add]
  case whole =>
    intro σ visit state final goesOn
    have handed := Listing.handOver_through (Listing.through_counting goesOn 0) none []
    rw [List.append_nil, Listing.handOver] at handed
    rw [listDirectory_yields opened yields, handed, Nat.zero_add]
  case records =>
    intro task argument target records resolved same
    obtain ⟨filled, count, handed, fills⟩ := RecordBuffer.handOver_add records entries none
    rw [ite_self] at handed
    have listed : outcome (mounted.listDirectory target RecordBuffer.add { records }) host =
        .ok (⟨filled, count⟩, .ok count) := by
      rw [listDirectory_congr same, listDirectory_yields opened yields, handed]
    have written := listRecords_outcome resolved listed
    exact ⟨filled, count, fills, written, systemList_outcome written⟩

/-- Where a complete listing of a path meets no failure, it has come to the live entries in
front of the first end marker, in the order of the slots and without those that refer to the
directory itself and its parent; every interface tells of these, and their number fits a signed
word. On every disk the system call tells a number that fits one, or a negative value. -/
theorem listings_agree (mounted : Mounted) (host : Host) :
    (∀ path collected, outcome (mounted.readDirectory path none) host = .ok ⟨collected, none⟩ →
      ∃ directory,
        (host.medium.lookup mounted.volume path >>= Resolved.directory) = .ok directory ∧
        collected.toList =
          (listed (host.medium.slots mounted.volume directory).items).filter (!·.isDot) ∧
        mounted.Tells path host collected.toList ∧ collected.size < 2 ^ 31) ∧
    ∀ task argument records, ∃ filled result,
      outcome (mounted.listRecords task argument records) host = .ok (filled, result) ∧
      ((∃ count : Nat, result = .ok count ∧ count < 2 ^ 31 ∧
          outcome (mounted.systemList task argument records) host = .ok (filled, (count : Int))) ∨
        ∃ failure value, result = .error failure ∧ value < 0 ∧
          outcome (mounted.systemList task argument records) host = .ok (filled, value)) := by
  constructor
  · intro path collected walked
    cases opened : outcome (mounted.openDirectory path) host with
    | error failure =>
      rw [readDirectory, outcome_bind_error opened] at walked
      cases walked
    | ok cursor =>
      obtain ⟨directory, led, started, left⟩ := openDirectory_ok opened
      obtain ⟨ready, ahead⟩ := Cursor.start_ready host.medium started
      obtain ⟨entries, ending, yields, bounded⟩ := Listing.exists_yields mounted.volume .named
        ⟨cursor, afterwards (mounted.openDirectory path) host⟩
      rw [readDirectory, outcome_bind_ok opened, Cursor.outcome_along, Listing.collect,
        if_neg (by simp), yields.deliver, Listing.handOver_collectEntry] at walked
      cases walked
      -- The listing has come to its end without a failure, so no entry ahead of the cursor was
      -- missed.
      obtain ⟨missed, shows, none⟩ := yields.shown_ahead left ready
      rw [ahead, none (by simp), List.append_nil] at shows
      have few := Cursor.start_slotsLeft_lt started
      refine ⟨directory, led, ?_, ?_, ?_⟩
      · rw [Array.empty_append, List.toList_toArray, ← Medium.entries_eq_listed]
        exact shows.symm
      · rw [Array.empty_append, List.toList_toArray]
        exact tells_of_yields opened yields
      · rw [Array.empty_append, List.size_toArray]
        exact Nat.lt_of_le_of_lt bounded few
  · intro task argument records
    -- A path that cannot be resolved is told as a failure before anything is listed.
    cases resolved : task.resolve (argument.getD []) with
    | error failure =>
      have refused : outcome (mounted.listRecords task argument records) host =
          .ok (records, .error failure) := by
        rw [listRecords, resolved]
        rfl
      exact ⟨records, .error failure, refused, .inr ⟨failure, _, rfl, failure.code_neg,
        systemList_outcome refused⟩⟩
    | ok target =>
      obtain ⟨buffer, result, ended, few⟩ :=
        mounted.listDirectory_ends target RecordBuffer.add { records } host
      have written := listRecords_outcome resolved ended
      refine ⟨buffer.records, result, written, ?_⟩
      have told := systemList_outcome written
      cases result with
      | ok count => exact .inl ⟨count, rfl, few count rfl, told⟩
      | error failure => exact .inr ⟨failure, _, rfl, failure.code_neg, told⟩

/-- On a root with a label, an entry for itself and three files, the three files are
listed and the others are not, in whichever way. -/
theorem listings_agree_small :
    let mounted : Mounted := ⟨0, .small, ⟨0, 20, 4⟩⟩
    let entries := [lone 0x62 0 1, lone 0x42 0 2, lone 0xC4 0 3]
    outcome (mounted.readDirectory ['/'] none) namesakesHost = .ok ⟨entries.toArray, none⟩ ∧
      (listed (namesakesHost.medium.slots mounted.volume .root).items).filter (!·.isDot) = entries ∧
      mounted.Tells ['/'] namesakesHost entries := by
  intro mounted entries
  have collected : (outcome (mounted.readDirectory ['/'] none) namesakesHost >>= fun delivery =>
      .ok (delivery.state, delivery.failure)) = .ok (entries.toArray, none) := by decide +kernel
  have root : (namesakesHost.medium.lookup mounted.volume ['/'] >>= Resolved.directory) =
      .ok .root := by decide +kernel
  obtain ⟨⟨state, failure⟩, walked, same⟩ := ok_of_bind collected
  obtain ⟨rfl, rfl⟩ := Prod.mk.inj (Except.ok.inj same)
  obtain ⟨directory, led, shown, tells, _⟩ := (listings_agree mounted namesakesHost).1 _ _ walked
  rw [root] at led
  cases led
  exact ⟨walked, shown.symm, tells⟩

end Mounted

end FatVolume
