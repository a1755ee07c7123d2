import FatVolume.Directory.Lookup
import FatVolume.Proofs.Slots

/-!
# Entries, names and paths on a medium

The entries of a directory are the live ones among its slots, up to the first end marker.
A name is looked up as the first of them that carries it, and a path as one name after the
other. These are functions of the medium, and the operations that search a disk read
exactly them.

A directory whose slots break off before an end marker has the failure at the end of its
entries, so a name that is found in front of the break is found all the same.
-/

namespace FatVolume

/-- The live entries among some slots, up to the first end marker. Where there is none,
they end as the slots do. -/
def liveEntries (ending : Option Failure) :
    List (SlotPosition × Slot) → Course (SlotPosition × Entry)
  | [] => ⟨[], ending⟩
  | (_, .endMarker) :: _ => ⟨[], none⟩
  | (position, .live entry) :: rest => (liveEntries ending rest).behind [(position, entry)]
  | (_, .erased) :: rest => liveEntries ending rest
  | (_, .longName) :: rest => liveEntries ending rest
  | (_, .volumeLabel) :: rest => liveEntries ending rest

/-- The entry that a slot holds, if it holds one. -/
def Slot.asEntry : Slot → Option Entry
  | .live entry => some entry
  | _ => none

/-- The live entries of a course over slots, with their positions. -/
def Course.entries (course : Course (SlotPosition × Slot)) : Course (SlotPosition × Entry) :=
  liveEntries course.ending course.items

/-- The first of some entries that is wanted; none where the entries end before. -/
def Course.firstWanted (course : Course (SlotPosition × Entry)) (wanted : Entry → Bool) :
    Except Failure (Option Entry) :=
  match course.items.find? fun item => wanted item.2 with
  | some item => .ok (some item.2)
  | none =>
    match course.ending with
    | some failure => .error failure
    | none => .ok none

namespace Medium

variable (medium : Medium) (volume : Volume)

/-- The live entries of a directory. -/
def entries (directory : Directory) : Course (SlotPosition × Entry) :=
  (medium.slots volume directory).entries

/-- The first live entry of a directory that carries a name. -/
def find (directory : Directory) (name : RawName) : Except Failure Entry := do
  match ← (medium.entries volume directory).firstWanted fun entry =>
      ShortName.sameFolded entry.name name with
  | some entry => return entry
  | none => throw .notFound

/-- What a component names, seen from what the components before it name. -/
def descend (current : Resolved) (component : List Char) : Except Failure Resolved := do
  let directory ← current.directory
  let name ← ShortName.encode component
  return .ofEntry (← medium.find volume directory name)

/-- What a path names, seen from the root. -/
def resolve (path : List Char) : Except Failure Resolved :=
  (Path.components path).foldlM (medium.descend volume) .root

end Medium

namespace Cursor

variable {medium : Medium} {volume : Volume} {cursor : Cursor} {wanted : Entry → Bool}

/-- How a search among entries ends: at the first wanted one, those behind it staying
ahead, or as the entries do. -/
inductive Finds (medium : Medium) (volume : Volume) (wanted : Entry → Bool) :
    Course (SlotPosition × Entry) → Except Failure (Option Entry × Cursor) → Prop
  | found {item : SlotPosition × Entry} {items : List (SlotPosition × Entry)}
      {ending : Option Failure} {moved : Cursor} (suits : wanted item.2 = true)
      (ready : moved.Ready medium volume)
      (remains : (moved.ahead medium volume).entries = ⟨items, ending⟩) :
      Finds medium volume wanted ⟨item :: items, ending⟩ (.ok (some item.2, moved))
  | passed {item : SlotPosition × Entry} {items : List (SlotPosition × Entry)}
      {ending : Option Failure} {result : Except Failure (Option Entry × Cursor)}
      (unwanted : wanted item.2 = false)
      (finds : Finds medium volume wanted ⟨items, ending⟩ result) :
      Finds medium volume wanted ⟨item :: items, ending⟩ result
  | ended {moved : Cursor} (ready : moved.Ready medium volume) (done : moved.done = true) :
      Finds medium volume wanted ⟨[], none⟩ (.ok (none, moved))
  | failed {failure : Failure} : Finds medium volume wanted ⟨[], some failure⟩ (.error failure)

/-- What a sweep for an entry amounts to: the end marker finishes the cursor. -/
def settle :
    Except Failure (Option (Option Entry) × Cursor) → Except Failure (Option Entry × Cursor)
  | .ok (some (some entry), moved) => .ok (some entry, moved)
  | .ok (some none, moved) => .ok (none, { moved with done := true })
  | .ok (none, moved) => .ok (none, moved)
  | .error failure => .error failure

/-- A search for an entry ends as the sweep behind it does; an end marker and the end of
the slots both mean that there is none. -/
theorem nextEntry_settles {result : Except Failure (Option (Option Entry) × Cursor)}
    (reads : Reads (cursor.alongside (sweep volume (visitEntry wanted))) medium result) :
    Reads (cursor.alongside (nextEntry volume wanted)) medium (settle result) := by
  match result with
  | .ok (some (some entry), moved) => exact .walk reads (Performs.pure _)
  | .ok (some none, moved) => exact .walk reads (.walk (Performs.pure _) (Performs.pure _))
  | .ok (none, moved) => exact .walk reads (Performs.pure _)
  | .error failure => exact .walk_error reads

/-- A sweep over slots that stops at wanted entries and at end markers finds what a search
among the entries in front of the marker finds. -/
theorem Sweeps.finds {course : Course (SlotPosition × Slot)} {last : Option Nat}
    {result : Except Failure (Option (Option Entry) × Cursor)}
    (sweeps : Sweeps medium volume (visitEntry wanted) last course result) :
    Finds medium volume wanted course.entries (settle result) := by
  -- Along the sweep: the visitor stops at a wanted entry or at an end marker, and passes every
  -- other slot.
  induction sweeps with
  | @answered position slot items ending moved answer visited ready remains =>
    cases slot with
    | endMarker =>
      cases visited
      exact .ended ⟨ready.fresh, fun _ _ _ _ _ => .inl rfl⟩ rfl
    | live entry =>
      rw [visitEntry] at visited
      split at visited
      · next suits =>
        cases visited
        have further : (moved.ahead medium volume).entries = ⟨(liveEntries ending items).items,
            (liveEntries ending items).ending⟩ := by rw [remains]; rfl
        have finds : Finds medium volume wanted _ (.ok (some (position, entry).2, moved)) :=
          .found suits ready further
        exact finds
      · cases visited
    | erased => cases visited
    | longName => cases visited
    | volumeLabel => cases visited
  | @passed position slot items ending result visited sweeps inductionHypothesis =>
    cases slot with
    | endMarker => cases visited
    | live entry =>
      rw [visitEntry] at visited
      split at visited
      · cases visited
      · next unwanted => exact .passed (Bool.eq_false_iff.mpr unwanted) inductionHypothesis
    | erased => exact inductionHypothesis
    | longName => exact inductionHypothesis
    | volumeLabel => exact inductionHypothesis
  | ended ready done stands => exact .ended ready done
  | failed => exact .failed

/-- The next wanted entry is sought among the entries that a ready cursor has ahead, and
the cursor is left behind what was found. -/
theorem nextEntry_finds (wanted : Entry → Bool) (ready : cursor.Ready medium volume) :
    ∃ result, Reads (cursor.alongside (nextEntry volume wanted)) medium result ∧
      Finds medium volume wanted (cursor.ahead medium volume).entries result := by
  obtain ⟨ending, reads, sweeps⟩ := sweep_sweeps (visitEntry wanted) ready
  exact ⟨settle ending, nextEntry_settles reads, sweeps.finds⟩

/-- What a search ends in is the first wanted entry, or the failure that stands in place
of one. Where the cursor is left does not matter here. -/
theorem Finds.firstWanted {course : Course (SlotPosition × Entry)}
    {result : Except Failure (Option Entry × Cursor)}
    (finds : Finds medium volume wanted course result) :
    result.map Prod.fst = course.firstWanted wanted := by
  induction finds with
  | found suits ready remains =>
    rw [Course.firstWanted]
    dsimp only
    rw [List.find?_cons, suits]
    rfl
  | passed unwanted finds inductionHypothesis =>
    rw [inductionHypothesis, Course.firstWanted, Course.firstWanted]
    dsimp only
    rw [List.find?_cons, unwanted]
  | ended ready done => rfl
  | failed => rfl

end Cursor

/-! ## Reading names and paths -/

namespace Volume

variable {medium : Medium} {volume : Volume}

/-- Searching a directory for a name is to end in the first of its live entries that
carries the name, or in the failure that the medium determines. -/
theorem findEntry_reads (directory : Directory) (name : RawName) :
    Reads (volume.findEntry directory name) medium (medium.find volume directory name) := by
  simp only [findEntry, Medium.find]
  cases started : Cursor.start volume directory with
  | error failure =>
    have broken : medium.entries volume directory = ⟨[], some failure⟩ := by
      rw [Medium.entries, Cursor.slots_of_start_error medium started]
      rfl
    rw [broken]
    exact Performs.bind_error (.throw failure)
  | ok cursor =>
    obtain ⟨ready, course⟩ := Cursor.start_ready medium started
    apply (Performs.lift (.ok cursor)).bind
    obtain ⟨result, reads, finds⟩ :=
      Cursor.nextEntry_finds (fun entry => ShortName.sameFolded entry.name name) ready
    have searched := Cursor.along_reads reads
    rw [finds.firstWanted, course] at searched
    apply searched.andThen
    intro found _
    cases found with
    | some entry => exact .pure entry
    | none => exact .throw _

/-- Going down by one component is to end as the component is looked up on the medium,
failures of spelling included. -/
theorem descend_reads (current : Resolved) (component : List Char) :
    Reads (volume.descend current component) medium (medium.descend volume current component) :=
  (Performs.lift _).andThen fun directory _ => (Performs.lift _).andThen fun name _ =>
    (findEntry_reads directory name).andThen fun _ _ => .pure _

/-- Looking up a path is to end as the path is looked up on the medium, component by
component. -/
theorem resolve_reads (path : List Char) :
    Reads (volume.resolve path) medium (medium.resolve volume path) := by
  simp only [resolve, Medium.resolve]
  generalize Path.components path = components
  generalize Resolved.root = current
  induction components generalizing current with
  | nil => exact .pure current
  | cons component rest inductionHypothesis =>
    rw [List.foldlM_cons, List.foldlM_cons]
    exact (descend_reads current component).andThen fun next _ => inductionHypothesis next

end Volume

end FatVolume
