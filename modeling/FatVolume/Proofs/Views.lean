import FatVolume.Proofs.Agreement
import FatVolume.Proofs.Confinement.Requests
import FatVolume.Proofs.Service

/-!
# What a volume shows

Each request that reads has one answer on a medium, which every host gives that serves the
volume: a look-up, the bytes of a file or of a window of it, and the entries of a
directory. The answers are built from the entries and contents of the medium, so media
that agree on those cannot be told apart by any request.
-/

namespace FatVolume

/-- What a visitor of some entries comes to, when the entries end so. -/
def Listing.handOver {σ : Type} (visit : σ → Entry → ForInStep σ) (ending : Option Failure) :
    σ → List Entry → Delivery σ
  | state, [] => ⟨state, ending⟩
  | state, entry :: rest =>
    match visit state entry with
    | .done final => ⟨final, none⟩
    | .yield following => handOver visit ending following rest

namespace Medium

variable (medium : Medium) (volume : Volume)

/-- The entries that a full listing of a directory shows, and the failure that ends it. -/
def listing (directory : Directory) : Delivery (Array Entry) :=
  ⟨(((medium.entries volume directory).items.map Prod.snd).filter Shown.named.wanted).toArray,
    (medium.entries volume directory).ending⟩

/-- What a path names, as its caller writes it. -/
def lookup (path : List Char) : Except Failure Resolved := do
  medium.resolve volume (← Path.normalize path)

/-- The kind and size of what a path names. -/
def status (path : List Char) : Except Failure Status := do
  let resolved ← medium.lookup volume path
  return ⟨resolved.kind, resolved.size⟩

/-- What a path names, unless it is a directory. -/
def lookupFile (path : List Char) : Except Failure Resolved := do
  let resolved ← medium.lookup volume path
  if resolved.isDirectory then throw .isDirectory else return resolved

/-- The bytes of a whole file, for a heap that grants blocks up to some size. -/
def readWhole (largestBlock : Nat) (path : List Char) : Except Failure (Array UInt8) := do
  let resolved ← medium.lookupFile volume path
  if resolved.size = 0 then return #[]
  else if largestBlock < resolved.size then throw .outOfMemory
  else medium.content volume resolved.cluster 0 resolved.size

/-- A buffer filled with the bytes of a file from an offset on. -/
def readWindow (path : List Char) (offset : Nat) (buffer : Array UInt8) :
    Except Failure (Nat × Array UInt8) :=
  if buffer.size = 0 then return (0, buffer)
  else do
    let resolved ← medium.lookupFile volume path
    if resolved.size ≤ offset then throw .endOfFile
    else do
      let filled := min buffer.size (resolved.size - offset)
      let bytes ← medium.content volume resolved.cluster offset filled
      return (filled, Mounted.overwrite buffer bytes)

/-- All entries of a directory that a path names. -/
def readDirectory (path : List Char) : Except Failure (Delivery (Array Entry)) := do
  let directory ← (← medium.lookup volume path).directory
  let _ ← Cursor.start volume directory
  return medium.listing volume directory

end Medium

/-- A recorded size fits the field of 32 bits that holds it, also where the path names the
root, which has the size 0. -/
theorem Medium.lookup_size_lt {medium : Medium} {volume : Volume} {path : List Char}
    {resolved : Resolved} (found : medium.lookup volume path = .ok resolved) :
    resolved.size < 2 ^ 32 := by
  have descended (components : List (List Char)) (current : Resolved)
      (sized : current.size < 2 ^ 32)
      (ended : components.foldlM (medium.descend volume) current = .ok resolved) :
      resolved.size < 2 ^ 32 := by
    -- What a component leads to is an entry, whatever stood in front of it.
    induction components generalizing current with
    | nil =>
      cases ended
      exact sized
    | cons component rest inductionHypothesis =>
      rw [List.foldlM_cons] at ended
      obtain ⟨next, reached, ended⟩ := ok_of_bind ended
      refine inductionHypothesis next ?_ ended
      obtain ⟨directory, _, reached⟩ := ok_of_bind reached
      obtain ⟨name, _, reached⟩ := ok_of_bind reached
      obtain ⟨entry, _, reached⟩ := ok_of_bind reached
      cases reached
      exact UInt32.toNat_lt entry.size
  obtain ⟨normal, _, found⟩ := ok_of_bind found
  exact descended _ _ (by decide) found

/-- The size of a file that was looked up fits 32 bits, as that of anything does. -/
theorem Medium.lookupFile_size_lt {medium : Medium} {volume : Volume} {path : List Char}
    {resolved : Resolved} (found : medium.lookupFile volume path = .ok resolved) :
    resolved.size < 2 ^ 32 := by
  obtain ⟨named, looked, tested⟩ := ok_of_bind found
  split at tested
  · cases tested
  · cases tested
    exact lookup_size_lt looked

/-! ## Listings -/

namespace Cursor.Finds

variable {medium : Medium} {volume : Volume} {wanted : Entry → Bool}
  {course : Course (SlotPosition × Entry)}

/-- What is found is the first of the wanted entries, and the others are still ahead of
the cursor. Fewer entries are ahead than were before. -/
theorem of_some {entry : Entry} {moved : Cursor}
    (finds : Finds medium volume wanted course (.ok (some entry, moved))) :
    moved.Ready medium volume ∧ ∃ rest : List (SlotPosition × Entry),
      (moved.ahead medium volume).entries = ⟨rest, course.ending⟩ ∧
      rest.length < course.items.length ∧
      (course.items.map Prod.snd).filter wanted = entry :: (rest.map Prod.snd).filter wanted := by
  generalize same : Except.ok (some entry, moved) = result at finds
  induction finds with
  | found suits ready remains =>
    cases same
    refine ⟨ready, _, remains, Nat.lt_succ_self _, ?_⟩
    rw [List.map_cons, List.filter_cons_of_pos suits]
  | passed unwanted finds inductionHypothesis =>
    obtain ⟨ready, rest, remains, fewer, behind⟩ := inductionHypothesis same
    refine ⟨ready, rest, remains, Nat.lt_succ_of_lt fewer, ?_⟩
    rw [List.map_cons, List.filter_cons_of_neg (by rw [unwanted]; exact Bool.false_ne_true)]
    exact behind
  | ended ready done => cases same
  | failed => cases same

/-- Where nothing is found, no entry is wanted, and the entries end as the search does:
without a failure, or in the failure of the search. -/
theorem of_unfound {result : Except Failure (Option Entry × Cursor)}
    (finds : Finds medium volume wanted course result)
    (unfound : ∀ entry moved, result ≠ .ok (some entry, moved)) :
    (course.items.map Prod.snd).filter wanted = [] ∧
      (∀ moved, result = .ok (none, moved) → course.ending = none) ∧
      ∀ failure, result = .error failure → course.ending = some failure := by
  induction finds with
  | found suits ready remains => exact absurd rfl (unfound _ _)
  | passed unwanted finds inductionHypothesis =>
    obtain ⟨nothing, ends⟩ := inductionHypothesis unfound
    rw [List.map_cons, List.filter_cons_of_neg (by rw [unwanted]; exact Bool.false_ne_true)]
    exact ⟨nothing, ends⟩
  | ended ready done => simp
  | failed => simp

/-- A search that ends without an entry and without a failure has come to the end of
entries none of which is wanted. -/
theorem of_none {moved : Cursor} (finds : Finds medium volume wanted course (.ok (none, moved))) :
    (course.items.map Prod.snd).filter wanted = [] ∧ course.ending = none := by
  obtain ⟨nothing, ends, _⟩ := finds.of_unfound (by simp)
  exact ⟨nothing, ends moved rfl⟩

/-- A failure stands behind all the wanted entries: a search that fails has found out that
there are no more of them in front of the break. -/
theorem of_error {failure : Failure} (finds : Finds medium volume wanted course (.error failure)) :
    (course.items.map Prod.snd).filter wanted = [] ∧ course.ending = some failure := by
  obtain ⟨nothing, _, fails⟩ := finds.of_unfound (by simp)
  exact ⟨nothing, fails failure rfl⟩

end Cursor.Finds

namespace Listing

variable {volume : Volume} {medium : Medium} {σ : Type}

/-- A listing asks for one entry, hands it over, and goes on as the visitor says. The
equation unfolds one round of it. -/
theorem along_deliver (cursor : Cursor) (shown : Shown) (visit : σ → Entry → ForInStep σ)
    (state : σ) :
    cursor.along (deliver volume shown visit state) =
      observe (cursor.alongside (Cursor.nextEntry volume shown.wanted)) >>= fun
        | .error failure => pure ⟨state, some failure⟩
        | .ok (none, _) => pure ⟨state, none⟩
        | .ok (some entry, moved) =>
          match visit state entry with
          | .done final => pure ⟨final, none⟩
          | .yield following => moved.along (deliver volume shown visit following) := by
  funext host
  change _ = EStateM.bind _ _ host
  unfold Cursor.along EStateM.bind observe Cursor.alongside
  rw [deliver]
  simp only [next]
  cases Cursor.nextEntry volume shown.wanted ⟨cursor, host⟩ with
  | error failure rest => rfl
  | ok found rest =>
    cases found with
    | none => rfl
    | some entry =>
      dsimp only
      cases visit state entry <;> rfl

/-- A listing hands over the shown entries that its cursor has ahead, in order, and ends
as they end or as the visitor wants. -/
theorem deliver_answers {cursor : Cursor} (shown : Shown) (visit : σ → Entry → ForInStep σ)
    (state : σ) (ready : cursor.Ready medium volume) (sound : cursor.Sound volume.toLayout) :
    Answers volume (cursor.along (deliver volume shown visit state)) medium
      (.ok (handOver visit (cursor.ahead medium volume).entries.ending state
        (((cursor.ahead medium volume).entries.items.map Prod.snd).filter shown.wanted))) := by
  -- By the number of entries that the cursor has ahead, of which each answer leaves fewer.
  generalize size : (cursor.ahead medium volume).entries.items.length = count
  induction count using Nat.strongRecOn generalizing cursor state with
  | ind count inductionHypothesis =>
    have guided : Guided volume.toLayout AnyTransfer
        (Cursor.nextEntry volume shown.wanted) (Cursor.Sound volume.toLayout)
        fun _ moved => moved.Sound volume.toLayout :=
      Cursor.nextEntry_guided (fun _ _ => trivial) shown.wanted
    have confined := guided.alongside sound
    obtain ⟨result, reads, finds⟩ := Cursor.nextEntry_finds shown.wanted ready
    rw [along_deliver]
    apply (reads.answers confined).observe.bindKnowing confined.observe
    intro known
    match result with
    | .error failure =>
      obtain ⟨nothing, ends⟩ := finds.of_error
      rw [nothing, ends]
      exact .pure _
    | .ok (none, moved) =>
      obtain ⟨nothing, ends⟩ := finds.of_none
      rw [nothing, ends]
      exact .pure _
    | .ok (some entry, moved) =>
      obtain ⟨stillReady, rest, remains, fewer, behind⟩ := finds.of_some
      have stillSound : moved.Sound volume.toLayout := known _ rfl
      have further (following : σ) := inductionHypothesis rest.length (size ▸ fewer) following
        stillReady stillSound (by rw [remains])
      rw [remains] at further
      rw [behind, handOver]
      dsimp only
      cases visit state entry with
      | done final => exact .pure _
      | yield following => exact further following

/-- Without a limit all entries are collected behind those that were there already, and
the failure that ends them is told. -/
theorem handOver_collectEntry (ending : Option Failure) (entries : List Entry)
    (collected : Array Entry) :
    handOver (collectEntry none) ending collected entries =
      ⟨collected ++ entries.toArray, ending⟩ := by
  induction entries generalizing collected with
  | nil => rw [handOver, Array.append_empty]
  | cons entry rest inductionHypothesis =>
    rw [handOver, collectEntry, if_neg (by simp)]
    dsimp only
    rw [inductionHypothesis]
    simp

end Listing

/-! ## Requests -/

/-- Looking up a path is answered by the medium alone on every host that serves the
volume. -/
theorem Volume.resolve_answers (medium : Medium) (volume : Volume) (path : List Char) :
    Answers volume (volume.resolve path) medium (medium.resolve volume path) :=
  (Volume.resolve_reads path).answers (Volume.resolve_confined (fun _ => trivial) path)

namespace Mounted

variable {mounted : Mounted} {medium : Medium}

/-- A look-up is to end as the path is looked up on the medium, once it is brought into
normal form. -/
theorem lookup_reads (path : List Char) :
    Reads (mounted.lookup path) medium (medium.lookup mounted.volume path) :=
  (Performs.lift _).andThen fun normal _ => Volume.resolve_reads normal

/-- A look-up is answered by the medium alone, on every host that serves the volume. -/
theorem lookup_answers (path : List Char) :
    Answers mounted.volume (mounted.lookup path) medium (medium.lookup mounted.volume path) :=
  (lookup_reads path).answers (lookup_confined (fun _ => trivial) path)

/-- The kind and the size of what a path names are answered by the medium alone. -/
theorem status_answers (path : List Char) :
    Answers mounted.volume (mounted.status path) medium (medium.status mounted.volume path) :=
  (lookup_answers path).andThen fun _ _ => .pure _

/-- A look-up that is to name a file is answered by the medium alone, and so is its
refusal of directories. -/
theorem lookupFile_answers (path : List Char) :
    Answers mounted.volume (mounted.lookupFile path) medium
      (medium.lookupFile mounted.volume path) := by
  apply (lookup_answers path).andThen
  intro resolved _
  dsimp only
  by_cases directory : resolved.isDirectory = true
  · rw [if_pos directory, if_pos directory]
    exact .throw _
  · rw [if_neg directory, if_neg directory]
    exact .pure _

/-- A number whose operands are in range is worked out as it is without bounds, and the
medium is left as it is. -/
theorem workOut_answers (computation : Computation)
    (proper : computation.Proper mounted.volume.toLayout) :
    Answers mounted.volume (mounted.volume.workOut computation) medium
      (.ok (computation.value mounted.volume.toLayout)) :=
  (Volume.workOut_reads computation).answers (Volume.workOut_confined computation proper)

/-- The bytes of a chain are answered by the medium alone, and so is the way in which
reading them fails. -/
theorem content_answers (first offset : Nat) {length : Nat} (sized : length < 2 ^ 32) :
    Answers mounted.volume (mounted.volume.readContent first offset length) medium
      (medium.content mounted.volume first offset length) :=
  (Volume.readContent_reads first offset length).answers
    (Volume.readContent_confined (fun _ => trivial) first offset sized)

/-- Reading a whole file is answered by the heap and by the medium together; it leaves the
medium and the device as they are. -/
theorem readWhole_answers (path : List Char) {host : Host} (holds : host.medium = medium)
    (serves : host.Serves mounted.volume) :
    outcome (mounted.readWhole path) host =
        medium.readWhole mounted.volume host.largestBlock path ∧
      (afterwards (mounted.readWhole path) host).medium = medium ∧
      host.SameDevice (afterwards (mounted.readWhole path) host) := by
  obtain ⟨ended, left, device⟩ := lookupFile_answers path host holds serves
  simp only [readWhole, Medium.readWhole]
  cases found : medium.lookupFile mounted.volume path with
  | error failure =>
    rw [found] at ended
    rw [outcome_bind_error ended, afterwards_bind_error ended]
    exact ⟨rfl, left, device⟩
  | ok resolved =>
    rw [found] at ended
    rw [outcome_bind_ok ended, afterwards_bind_ok ended]
    dsimp only [bind, Except.bind]
    by_cases empty : resolved.size = 0
    · rw [if_pos empty, if_pos empty]
      exact ⟨rfl, left, device⟩
    · rw [if_neg empty, if_neg empty]
      have granted := device.largestBlock
      obtain ⟨answered, still, kept⟩ := content_answers resolved.cluster 0
        (Medium.lookupFile_size_lt found) (afterwards (mounted.lookupFile path) host) left
        (serves.of_sameDevice device)
      generalize afterwards (mounted.lookupFile path) host = between at *
      change outcome (get >>= _) between = _ ∧ (afterwards (get >>= _) between).medium = _ ∧
        host.SameDevice (afterwards (get >>= _) between)
      rw [outcome_bind_ok (outcome_get between), afterwards_bind_ok (outcome_get between),
        afterwards_get, granted]
      by_cases refused : host.largestBlock < resolved.size
      · rw [if_pos refused, if_pos refused]
        exact ⟨rfl, left, device⟩
      · rw [if_neg refused, if_neg refused]
        exact ⟨answered, still, device.trans kept⟩

/-- Reading a window of a file into a buffer is answered by the medium alone, the new
content of the buffer included. -/
theorem readWindow_answers (path : List Char) (offset : Nat) (buffer : Array UInt8) :
    Answers mounted.volume (mounted.readWindow path offset buffer) medium
      (medium.readWindow mounted.volume path offset buffer) := by
  unfold readWindow Medium.readWindow
  by_cases none : buffer.size = 0
  · rw [if_pos none, if_pos none]
    exact .pure _
  · rw [if_neg none, if_neg none]
    apply (lookupFile_answers path).andThen
    intro resolved found
    dsimp only
    by_cases behind : resolved.size ≤ offset
    · rw [if_pos behind, if_pos behind]
      exact .throw _
    · rw [if_neg behind, if_neg behind]
      have sized := Medium.lookupFile_size_lt found
      have filled : min buffer.size (resolved.size - offset) < 2 ^ 32 := by omega
      apply (workOut_answers (.bytesBehind resolved.size offset)
        (Nat.lt_of_not_le behind)).bind
      apply (workOut_answers
        (.firstBytes (min buffer.size (resolved.size - offset)) buffer.size)
        ⟨filled, Nat.min_le_left _ _⟩).bind
      exact (content_answers resolved.cluster offset filled).andThen fun _ _ => .pure _

/-- A full listing shows all entries that the medium has for the directory, and the
failure behind them if they break off. -/
theorem readDirectory_answers (path : List Char) :
    Answers mounted.volume (mounted.readDirectory path none) medium
      (medium.readDirectory mounted.volume path) := by
  simp only [readDirectory, openDirectory]
  rw [bind_assoc]
  apply (lookup_answers path).andThen
  intro resolved _
  rw [bind_assoc]
  have opened : Answers mounted.volume (liftM resolved.directory) medium resolved.directory :=
    (Performs.lift _).answers (.lift fun _ _ => trivial)
  apply opened.andThen
  intro directory _
  have begun : Answers mounted.volume (liftM (Cursor.start mounted.volume directory)) medium
      (Cursor.start mounted.volume directory) :=
    (Performs.lift _).answers (.lift fun _ _ => trivial)
  apply begun.andThen
  intro cursor started
  obtain ⟨ready, ahead⟩ := Cursor.start_ready medium started
  have delivered := Listing.deliver_answers .named (Listing.collectEntry none) #[] ready
    (Cursor.start_sound started fun _ => trivial)
  rw [Listing.handOver_collectEntry, Array.empty_append, ahead] at delivered
  exact delivered

end Mounted

end FatVolume
