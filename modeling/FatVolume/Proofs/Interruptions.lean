import FatVolume.Proofs.Entries
import FatVolume.Proofs.Service
import FatVolume.Proofs.Confinement.Cursors

/-!
# Cursors after a failure

A request to a cursor that fails leaves the cursor somewhere. Where a sector of the
directory was refused, the slots ahead of it are those that were. Where a table copy was
refused, or told that the chain is broken, the cursor stands behind the last sector of its
cluster, and the next request looks for a slot in whatever sector follows there.

A search for entries that is interrupted has passed slots without one, so the entries ahead
are those that were if the last request for a slot has left the slots ahead.
-/

namespace FatVolume

variable {α β : Type}

/-! ## Failures and what they were met at -/

/-- From every host with sectors of the right size, an operation that fails ends in a
failure of its own, or has met a refusal of a kind last. -/
def FailsAt (refusal : Event → Prop) (own : Failure → Prop) (operation : HostM α) : Prop :=
  ∀ host : Host, host.disk.sectorSize = 512 →
    (afterwards operation host).disk.sectorSize = 512 ∧
    ∀ failure, outcome operation host = .error failure →
      own failure ∨ ∃ event earlier, (afterwards operation host).trace = event :: earlier ∧
        refusal event

namespace FailsAt

variable {refusal : Event → Prop} {own : Failure → Prop}

/-- An operation that gives a value at once does not fail, whatever is counted as a
failure of its own. -/
theorem pure (value : α) : FailsAt refusal own (pure value) :=
  fun _ sized => ⟨sized, fun _ impossible => by cases impossible⟩

/-- An operation that fails at once with a failure of its own meets no refusal. -/
theorem throw {failure : Failure} (owned : own failure) :
    FailsAt refusal own (throw failure : HostM α) :=
  fun _ sized => ⟨sized, fun _ ended => by cases ended; exact .inl owned⟩

/-- A sequence fails with a failure of its own or at a refusal if its first operation does
and so does every one that may follow. -/
theorem bind {first : HostM α} {next : α → HostM β} (fails : FailsAt refusal own first)
    (further : ∀ value, FailsAt refusal own (next value)) :
    FailsAt refusal own (first >>= next) := by
  intro host sized
  obtain ⟨still, known⟩ := fails host sized
  cases ended : outcome first host with
  | ok value =>
    rw [afterwards_bind_ok ended, outcome_bind_ok ended]
    exact further value _ still
  | error failure =>
    rw [afterwards_bind_error ended, outcome_bind_error ended]
    refine ⟨still, fun cause same => ?_⟩
    cases same
    exact known failure ended

/-- A computation never fails, and asks the disk for nothing. -/
theorem compute (computation : Computation) : FailsAt refusal own (compute computation) :=
  fun _ sized => ⟨sized, fun _ impossible => by cases impossible⟩

/-- A notice never fails, and asks the disk for nothing. -/
theorem report (notice : Notice) : FailsAt refusal own (report notice) :=
  fun _ sized => ⟨sized, fun _ impossible => by cases impossible⟩

/-- The read of a sector of the right size fails only where it was refused, and the
refusal is the last event then. -/
theorem readSector {lba : Nat}
    (refused : ∀ cause, refusal (.transfer (.read lba) (some cause))) :
    FailsAt refusal own (readSector lba) := by
  have attempted : FailsAt refusal own (attempt (.read lba)) := by
    intro host sized
    cases answered : host.disk.refusal (.read lba) with
    | some cause =>
      obtain ⟨failed, left⟩ := ran_error_iff.mp (attempt_of_refusal sized answered)
      rw [failed, left]
      exact ⟨sized, fun _ _ => .inr ⟨_, _, rfl, refused cause⟩⟩
    | none =>
      obtain ⟨succeeded, left⟩ := ran_ok_iff.mp (attempt_of_service sized answered)
      rw [succeeded, left]
      exact ⟨sized, fun _ impossible => by cases impossible⟩
  have seen : FailsAt refusal own (get : HostM Host) :=
    fun _ sized => ⟨sized, fun _ impossible => by cases impossible⟩
  exact attempted.bind fun _ => seen.bind fun _ => .pure _

end FailsAt

/-- The event is a refused transfer of a sector of a table copy. -/
def Event.RefusesLink (layout : Layout) (event : Event) : Prop :=
  ∃ attempt cause, event = .transfer attempt (some cause) ∧ layout.tableStart ≤ attempt.lba ∧
    attempt.lba < layout.rootStart

instance (layout : Layout) : DecidablePred (Event.RefusesLink layout)
  | .transfer attempt (some cause) =>
    decidable_of_iff (layout.tableStart ≤ attempt.lba ∧ attempt.lba < layout.rootStart)
      ⟨fun inside => ⟨attempt, cause, rfl, inside⟩, by rintro ⟨_, _, ⟨⟩, inside⟩; exact inside⟩
  | .transfer _ none | .notice _ => .isFalse (by rintro ⟨_, _, ⟨⟩, _⟩)

/-- Where nothing is refused to a run, no access to the table copies is refused to it
either. -/
theorem Host.Undisturbed.sparesLinks {before after : Host} (undisturbed : before.Undisturbed after)
    (layout : Layout) : before.Spared (Event.RefusesLink layout) after :=
  Host.Spared.mono undisturbed fun _ ⟨attempt, cause, same, _⟩ => ⟨attempt, cause, same⟩

namespace Volume

variable {volume : Volume} {cluster : Nat}

/-- The sector of a link in a table copy is computed before anything else is done with it. -/
theorem linkAddress_bind (copy : Nat) (next : Nat → HostM β) :
    volume.linkAddress copy cluster >>= next =
      compute (.linkSector copy cluster) >>= fun _ => next (volume.linkSector copy cluster) := rfl

/-- A link of a data cluster that is not told was sought in a table copy, the read of
which was refused. -/
theorem link_failsAt (own : Failure → Prop) (data : volume.DataCluster cluster) :
    FailsAt (Event.RefusesLink volume.toLayout) own (volume.link cluster) := by
  have refused (copy : Nat) (stored : copy < volume.tableCopies) (cause : DiskError) :
      Event.RefusesLink volume.toLayout
        (.transfer (.read (volume.linkSector copy cluster)) (some cause)) := by
    have above := (Layout.linkSector_in_copy copy data).1
    have below := Layout.linkSector_lt_rootStart data stored
    exact ⟨_, cause, rfl, Nat.le_trans (Nat.le_add_right _ _) above, below⟩
  rw [link, linkAddress_bind]
  refine (FailsAt.compute _).bind fun _ => ?_
  refine (FailsAt.readSector (refused 0 volume.usable.tableCopies_pos)).bind fun sector => ?_
  dsimp only
  split
  · exact .pure _
  · next undecided =>
    have copied : 1 < volume.tableCopies := by
      simp only [not_or, Nat.not_lt] at undecided
      omega
    rw [linkAddress_bind]
    refine (FailsAt.compute _).bind fun _ => ?_
    refine (FailsAt.readSector (refused 1 copied)).bind fun second => ?_
    split
    · exact (FailsAt.report _).bind fun _ => .pure _
    · exact .pure _

/-- A link of a data cluster that cannot be followed was sought in a table copy whose read
was refused, or else it breaks the chain. -/
theorem follow_failsAt (data : volume.DataCluster cluster) :
    FailsAt (Event.RefusesLink volume.toLayout) (· = .brokenChain) (volume.follow cluster) := by
  refine (link_failsAt _ data).bind fun value => ?_
  split
  · exact .pure _
  · exact .pure _
  · exact .throw rfl
  · exact .throw rfl

end Volume

/-! ## Requests for a slot -/

/-- A sequence of two operations fails where the first one does, or where the second does
in the state that the first has left. -/
theorem error_of_bind {ε σ : Type} {first : EStateM ε σ α} {next : α → EStateM ε σ β}
    {before after : σ} {failure : ε} (failed : (first >>= next) before = .error failure after) :
    first before = .error failure after ∨
      ∃ middle between, first before = .ok middle between ∧
        next middle between = .error failure after := by
  change EStateM.bind first next before = _ at failed
  unfold EStateM.bind at failed
  split at failed
  · next middle between ran => exact .inr ⟨middle, between, ran, failed⟩
  · next cause between ran =>
    cases failed
    exact .inl ran

/-- An operation on the host that fails within a walk fails on the host itself, and leaves
the cursor as it is. -/
theorem error_of_lift {operation : HostM α} {walk rest : Walk} {failure : Failure}
    (failed : (liftM operation : WalkM α) walk = .error failure rest) :
    operation walk.host = .error failure rest.host ∧ rest.cursor = walk.cursor := by
  obtain ⟨ended, left⟩ := ran_error_iff.mp failed
  rw [outcome_liftWalk] at ended
  rw [afterwards_liftWalk] at left
  rw [← left]
  exact ⟨ran_error_iff.mpr ⟨ended, rfl⟩, rfl⟩

/-- An operation on the host that succeeds within a walk succeeds on the host itself, and
leaves the cursor as it is. -/
theorem ok_of_lift {operation : HostM α} {walk rest : Walk} {value : α}
    (succeeded : (liftM operation : WalkM α) walk = .ok value rest) :
    operation walk.host = .ok value rest.host ∧ rest.cursor = walk.cursor := by
  obtain ⟨ended, left⟩ := ran_ok_iff.mp succeeded
  rw [outcome_liftWalk] at ended
  rw [afterwards_liftWalk] at left
  rw [← left]
  exact ⟨ran_ok_iff.mpr ⟨ended, rfl⟩, rfl⟩

namespace Cursor

variable {medium : Medium} {volume : Volume} {cursor : Cursor} {walk rest : Walk}
  {failure : Failure}

/-- Where a failing request for a slot leaves a cursor. -/
inductive Halted (medium : Medium) (volume : Volume) (cursor : Cursor) (failure : Failure)
    (rest : Walk) : Prop
  | stayed (same : rest.cursor = cursor)
  | nextSector {cluster sector taken hops : Nat}
      (stood : cursor.place = .chain cluster sector taken hops)
      (used : ¬ taken < 16) (within : sector + 1 < volume.sectorsPerCluster)
      (moved : rest.cursor =
        { cursor with place := .chain cluster (sector + 1) 0 hops, held := none })
  | nextCluster {cluster sector taken hops successor : Nat}
      (stood : cursor.place = .chain cluster sector taken hops) (used : ¬ taken < 16)
      (last : ¬ sector + 1 < volume.sectorsPerCluster)
      (followed : medium.follow volume cluster = .ok (some successor))
      (fewer : hops + 1 < volume.clusterCount)
      (moved : rest.cursor = { cursor with place := .chain successor 0 0 (hops + 1), held := none })
  | leftBehind {cluster sector taken hops : Nat}
      (stood : cursor.place = .chain cluster sector taken hops) (used : ¬ taken < 16)
      (last : ¬ sector + 1 < volume.sectorsPerCluster)
      (moved : rest.cursor =
        { cursor with place := .chain cluster (sector + 1) 0 hops, held := none })
      (cause : failure = .brokenChain ∨ ∃ event earlier, rest.host.trace = event :: earlier ∧
        event.RefusesLink volume.toLayout)

/-- A slot that cannot be taken, as its sector cannot be read, leaves the cursor in front
of it. -/
theorem take_halted {position : SlotPosition} {behind : Place}
    (failed : take position behind walk = .error failure rest) : rest.cursor = walk.cursor := by
  rcases error_of_bind failed with unread | ⟨sector, between, _, impossible⟩
  · rcases error_of_bind unread with impossible | ⟨start, _, got, unread⟩
    · cases impossible
    · cases got
      rcases error_of_bind unread with refused | ⟨_, _, _, impossible⟩
      · exact (error_of_lift refused).2
      · cases impossible
  · cases impossible

/-- The first slot of a sector that cannot be taken, as that sector cannot be read, leaves
the cursor as it was. -/
theorem takeFirst_halted {cluster sector hops : Nat}
    (failed : takeFirst volume cluster sector hops walk = .error failure rest) :
    rest.cursor = walk.cursor := by
  rcases error_of_bind failed with impossible | ⟨_, addressed, address, failed⟩
  · cases impossible
  · cases address
    have stays := take_halted failed
    exact stays

/-- A request that fails on the way to another sector leaves the cursor at the start of
that sector, or behind its own cluster, the link of which was refused or broken. -/
theorem enterSector_halted {cluster sector taken hops : Nat}
    (stood : walk.cursor.place = .chain cluster sector taken hops) (used : ¬ taken < 16)
    (data : volume.DataCluster cluster) (sized : walk.host.disk.sectorSize = 512)
    (failed : enterSector volume cluster sector hops walk = .error failure rest) :
    Halted walk.host.medium volume walk.cursor failure rest := by
  rcases error_of_bind failed with impossible | ⟨_, noted, computed, failed⟩
  · cases impossible
  cases computed
  rcases error_of_bind failed with impossible | ⟨_, moved, left, failed⟩
  · cases impossible
  cases left
  split at failed
  · next within => exact .nextSector stood used within (takeFirst_halted failed)
  next last =>
  rcases error_of_bind failed with unlinked | ⟨link, between, linked, failed⟩
  · obtain ⟨unfollowed, moved⟩ := error_of_lift unlinked
    obtain ⟨ended, halted⟩ := ran_error_iff.mp unfollowed
    -- The sector has been counted up by now, and is not counted down when the link cannot be
    -- followed.
    have known := (Volume.follow_failsAt data _ (by exact sized)).2 failure ended
    rw [halted] at known
    exact .leftBehind stood used last moved known
  obtain ⟨followed, moved⟩ := ok_of_lift linked
  cases link with
  | none =>
    rcases error_of_bind failed with impossible | ⟨_, _, _, impossible⟩ <;> cases impossible
  | some successor =>
    have reads : Reads (volume.follow cluster) walk.host.medium _ := Volume.follow_reads cluster
    have leads := reads.intended_of_ok (by rfl) (ran_ok_iff.mp followed).1
    rcases error_of_bind failed with impossible | ⟨_, counted, computed, failed⟩
    · cases impossible
    cases computed
    split at failed
    · next fewer =>
      rcases error_of_bind failed with impossible | ⟨_, _, left, failed⟩
      · cases impossible
      cases left
      refine .nextCluster stood used last leads fewer ((takeFirst_halted failed).trans ?_)
      dsimp only [Walk.leaveFor]
      rw [moved]
      rfl
    · cases failed
      exact .leftBehind stood used last moved (.inl rfl)

/-- A failing request for a slot leaves a sound cursor where it was, at the start of the
next sector, or behind a cluster whose link was refused or broken. -/
theorem nextSlot_halted (sound : walk.cursor.Sound volume.toLayout)
    (sized : walk.host.disk.sectorSize = 512)
    (failed : nextSlot volume walk = .error failure rest) :
    Halted walk.host.medium volume walk.cursor failure rest := by
  rcases error_of_bind failed with impossible | ⟨_, _, got, failed⟩
  · cases impossible
  cases got
  split at failed
  · cases failed
  next unfinished =>
  cases stood : walk.cursor.place with
  | root taken =>
    rw [stood] at failed
    dsimp only at failed
    split at failed
    · rcases error_of_bind failed with impossible | ⟨_, _, address, failed⟩
      · cases impossible
      cases address
      have stays := take_halted failed
      exact .stayed stays
    · rcases error_of_bind failed with impossible | ⟨_, _, _, impossible⟩ <;> cases impossible
  | chain cluster sector taken hops =>
    rw [stood] at failed
    dsimp only at failed
    split at failed
    · rcases error_of_bind failed with impossible | ⟨_, _, address, failed⟩
      · cases impossible
      cases address
      have stays := take_halted failed
      exact .stayed stays
    · next used =>
      rcases sound with done | sound
      · exact absurd done unfinished
      rw [stood] at sound
      exact enterSector_halted stood used sound.1 sized failed

/-! ## Cursors that can be asked again -/

/-- The cursor has the slots of its course ahead, and can be asked for them. -/
structure Poised (medium : Medium) (volume : Volume) (cursor : Cursor) : Prop where
  ready : cursor.Ready medium volume
  sound : cursor.Sound volume.toLayout

/-- A cursor that has just been started over a directory is poised: it is ready for the
slots of any medium, and stands soundly. -/
theorem start_poised (medium : Medium) {directory : Directory}
    (started : start volume directory = .ok cursor) : cursor.Poised medium volume :=
  ⟨(start_ready medium started).1, start_sound started fun _ => trivial⟩

/-- In front of the first slot of a sector, the slots ahead of a cursor begin with those
of that sector, whether it has been read or not. -/
theorem ahead_sectorStart {cluster sector hops : Nat} {held : Option (Nat × Sector)}
    (inside : sector < volume.sectorsPerCluster) :
    (Cursor.mk (.chain cluster sector 0 hops) held false).ahead medium volume =
      aheadFrom medium volume cluster sector hops := by
  rw [ahead, if_neg Bool.false_ne_true, aheadFrom, Medium.slotsFrom_inside inside]
  dsimp only
  rw [List.drop_zero]

/-- Behind the last slot of a sector, the slots ahead of a cursor begin with those of the
sector that follows. -/
theorem ahead_sectorEnd {cluster sector taken hops : Nat} {held : Option (Nat × Sector)}
    (used : ¬ taken < 16) :
    (Cursor.mk (.chain cluster sector taken hops) held false).ahead medium volume =
      aheadFrom medium volume cluster (sector + 1) hops := by
  rw [ahead, if_neg Bool.false_ne_true]
  dsimp only
  rw [Medium.drop_sectorSlots_end used, List.nil_append, aheadFrom]

/-- A request that fails leaves ahead what was ahead, unless it leaves the cursor behind the
last sector of its cluster. -/
theorem Halted.poised (poised : walk.cursor.Poised medium volume)
    (unfinished : walk.cursor.done = false)
    (halted : Halted medium volume walk.cursor failure rest) :
    (rest.cursor.Poised medium volume ∧
        rest.cursor.ahead medium volume = walk.cursor.ahead medium volume ∧
        rest.cursor.lastCluster medium volume = walk.cursor.lastCluster medium volume) ∨
      failure = .brokenChain ∨ walk.cursor.cluster?.isSome ∧
        ∃ event earlier, rest.host.trace = event :: earlier ∧
          event.RefusesLink volume.toLayout := by
  obtain ⟨⟨place, held, done⟩, host⟩ := walk
  obtain rfl : done = false := unfinished
  have sound := poised.sound.resolve_left Bool.false_ne_true
  cases halted with
  | stayed same =>
    rw [same]
    exact .inl ⟨poised, rfl, rfl⟩
  | @nextSector cluster sector taken hops stood used within moved =>
    obtain rfl : place = _ := stood
    rw [moved]
    refine .inl ⟨⟨.of_held_none ?_, .inr ⟨sound.1, within, sound.2.2⟩⟩, ?_, rfl⟩
    · rintro _ _ _ _ ⟨⟩
      exact .inr within
    · rw [ahead_sectorEnd used, ahead_sectorStart within]
  | @nextCluster cluster sector taken hops successor stood used last followed fewer moved =>
    obtain rfl : place = _ := stood
    have first := volume.usable.sectorsPerCluster_pos
    have whole : sector + 1 = volume.sectorsPerCluster := by
      have inside : sector < volume.sectorsPerCluster := sound.2.1
      omega
    obtain ⟨course, leads⟩ := aheadFrom_next followed fewer
    rw [moved]
    refine .inl ⟨⟨.of_held_none ?_, .inr ⟨Medium.follow_data followed, first, fewer⟩⟩, ?_, ?_⟩
    · rintro _ _ _ _ ⟨⟩
      exact .inr first
    · rw [ahead_sectorEnd used, ahead_sectorStart first, whole, course]
    · exact congrArg some leads.symm
  -- Here the cursor is behind the last sector of its cluster, where the slots ahead are not those
  -- of its chain.
  | leftBehind stood _ _ _ cause =>
    obtain rfl : place = _ := stood
    exact .inr (cause.imp_right fun refused => ⟨rfl, refused⟩)

/-- How a request to a cursor ends, seen from the course that the cursor has ahead: it yields
the first item, or tells that there is none, or is refused by the disk, and leaves the rest
ahead; or it fails as the empty course does. -/
inductive Turn (leaves : Course α → Prop) (disturbed : Prop) :
    Course α → Except Failure (Option α) → Prop
  | yielded {item : α} {items : List α} {ending : Option Failure}
      (further : leaves ⟨items, ending⟩) :
      Turn leaves disturbed ⟨item :: items, ending⟩ (.ok (some item))
  | ended (further : leaves ⟨[], none⟩) : Turn leaves disturbed ⟨[], none⟩ (.ok none)
  | refused {course : Course α} {failure : Failure} (ofDisk : failure.OfDisk) (cut : disturbed)
      (further : leaves course) : Turn leaves disturbed course (.error failure)
  | broken {failure : Failure} : Turn leaves disturbed ⟨[], some failure⟩ (.error failure)

/-- A turn that something may have disturbed is also one that anything may have disturbed
which follows from it. -/
theorem Turn.disturbed {leaves : Course α → Prop} {disturbed more : Prop} {course : Course α}
    {answer : Except Failure (Option α)} (turn : Turn leaves disturbed course answer)
    (implied : disturbed → more) : Turn leaves more course answer := by
  cases turn with
  | yielded further => exact .yielded further
  | ended further => exact .ended further
  | refused ofDisk cut further => exact .refused ofDisk (implied cut) further
  | broken => exact .broken

/-- From a walk, an operation leaves the medium as it is and takes a turn on the course ahead,
unless the cursor is in a chain and the disk refuses a sector of a table copy. A turn is
refused only where the disk refuses a transfer. -/
def TakesTurn (medium : Medium) (volume : Volume) (chained : Bool) (kept : Cursor → Prop)
    (ahead : Cursor → Course α) (ask : WalkM (Option α)) (walk : Walk) : Prop :=
  (afterwards ask walk).host.medium = medium ∧
  (afterwards ask walk).host.disk.sectorSize = 512 ∧
  ∃ events, (afterwards ask walk).host.trace = events ++ walk.host.trace ∧
    (((∃ failure, outcome ask walk = .error failure) ∧ chained = true ∧
        ∃ event ∈ events, event.RefusesLink volume.toLayout) ∨
      Turn (fun course => kept (afterwards ask walk).cursor ∧
          ahead (afterwards ask walk).cursor = course)
        (∃ event ∈ events, event.IsRefusal) (ahead walk.cursor) (outcome ask walk))

/-- From every walk over a medium with a cursor of a kind, an operation takes a turn. -/
def Resumable (medium : Medium) (volume : Volume) (chained : Bool) (kept : Cursor → Prop)
    (ahead : Cursor → Course α) (ask : WalkM (Option α)) : Prop :=
  ∀ walk : Walk, walk.host.medium = medium → walk.host.disk.sectorSize = 512 → kept walk.cursor →
    TakesTurn medium volume chained kept ahead ask walk

/-- A cursor that is done gives no further slot, and asks the disk for nothing. -/
theorem nextSlot_done (finished : walk.cursor.done = true) :
    nextSlot volume walk = .ok none walk := by
  rw [nextSlot, bind_of_ok (outcome_get walk)]
  dsimp only [afterwards_get]
  rw [if_pos finished]
  rfl

/-- The cursor is poised, and its walk comes to its end in a given cluster. -/
structure Heading (medium : Medium) (volume : Volume) (last : Option Nat) (cursor : Cursor) :
    Prop extends cursor.Poised medium volume where
  leads : cursor.lastCluster medium volume = last

/-- A cursor that is done stands in the cluster in which it has come to its end. -/
theorem lastCluster_done (finished : cursor.done = true) :
    cursor.lastCluster medium volume = cursor.cluster? := by
  obtain ⟨place, held, done⟩ := cursor
  obtain rfl : done = true := finished
  cases place <;> rfl

/-- A cursor comes to its end in some cluster if and only if it stands in a chain, and in
none if it stands in the root region. -/
theorem lastCluster_isSome (cursor : Cursor) :
    (cursor.lastCluster medium volume).isSome = cursor.cluster?.isSome := by
  obtain ⟨place, held, done⟩ := cursor
  cases place <;> cases done <;> rfl

/-- A cursor that is done has no slots ahead. -/
theorem ahead_done (finished : cursor.done = true) : cursor.ahead medium volume = ⟨[], none⟩ :=
  if_pos finished

/-- A request for a slot takes a turn on the slots ahead, so that it can be asked again
after a refusal that struck no table copy. -/
theorem nextSlot_resumable (medium : Medium) (volume : Volume) (last : Option Nat) :
    Resumable medium volume last.isSome (Heading medium volume last) (·.ahead medium volume)
      (nextSlot volume) := by
  intro walk holds sized heading
  obtain ⟨answer, reads, follows⟩ := nextSlot_follows heading.ready
  obtain ⟨events, traced, changed, device, ending⟩ := reads walk.host holds
  have still := ending.begun
  rw [List.prefix_nil] at still
  rw [afterwards_alongside] at traced changed device
  rw [still, holds] at changed
  refine ⟨changed, device.sectorSize.trans sized, events, traced, ?_⟩
  rw [outcome_alongside] at ending
  change Ending walk.host.disk.sectorSize answer [] events
    ((outcome (nextSlot volume) walk).map fun value =>
      (value, (afterwards (nextSlot volume) walk).cursor)) at ending
  -- A request that succeeds did what the medium says. One that fails failed as the medium says, or
  -- was refused, and then the place at which it halted matters.
  cases ended : outcome (nextSlot volume) walk with
  | ok value =>
    rw [ended] at ending
    have guided : Guided volume.toLayout AnyTransfer (nextSlot volume)
        (Cursor.Sound volume.toLayout) (Yielded volume.toLayout True) :=
      nextSlot_guided fun _ _ => trivial
    have sound := ((guided walk heading.sound).2 value ended).2
    generalize (afterwards (nextSlot volume) walk).cursor = moved at ending sound ⊢
    cases ending
    rw [heading.leads] at follows
    right
    dsimp only
    generalize walk.cursor.ahead medium volume = course at follows ⊢
    cases follows with
    | yielded ready remains leads => exact .yielded ⟨⟨⟨ready, sound⟩, leads⟩, remains⟩
    | ended ready done stands =>
      exact .ended ⟨⟨⟨ready, sound⟩, (lastCluster_done done).trans stands⟩, ahead_done done⟩
  | error failure =>
    rw [ended] at ending
    change Ending walk.host.disk.sectorSize answer [] events (.error failure) at ending
    cases ending with
    | completed granted carried =>
      right
      dsimp only
      generalize walk.cursor.ahead medium volume = course at follows ⊢
      cases follows
      exact .broken
    | refused attempt cause earlier noted granted begun =>
      have failed := ran_error_iff.mpr ⟨ended, rfl⟩
      have unfinished : walk.cursor.done = false := by
        by_contra done
        rw [nextSlot_done (by simpa using done)] at failed
        cases failed
      -- The refusal was the last event, so that a link which was refused is the one that this
      -- request sought.
      have halted := nextSlot_halted heading.sound sized failed
      rw [holds] at halted
      rcases halted.poised heading.toPoised unfinished with
        ⟨poised, remains, leads⟩ | impossible | ⟨chained, event, before, head, link⟩
      · exact .inr (.refused (.transfer cause) ⟨_, noted ▸ List.mem_cons_self, attempt, cause, rfl⟩
          ⟨⟨poised, leads.trans heading.leads⟩, remains⟩)
      · cases impossible
      · left
        rw [traced, noted, List.cons_append] at head
        obtain ⟨rfl, _⟩ := List.cons.inj head
        refine ⟨⟨_, rfl⟩, ?_, _, noted ▸ List.mem_cons_self, link⟩
        rw [← heading.leads, lastCluster_isSome, chained]
    | foreign other begun => exact absurd sized other

/-! ## Requests for an entry -/

/-- The entries of a course over slots, without their positions. -/
def entriesOf (slots : Course (SlotPosition × Slot)) : Course Entry :=
  ⟨slots.entries.items.map Prod.snd, slots.entries.ending⟩

/-- The live entries that a cursor has ahead, up to the first end marker. -/
def entriesAhead (medium : Medium) (volume : Volume) (cursor : Cursor) : Course Entry :=
  entriesOf (cursor.ahead medium volume)

/-- The cursor is poised in a chain, or in the root region. -/
structure PoisedIn (medium : Medium) (volume : Volume) (chained : Bool) (cursor : Cursor) :
    Prop extends cursor.Poised medium volume where
  stands : cursor.cluster?.isSome = chained

/-- A cursor that is poised on its way to some last cluster is poised in a chain, and
otherwise in the root region. -/
theorem Heading.poisedIn {last : Option Nat} (heading : Heading medium volume last cursor) :
    PoisedIn medium volume last.isSome cursor :=
  ⟨heading.toPoised, by rw [← lastCluster_isSome, heading.leads]⟩

/-- A cursor that is poised is still so when it has been told that it is done. -/
theorem PoisedIn.finished {chained : Bool} (poised : PoisedIn medium volume chained cursor) :
    PoisedIn medium volume chained { cursor with done := true } :=
  ⟨⟨⟨poised.ready.fresh, fun _ _ _ _ _ => .inl rfl⟩, .inl rfl⟩, poised.stands⟩

/-- The search for an entry asks for one slot, and then ends with its entry, ends for
good, or goes on with the next slot. -/
theorem next_eq (volume : Volume) : next volume = nextSlot volume >>= fun
    | none => pure none
    | some (_, .endMarker) => do
      modify Walk.finish
      return none
    | some (_, .live entry) => pure (some entry)
    | some _ => next volume := by
  conv_lhs => rw [next, nextEntry, sweep_eq, bind_assoc]
  refine congrArg _ (funext fun yielded => ?_)
  rcases yielded with _ | ⟨position, _ | _ | _ | _ | entry⟩ <;> rfl

/-- A failure to get the next slot is one to get the next entry, with the same entries
ahead. -/
theorem Turn.entries {leaves : Course (SlotPosition × Slot) → Prop} {keeps : Course Entry → Prop}
    {disturbed : Prop} {slots : Course (SlotPosition × Slot)}
    (turn : Turn leaves disturbed slots (.error failure))
    (kept : ∀ course, leaves course → keeps (entriesOf course)) :
    Turn keeps disturbed (entriesOf slots) (.error failure) := by
  cases turn with
  | refused ofDisk cut further => exact .refused ofDisk cut (kept _ further)
  | broken => exact .broken

/-- A walk that has passed a slot without an entry takes its turn on the entries behind
it, which are those that were ahead before. -/
theorem TakesTurn.after {chained : Bool} {kept : Cursor → Prop} {ahead : Cursor → Course α}
    {first : WalkM β} {further : β → WalkM (Option α)} {value : β} {events : List Event}
    (ran : outcome first walk = .ok value)
    (traced : (afterwards first walk).host.trace = events ++ walk.host.trace)
    (same : ahead (afterwards first walk).cursor = ahead walk.cursor)
    (turn : TakesTurn medium volume chained kept ahead (further value) (afterwards first walk)) :
    TakesTurn medium volume chained kept ahead (first >>= further) walk := by
  obtain ⟨unchanged, sized, later, continued, turned⟩ := turn
  rw [TakesTurn, afterwards_bind_ok ran, outcome_bind_ok ran]
  refine ⟨unchanged, sized, later ++ events, ?_, ?_⟩
  · rw [continued, traced, List.append_assoc]
  · rw [same] at turned
    rcases turned with ⟨failed, chain, event, member, link⟩ | turned
    · exact .inl ⟨failed, chain, event, List.mem_append_left _ member, link⟩
    · exact .inr (turned.disturbed fun ⟨event, member, refusal⟩ =>
        ⟨event, List.mem_append_left _ member, refusal⟩)

/-- A request for an entry takes a turn on the entries ahead, so that it can be asked
again after a refusal that struck no table copy. -/
theorem next_resumable (medium : Medium) (volume : Volume) (chained : Bool) :
    Resumable medium volume chained (PoisedIn medium volume chained)
      (entriesAhead medium volume) (next volume) := by
  intro walk holds sized poised
  have leads : (walk.cursor.lastCluster medium volume).isSome = chained :=
    (lastCluster_isSome walk.cursor).trans poised.stands
  obtain ⟨unchanged, still, events, traced, turned⟩ :=
    nextSlot_resumable medium volume _ walk holds sized ⟨poised.toPoised, rfl⟩
  rw [leads] at turned
  have onward {moved : Cursor}
      (heading : Heading medium volume (walk.cursor.lastCluster medium volume) moved) :
      PoisedIn medium volume chained moved := leads ▸ heading.poisedIn
  rw [next_eq]
  -- By the slots that are left: a slot without an entry is passed, and the rest of the search
  -- takes its turn from there.
  cases ended : outcome (nextSlot volume) walk with
  | error failure =>
    rw [TakesTurn, afterwards_bind_error ended, outcome_bind_error ended]
    refine ⟨unchanged, still, events, traced, ?_⟩
    rw [ended] at turned
    rcases turned with ⟨_, link⟩ | turn
    · exact .inl ⟨⟨failure, rfl⟩, link⟩
    · exact .inr (turn.entries fun course ⟨heading, remains⟩ =>
        ⟨onward heading, congrArg entriesOf remains⟩)
  | ok yielded =>
    rw [ended] at turned
    have turn := turned.resolve_left fun ⟨⟨_, impossible⟩, _⟩ => by cases impossible
    dsimp only at turn
    generalize course : walk.cursor.ahead medium volume = slots at turn
    have entries : entriesAhead medium volume walk.cursor = entriesOf slots :=
      congrArg entriesOf course
    cases turn with
    | ended further =>
      rw [TakesTurn, afterwards_bind_ok ended, outcome_bind_ok ended]
      refine ⟨unchanged, still, events, traced, .inr ?_⟩
      rw [entries]
      exact .ended ⟨onward further.1, congrArg entriesOf further.2⟩
    | @yielded item items ending further =>
      obtain ⟨heading, remains⟩ := further
      obtain ⟨position, slot⟩ := item
      -- Passing such a slot leaves the entries ahead as they are.
      have skips (without : entriesOf ⟨(position, slot) :: items, ending⟩ =
          entriesOf ⟨items, ending⟩) :
          entriesAhead medium volume (afterwards (nextSlot volume) walk).cursor =
            entriesAhead medium volume walk.cursor := by
        rw [entries, without, entriesAhead, remains]
      have behind := next_resumable medium volume chained _ unchanged still (onward heading)
      cases slot with
      | endMarker =>
        rw [TakesTurn, afterwards_bind_ok ended, outcome_bind_ok ended]
        refine ⟨unchanged, still, events, traced, .inr ?_⟩
        rw [entries]
        exact .ended ⟨(onward heading).finished, congrArg entriesOf (ahead_done rfl)⟩
      | live entry =>
        rw [TakesTurn, afterwards_bind_ok ended, outcome_bind_ok ended]
        refine ⟨unchanged, still, events, traced, .inr ?_⟩
        rw [entries]
        exact .yielded ⟨onward heading, congrArg entriesOf remains⟩
      | erased => exact behind.after ended traced (skips rfl)
      | longName => exact behind.after ended traced (skips rfl)
      | volumeLabel => exact behind.after ended traced (skips rfl)
termination_by walk => walk.cursor.slotsLeft volume
decreasing_by exact nextSlot_slotsLeft (ran_ok_iff.mpr ⟨ended, rfl⟩)

end Cursor

end FatVolume
