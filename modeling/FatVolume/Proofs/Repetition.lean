import FatVolume.Proofs.Interruptions

/-!
# Asking a cursor again and again

A caller may ask a cursor again whatever it was told before. The answers to so many requests
resume a course if each of them is the next item, or tells how the course ended, or is a
failure of the disk. Leaving out the failures of the disk, they tell the course up to its
end. What a cursor answers after it has told of a broken chain is not said here.

A run is undisturbed, or spared other events, by what it adds to the trace, so that requests
have to be known to add to the trace only.
-/

namespace FatVolume

variable {α β : Type}

/-! ## Courses that are told -/

/-- How a course with this ending answers so many requests once its items are told: that
there is none, each time, or the failure, behind which nothing is said. -/
def Course.close (ending : Option Failure) : Nat → List (Except Failure (Option α))
  | 0 => []
  | more + 1 =>
    match ending with
    | none => List.replicate (more + 1) (.ok none)
    | some failure => [.error failure]

/-- What so many requests are told of a course while nothing is refused. -/
def Course.told (course : Course α) (count : Nat) : List (Except Failure (Option α)) :=
  (course.items.take count).map (fun item => .ok (some item)) ++
    close course.ending (count - course.items.length)

namespace Course

/-- No requests are told nothing of a course. -/
theorem told_zero (course : Course α) : course.told 0 = [] := by
  rw [told, Nat.zero_sub]
  rfl

/-- The first of some requests is told of the first item of a course, and the others of
what stands behind it. -/
theorem told_cons (item : α) (items : List α) (ending : Option Failure) (count : Nat) :
    told ⟨item :: items, ending⟩ (count + 1) = .ok (some item) :: told ⟨items, ending⟩ count := by
  rw [told, told, List.length_cons, Nat.add_sub_add_right]
  rfl

/-- A course that has come to its end tells so to one request after the other. -/
theorem told_ended (count : Nat) :
    told (⟨[], none⟩ : Course α) (count + 1) = .ok none :: told ⟨[], none⟩ count := by
  cases count <;> rfl

/-- A course that has broken off tells of its failure once, and what is answered behind
that is left open. -/
theorem told_broken (failure : Failure) (count : Nat) :
    told (⟨[], some failure⟩ : Course α) (count + 1) = [.error failure] := rfl

/-- A course that does not break off answers every request, with an item or with the end. -/
theorem told_length (items : List α) (count : Nat) :
    (told ⟨items, none⟩ count).length = count := by
  have closed (more : Nat) :
      (close none more : List (Except Failure (Option α))).length = more := by
    cases more with
    | zero => rfl
    | succ more => exact List.length_replicate
  rw [told, List.length_append, closed, List.length_map, List.length_take]
  dsimp only
  omega

/-- Requests that are enough in number are told of each item of a course in its turn. -/
theorem told_getElem? {course : Course α} {number count : Nat} {item : α} (asked : number < count)
    (stands : course.items[number]? = some item) :
    (course.told count)[number]? = some (.ok (some item)) := by
  obtain ⟨inside, same⟩ := List.getElem?_eq_some_iff.mp stands
  have early : number < ((course.items.take count).map fun item =>
      (Except.ok (some item) : Except Failure (Option α))).length := by
    rw [List.length_map, List.length_take]
    omega
  rw [told, List.getElem?_append_left early, List.getElem?_map, List.getElem?_take, if_pos asked,
    stands]
  rfl

end Course

/-! ## Answers -/

/-- The answer is a failure of the disk. -/
def refusedByDisk : Except Failure β → Bool
  | .error (.transfer _) => true
  | .error (.sectorSize _) => true
  | _ => false

/-- An answer counts as refused by the disk if and only if it is a failure of the disk. -/
theorem refusedByDisk_iff {failure : Failure} :
    refusedByDisk (.error failure : Except Failure β) = true ↔ failure.OfDisk := by
  constructor
  · intro refused
    cases failure with
    | transfer cause => exact .transfer cause
    | sectorSize bytes => exact .sectorSize bytes
    | _ => cases refused
  · intro ofDisk
    cases ofDisk <;> rfl

/-- The answers that are no failures of the disk. -/
def settled (answers : List (Except Failure β)) : List (Except Failure β) :=
  answers.filter fun answer => !refusedByDisk answer

/-- The answers to repeated requests, seen from a course. While transfers are refused, a
failure of the disk leaves the course as it is. -/
inductive Resumes (leaves : Course α → Prop) (disturbed : Prop) :
    Course α → List (Except Failure (Option α)) → Prop
  | unasked {course : Course α} (stands : leaves course) : Resumes leaves disturbed course []
  | yielded {item : α} {items : List α} {ending : Option Failure}
      {answers : List (Except Failure (Option α))}
      (further : Resumes leaves disturbed ⟨items, ending⟩ answers) :
      Resumes leaves disturbed ⟨item :: items, ending⟩ (.ok (some item) :: answers)
  | ended {answers : List (Except Failure (Option α))}
      (further : Resumes leaves disturbed ⟨[], none⟩ answers) :
      Resumes leaves disturbed ⟨[], none⟩ (.ok none :: answers)
  | refused {course : Course α} {failure : Failure} {answers : List (Except Failure (Option α))}
      (ofDisk : failure.OfDisk) (cut : disturbed)
      (further : Resumes leaves disturbed course answers) :
      Resumes leaves disturbed course (.error failure :: answers)
  | broken {failure : Failure} {answers : List (Except Failure (Option α))} :
      Resumes leaves disturbed ⟨[], some failure⟩ (.error failure :: answers)

namespace Resumes

variable {leaves : Course α → Prop} {disturbed more : Prop} {course : Course α}
  {answers : List (Except Failure (Option α))}

/-- Answers that resume a course under some disturbance do so under any condition that
follows from it. -/
theorem implied (resumes : Resumes leaves disturbed course answers)
    (implied : disturbed → more) : Resumes leaves more course answers := by
  induction resumes with
  | unasked stands => exact .unasked stands
  | yielded _ inductionHypothesis => exact .yielded inductionHypothesis
  | ended _ inductionHypothesis => exact .ended inductionHypothesis
  | refused ofDisk cut _ inductionHypothesis =>
    exact .refused ofDisk (implied cut) inductionHypothesis
  | broken => exact .broken

/-- When the failures of the disk are left out, the answers begin with what the course
tells to so many requests. -/
theorem settled (resumes : Resumes leaves disturbed course answers)
    (broken : ∀ failure, course.ending = some failure → ¬ failure.OfDisk) :
    course.told (settled answers).length <+: settled answers := by
  -- An answer that is left out has left the course as it was.
  induction resumes with
  | @unasked course => exact ⟨[], (List.append_nil _).trans course.told_zero⟩
  | yielded _ inductionHypothesis =>
    have behind := inductionHypothesis broken
    rw [FatVolume.settled, List.filter_cons_of_pos rfl, List.length_cons, Course.told_cons]
    exact List.cons_prefix_cons.mpr ⟨rfl, behind⟩
  | ended _ inductionHypothesis =>
    have behind := inductionHypothesis broken
    rw [FatVolume.settled, List.filter_cons_of_pos rfl, List.length_cons, Course.told_ended]
    exact List.cons_prefix_cons.mpr ⟨rfl, behind⟩
  | refused ofDisk _ _ inductionHypothesis =>
    have behind := inductionHypothesis broken
    rw [FatVolume.settled, List.filter_cons_of_neg (by simp [refusedByDisk_iff.mpr ofDisk])]
    exact behind
  | @broken failure answers =>
    have own : ¬ refusedByDisk (.error failure : Except Failure (Option α)) = true :=
      mt refusedByDisk_iff.mp (broken failure rfl)
    rw [FatVolume.settled, List.filter_cons_of_pos (by simpa using own), List.length_cons,
      Course.told_broken]
    exact List.cons_prefix_cons.mpr ⟨rfl, List.nil_prefix⟩

/-- Where nothing is disturbed, the answers begin with what the course tells to so many
requests, with none left out. -/
theorem told (resumes : Resumes leaves disturbed course answers) (calm : ¬ disturbed) :
    course.told answers.length <+: answers := by
  induction resumes with
  | @unasked course => exact ⟨[], (List.append_nil _).trans course.told_zero⟩
  | yielded _ inductionHypothesis =>
    rw [List.length_cons, Course.told_cons]
    exact List.cons_prefix_cons.mpr ⟨rfl, inductionHypothesis⟩
  | ended _ inductionHypothesis =>
    rw [List.length_cons, Course.told_ended]
    exact List.cons_prefix_cons.mpr ⟨rfl, inductionHypothesis⟩
  | refused _ cut => exact absurd cut calm
  | broken => exact List.cons_prefix_cons.mpr ⟨rfl, List.nil_prefix⟩

/-- Where nothing is refused and the course does not break off, what the answers have not
told is left. -/
theorem left (resumes : Resumes leaves disturbed course answers) (calm : ¬ disturbed)
    (whole : course.ending = none) :
    leaves ⟨course.items.drop answers.length, none⟩ := by
  induction resumes with
  | @unasked course stands =>
    obtain ⟨items, ending⟩ := course
    obtain rfl : ending = none := whole
    exact stands
  | yielded _ inductionHypothesis => exact inductionHypothesis whole
  | ended _ inductionHypothesis =>
    have stands := inductionHypothesis whole
    rwa [List.drop_nil] at stands ⊢
  | refused _ cut => exact absurd cut calm
  | broken => cases whole

end Resumes

/-! ## Requests -/

namespace Cursor

variable {medium : Medium} {volume : Volume}

/-- The answers to so many requests, each of them asked whatever became of those before. -/
def requests (ask : WalkM (Option α)) : Nat → WalkM (List (Except Failure (Option α)))
  | 0 => pure []
  | count + 1 => do
    let answer ← observe ask
    let further ← requests ask count
    return answer :: further

/-- Requests that are repeated are all answered, each with an item, with the end or with a
failure. -/
theorem requests_answered (ask : WalkM (Option α)) (count : Nat) (walk : Walk) :
    ∃ answers, outcome (requests ask count) walk = .ok answers ∧ answers.length = count := by
  induction count generalizing walk with
  | zero => exact ⟨[], rfl, rfl⟩
  | succ count inductionHypothesis =>
    obtain ⟨answers, answered, counted⟩ := inductionHypothesis (afterwards ask walk)
    refine ⟨outcome ask walk :: answers, ?_, congrArg (· + 1) counted⟩
    rw [requests, outcome_bind_ok (outcome_observe ask walk), afterwards_observe,
      outcome_bind_ok answered]
    rfl

/-- Of repeated requests the first is answered where the walk stands, and the others where
it has ended. -/
theorem requests_succ (ask : WalkM (Option α)) (count : Nat) (walk : Walk)
    {answers : List (Except Failure (Option α))}
    (answered : outcome (requests ask count) (afterwards ask walk) = .ok answers) :
    outcome (requests ask (count + 1)) walk = .ok (outcome ask walk :: answers) ∧
      afterwards (requests ask (count + 1)) walk =
        afterwards (requests ask count) (afterwards ask walk) := by
  rw [requests, outcome_bind_ok (outcome_observe ask walk),
    afterwards_bind_ok (outcome_observe ask walk), afterwards_observe, outcome_bind_ok answered,
    afterwards_bind_ok answered]
  exact ⟨rfl, rfl⟩

/-! ## What requests add to the trace -/

/-- From every walk, an operation adds to the trace only. -/
def OnlyAdds (operation : WalkM α) : Prop :=
  ∀ walk : Walk, ∃ events, (afterwards operation walk).host.trace = events ++ walk.host.trace

namespace OnlyAdds

/-- An operation that only gives a value takes no event from the trace, nor does it touch
any other part of the walk. -/
theorem pure (value : α) : OnlyAdds (pure value) := fun _ => ⟨[], rfl⟩

/-- An operation that only fails takes no event from the trace, nor does it touch any
other part of the walk. -/
theorem throw (failure : Failure) : OnlyAdds (throw failure : WalkM α) := fun _ => ⟨[], rfl⟩

/-- Looking at a walk takes no event from the trace, nor does it touch any other part of
the walk. -/
theorem get : OnlyAdds (get : WalkM Walk) := fun _ => ⟨[], rfl⟩

/-- A change of a walk that leaves its host alone takes no event from the trace, which is
part of the host. -/
theorem modify {change : Walk → Walk} (same : ∀ walk, (change walk).host = walk.host) :
    OnlyAdds (modify change) := fun walk => ⟨[], congrArg Host.trace (same walk)⟩

/-- A sequence only adds events to the trace if its first operation does and so does every
one that may follow. -/
theorem bind {first : WalkM α} {next : α → WalkM β} (adds : OnlyAdds first)
    (further : ∀ value, OnlyAdds (next value)) : OnlyAdds (first >>= next) := by
  intro walk
  obtain ⟨events, traced⟩ := adds walk
  cases ended : outcome first walk with
  | ok value =>
    obtain ⟨later, continued⟩ := further value (afterwards first walk)
    refine ⟨later ++ events, ?_⟩
    rw [afterwards_bind_ok ended, continued, traced, List.append_assoc]
  | error failure =>
    rw [afterwards_bind_error ended]
    exact ⟨events, traced⟩

/-- An operation whose failure is looked at only adds events to the trace if the operation
itself does. -/
theorem observe {operation : WalkM α} (adds : OnlyAdds operation) :
    OnlyAdds (observe operation) := by
  intro walk
  rw [afterwards_observe]
  exact adds walk

/-- An operation on the host that performs something on every medium only adds events to
the trace. -/
theorem lift {operation : HostM α}
    (performs : ∀ medium, ∃ intended writes, Performs operation medium intended writes) :
    OnlyAdds (liftM operation : WalkM α) := by
  intro walk
  obtain ⟨_, _, performed⟩ := performs walk.host.medium
  obtain ⟨events, traced, _⟩ := performed walk.host rfl
  rw [afterwards_liftWalk]
  exact ⟨events, traced⟩

end OnlyAdds

/-- Taking a slot only adds events to the trace, whether its sector is held already or has
to be read. -/
theorem take_onlyAdds (position : SlotPosition) (behind : Place) :
    OnlyAdds (take position behind) := by
  refine OnlyAdds.bind (.bind .get fun walk => ?_) fun _ =>
    .bind (.lift fun _ => ⟨_, _, Performs.compute _⟩) fun _ =>
      .bind (.modify fun _ => rfl) fun _ => .pure _
  refine .bind ?_ fun _ => .bind (.modify fun _ => rfl) fun _ => .pure _
  unfold readUnlessKept
  cases keptSector walk.cursor.held position.lba with
  | some sector => exact .lift fun _ => ⟨_, _, Performs.pure sector⟩
  | none => exact .lift fun _ => ⟨_, _, Reads.readSector position.lba⟩

/-- Entering a sector only adds events to the trace, whether it lies in the same cluster
or behind a link. -/
theorem enterSector_onlyAdds (cluster sector hops : Nat) :
    OnlyAdds (enterSector volume cluster sector hops) := by
  have taken (number place hop : Nat) : OnlyAdds (takeFirst volume number place hop) :=
    .bind (.lift fun _ => ⟨_, _, Volume.clusterAddress_reads number place⟩) fun _ => take_onlyAdds _ _
  have computed (computation : Computation) :
      OnlyAdds (liftM (volume.workOut computation) : WalkM Nat) :=
    .lift fun _ => ⟨_, _, Volume.workOut_reads _⟩
  refine .bind (computed _) fun _ => .bind (.modify fun _ => rfl) fun _ => ?_
  split
  · exact taken _ _ _
  · refine .bind (.lift fun _ => ⟨_, _, Volume.follow_reads cluster⟩) fun link => ?_
    cases link with
    | none => exact .bind (computed _) fun _ => .bind (.modify fun _ => rfl) fun _ => .pure _
    | some successor =>
      refine .bind (computed _) fun _ => ?_
      split
      · exact .bind (.modify fun _ => rfl) fun _ => taken _ _ _
      · exact .throw _

/-- A request for a slot only adds events to the trace, wherever the cursor stands. -/
theorem nextSlot_onlyAdds (volume : Volume) : OnlyAdds (nextSlot volume) := by
  have finished : OnlyAdds (do modify Walk.finish; return none :
      WalkM (Option (SlotPosition × Slot))) := .bind (.modify fun _ => rfl) fun _ => .pure _
  refine .bind .get fun walk => ?_
  split
  · exact .pure _
  · split
    · split
      · exact .bind (.lift fun _ => ⟨_, _, Volume.rootAddress_reads _⟩) fun _ => take_onlyAdds _ _
      · exact finished
    · split
      · exact .bind (.lift fun _ => ⟨_, _, Volume.clusterAddress_reads _ _⟩) fun _ => take_onlyAdds _ _
      · exact enterSector_onlyAdds _ _ _

/-- A request for an entry only adds events to the trace, however many slots it passes. -/
theorem next_onlyAdds (volume : Volume) : OnlyAdds (next volume) := by
  refine .bind (fun walk => ?_) fun answer => ?_
  · simp only [afterwards]
    -- Each slot that is passed adds its own events to those of the search behind it.
    fun_induction sweep volume (visitEntry fun _ => true) walk with
    | case1 walk failure rest yielded =>
      obtain ⟨events, traced⟩ := nextSlot_onlyAdds volume walk
      exact ⟨events, (ran_error_iff.mp yielded).2 ▸ traced⟩
    | case2 walk rest yielded | case3 walk position slot rest yielded answer answered =>
      obtain ⟨events, traced⟩ := nextSlot_onlyAdds volume walk
      exact ⟨events, (ran_ok_iff.mp yielded).2 ▸ traced⟩
    | case4 walk position slot rest yielded passed inductionHypothesis =>
      obtain ⟨events, traced⟩ := nextSlot_onlyAdds volume walk
      obtain ⟨later, continued⟩ := inductionHypothesis
      rw [(ran_ok_iff.mp yielded).2] at traced
      exact ⟨later ++ events, by rw [continued, traced, List.append_assoc]⟩
  · rcases answer with _ | _ | entry
    · exact .pure _
    · exact .bind (.modify fun _ => rfl) fun _ => .pure _
    · exact .pure _

/-- Repeated requests only add events to the trace if a single one does. -/
theorem requests_onlyAdds {ask : WalkM (Option α)} (adds : OnlyAdds ask) (count : Nat) :
    OnlyAdds (requests ask count) := by
  induction count with
  | zero => exact .pure _
  | succ count inductionHypothesis =>
    exact .bind adds.observe fun _ => .bind inductionHypothesis fun _ => .pure _

/-! ## Resumption -/

/-- Requests that take their turn from wherever the one before has left the cursor resume
what the cursor had ahead at first. -/
theorem Resumable.resumes {chained : Bool} {kept : Cursor → Prop} {ahead : Cursor → Course α}
    {ask : WalkM (Option α)} (resumable : Resumable medium volume chained kept ahead ask)
    (adds : OnlyAdds ask) (count : Nat) {walk : Walk} (holds : walk.host.medium = medium)
    (sized : walk.host.disk.sectorSize = 512) (begun : kept walk.cursor)
    (spared : chained = true → walk.host.Spared (Event.RefusesLink volume.toLayout)
      (afterwards (requests ask count) walk).host) :
    ∃ answers, outcome (requests ask count) walk = .ok answers ∧ answers.length = count ∧
      Resumes (fun course => kept (afterwards (requests ask count) walk).cursor ∧
          ahead (afterwards (requests ask count) walk).cursor = course)
        (¬ walk.host.Undisturbed (afterwards (requests ask count) walk).host)
        (ahead walk.cursor) answers := by
  -- Along the requests: each leaves a cursor that is kept, from which the others take their turns.
  induction count generalizing walk with
  | zero => exact ⟨[], rfl, rfl, .unasked ⟨begun, rfl⟩⟩
  | succ count inductionHypothesis =>
    obtain ⟨answers, answered, counted⟩ := requests_answered ask count (afterwards ask walk)
    obtain ⟨first, rest⟩ := requests_succ ask count walk answered
    obtain ⟨unchanged, still, events, traced, turned⟩ := resumable walk holds sized begun
    have onward := requests_onlyAdds adds count (afterwards ask walk)
    rw [rest] at spared ⊢
    generalize final : afterwards (requests ask count) (afterwards ask walk) = last at *
    have divided (chain : chained = true) := (spared chain).divide ⟨events, traced⟩ onward
    -- No access to the table was refused to this request, as none was in the whole run.
    have turn := turned.resolve_left fun ⟨_, chain, event, member, link⟩ =>
      (divided chain).1.known traced event member link
    refine ⟨_, first, congrArg (· + 1) counted, ?_⟩
    have disturbs (later : ¬ (afterwards ask walk).host.Undisturbed last.host) :
        ¬ walk.host.Undisturbed last.host :=
      fun undisturbed => later (undisturbed.divide ⟨events, traced⟩ onward).2
    -- A refusal in the first request is one in the whole run.
    have cut (refused : ∃ event ∈ events, event.IsRefusal) :
        ¬ walk.host.Undisturbed last.host := by
      obtain ⟨event, member, refusal⟩ := refused
      exact fun undisturbed =>
        Host.Spared.known (undisturbed.divide ⟨events, traced⟩ onward).1 traced event member refusal
    have further (still' : kept (afterwards ask walk).cursor) :
        Resumes (fun course => kept last.cursor ∧ ahead last.cursor = course)
          (¬ walk.host.Undisturbed last.host) (ahead (afterwards ask walk).cursor) answers := by
      obtain ⟨others, same, _, resumes⟩ := inductionHypothesis unchanged still still'
        fun chain => by rw [final]; exact (divided chain).2
      rw [answered] at same
      cases same
      rw [final] at resumes
      exact resumes.implied disturbs
    generalize ahead walk.cursor = course at turn ⊢
    generalize outcome ask walk = answer at turn ⊢
    cases turn with
    | yielded behind => exact .yielded (behind.2 ▸ further behind.1)
    | ended behind => exact .ended (behind.2 ▸ further behind.1)
    | refused ofDisk refusal behind =>
      exact .refused ofDisk (cut refusal) (behind.2 ▸ further behind.1)
    | broken => exact .broken

/-- Requests that nothing disturbs are answered with what the cursor had ahead at first,
in order. -/
theorem Resumable.told {chained : Bool} {kept : Cursor → Prop} {ahead : Cursor → Course α}
    {ask : WalkM (Option α)} (resumable : Resumable medium volume chained kept ahead ask)
    (adds : OnlyAdds ask) (count : Nat) {walk : Walk} (holds : walk.host.medium = medium)
    (sized : walk.host.disk.sectorSize = 512) (begun : kept walk.cursor)
    (undisturbed : walk.host.Undisturbed (afterwards (requests ask count) walk).host) :
    ∃ answers, outcome (requests ask count) walk = .ok answers ∧ answers.length = count ∧
      (ahead walk.cursor).told count <+: answers := by
  obtain ⟨answers, answered, counted, resumes⟩ :=
    resumable.resumes adds count holds sized begun fun _ => undisturbed.sparesLinks volume.toLayout
  have told := resumes.told (not_not_intro undisturbed)
  rw [counted] at told
  exact ⟨answers, answered, counted, told⟩

/-- Undisturbed requests for slots are answered with those that a poised cursor has ahead,
in order. -/
theorem Poised.told {cursor : Cursor} {host : Host} (poised : cursor.Poised host.medium volume)
    (sized : host.disk.sectorSize = 512) (count : Nat)
    (undisturbed :
      host.Undisturbed (afterwards (requests (nextSlot volume) count) ⟨cursor, host⟩).host) :
    ∃ answers, outcome (requests (nextSlot volume) count) ⟨cursor, host⟩ = .ok answers ∧
      answers.length = count ∧ (cursor.ahead host.medium volume).told count <+: answers :=
  (nextSlot_resumable host.medium volume (cursor.lastCluster host.medium volume)).told
    (nextSlot_onlyAdds volume) count rfl sized ⟨poised, rfl⟩ undisturbed

/-- From the start of a directory whose slots come to an end they tell of these slots, and then of
the end. -/
theorem start_told {directory : Directory} {cursor : Cursor} {host : Host}
    (sized : host.disk.sectorSize = 512) (started : start volume directory = .ok cursor)
    {slots : List (SlotPosition × Slot)} (whole : host.medium.slots volume directory = ⟨slots, none⟩)
    (count : Nat)
    (undisturbed :
      host.Undisturbed (afterwards (requests (nextSlot volume) count) ⟨cursor, host⟩).host) :
    outcome (requests (nextSlot volume) count) ⟨cursor, host⟩ =
      .ok (Course.told ⟨slots, none⟩ count) := by
  obtain ⟨answers, answered, counted, told⟩ :=
    (start_poised host.medium started).told sized count undisturbed
  rw [(start_ready host.medium started).2, whole] at told
  rw [answered, told.eq_of_length ((Course.told_length _ count).trans counted.symm)]

end Cursor

end FatVolume
